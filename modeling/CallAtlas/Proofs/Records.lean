import CallAtlas.Configuration.Record

/-!
# Records read back

A graph, an analysis, a filter or a configuration is read back from the value that it is
written as. The steps are those of reading: each field is found under its name
(`Tells.field`, `Tells.fieldOr`), or it was left out because it has no value
(`Tells.optional`). What a field holds is read back because it is a record, a list, a name
or a number itself.

Numbers have to fit the words in which they are read: that is the `Fits` of each record.
-/

namespace CallAtlas

namespace Json

section Fields

variable {α β γ : Type} {members : List (String × Json α)} {name : String}

/-! ## Members -/

@[simp] theorem lookup_nil : lookup ([] : List (String × Json α)) name = none := rfl

/-- The first member is found under its own name, and hides any later one of that name. -/
@[simp] theorem lookup_cons (n : String) (v : Json α) :
    lookup ((n, v) :: members) name = if n == name then some v else lookup members name := by
  unfold lookup
  rw [List.find?_cons]
  cases n == name <;> rfl

/-- Members that come first are looked through first. -/
@[simp] theorem lookup_append (others : List (String × Json α)) :
    lookup (members ++ others) name = (lookup members name).or (lookup others name) := by
  unfold lookup
  rw [List.find?_append]
  cases members.find? (·.1 == name) <;> rfl

/-- A member that is left out where it has no value is found just if it has one. -/
@[simp] theorem lookup_optionalMember (n : String) (o : Option (Json α)) :
    lookup (optionalMember n o) name = if n == name then o else none := by
  cases o with
  | none => simp [optionalMember, lookup]
  | some v => simp [optionalMember, lookup]

/-! ## Fields of a record -/

/-- What is read of the members of a record, which are still there. -/
def Tells (members : List (String × Json α)) (read : StateT (Fields α) Option β) (b : β) : Prop :=
  read (.named members) = some (b, .named members)

/-- A record of which nothing more is read. -/
theorem Tells.done (b : β) : Tells members (pure b) b := rfl

/-- Two parts of a record are read one after the other, from the same members. -/
theorem Tells.bind {read : StateT (Fields α) Option β} {next : β → StateT (Fields α) Option γ}
    {b : β} {c : γ} (h : Tells members read b) (hnext : Tells members (next b) c) :
    Tells members (read >>= next) c := by
  show (read (.named members)).bind _ = _
  rw [h]
  exact hnext

/-- A field is read under its name. -/
theorem Tells.field {read : Json α → Option β} {next : β → StateT (Fields α) Option γ} {v : Json α}
    {b : β} {c : γ} (h : lookup members name = some v) (hread : read v = some b)
    (hnext : Tells members (next b) c) : Tells members (field name read >>= next) c := by
  refine Tells.bind ?_ hnext
  simp [Tells, Json.field, h, hread]

/-- A field that may be left out is read under its name. -/
theorem Tells.fieldOr {default : β} {read : Json α → Option β}
    {next : β → StateT (Fields α) Option γ} {v : Json α} {b : β} {c : γ}
    (h : lookup members name = some v) (hread : read v = some b)
    (hnext : Tells members (next b) c) : Tells members (fieldOr default name read >>= next) c := by
  refine Tells.bind ?_ hnext
  simp [Tells, Json.fieldOr, h, hread]

/-- A field that is left out where it has no value has none where it was left out. -/
theorem Tells.optional {read : Json α → Option β} {next : Option β → StateT (Fields α) Option γ}
    {o : Option β} {c : γ} (write : β → Json α) (h : lookup members name = o.map write)
    (hread : ∀ b ∈ o, maybe? read (write b) = some (some b)) (hnext : Tells members (next o) c) :
    Tells members (Json.fieldOr none name (maybe? read) >>= next) c := by
  refine Tells.bind ?_ hnext
  cases o with
  | none => simp [Tells, Json.fieldOr, h]
  | some b => simp [Tells, Json.fieldOr, h, hread]

/-- What the fields of an object tell is what the object is read as. -/
theorem record?_obj {c : Conventions α} {read : StateT (Fields α) Option β} {b : β}
    (h : Tells members read b) : record? c read (.obj members) = some b := by
  rw [record?, h]
  rfl

/-! ## Single values -/

theorem string?_str (s : String) : string? (.str s : Json α) = some s := rfl

theorem bool?_bool (b : Bool) : bool? (.bool b : Json α) = some b := rfl

theorem measure?_real [Measure α] (x : α) : measure? (.real x) = some x := rfl

/-- A number below the bound is read back. -/
theorem natBelow?_nat {bound n : Nat} (h : n < bound) :
    natBelow? bound (nat n : Json α) = some n := by
  simp [natBelow?, nat, h]

theorem maybe?_nat {bound n : Nat} (h : n < bound) :
    maybe? (natBelow? bound) (nat n : Json α) = some (some n) := by
  show (natBelow? bound (nat n : Json α)).map some = _
  rw [natBelow?_nat h]
  rfl

/-- A list is read back if each of its items is. -/
theorem list?_map {read : Json α → Option β} {write : β → Json α} {items : List β}
    (h : ∀ b ∈ items, read (write b) = some b) :
    list? read (.arr (items.map write)) = some items := by
  show (items.map write).mapM read = some items
  induction items with
  | nil => rfl
  | cons b items ih =>
    obtain ⟨hb, hitems⟩ := List.forall_mem_cons.mp h
    rw [List.map_cons, List.mapM_cons, hb, ih hitems]
    rfl

/-- Texts in a list are read back as they are. -/
theorem list?_strs (items : List String) :
    list? string? (strs items : Json α) = some items := list?_map fun _ _ => rfl

end Fields

end Json

open Json

variable {α : Type}

/-- Numbers that a word of 64 bits can hold. -/
def IsSize (n : Nat) : Prop := n < Number.wordBound 64

/-- Numbers that a word of 32 bits can hold. -/
def IsScore (n : Nat) : Prop := n < Number.wordBound 32

/-- A number that fits a word of 64 bits is read back as a size. -/
theorem size?_nat {n : Nat} (h : IsSize n) : size? (nat n : Json α) = some n :=
  natBelow?_nat h

/-- A number that fits a word of 32 bits is read back as a score. -/
theorem score?_nat {n : Nat} (h : IsScore n) : score? (nat n : Json α) = some n :=
  natBelow?_nat h

/-! ## Names of choices -/

/-- A category of faults is read back from its name. For this and the choices below, the names are
those under which the reader knows them. -/
theorem choice?_kind (k : FaultKind) :
    choice? .json SourceFault.kinds (.str k.name : Json α) = some k := by
  cases k <;> rfl

/-- A role of a node is read back from its name. -/
theorem choice?_role (r : NodeRole) :
    choice? .json NodeRole.choices (.str r.name : Json α) = some r := by
  cases r <;> rfl

/-- A category of complexity is read back from its name. -/
theorem choice?_category (c : Category) :
    choice? .json Category.choices (.str c.name : Json α) = some c := by
  cases c <;> rfl

/-- A format is read back from its name. -/
theorem choice?_format (f : ReportFormat) :
    choice? .json ReportFormat.choices (.str f.name : Json α) = some f := by
  cases f <;> rfl

/-- A direction is read back from its name. -/
theorem choice?_direction (d : Direction) :
    choice? .json Direction.choices (.str d.name : Json α) = some d := by
  cases d <;> rfl

/-- An arrangement is read back from its name, and none from what stands for nothing. -/
theorem maybe?_arrangement (a : Option Arrangement) :
    maybe? (choice? .json Arrangement.choices)
      ((a.map fun a => Json.str a.name).getD .null : Json α) = some a := by
  cases a with
  | none => rfl
  | some a => cases a <;> rfl

/-! ## Functions and calls -/

/-- A parameter is read back, with its default if it has one. -/
theorem Parameter.ofJson?_toJson (p : Parameter) :
    ofJson? .json (p.toJson : Json α) = some p :=
  record?_obj <|
    .field (by simp) (string?_str _) <|
    .field (by simp) (string?_str _) <|
    .field (by simp) (bool?_bool _) <|
    .optional .str (by simp) (fun _ _ => rfl) <|
    .done _

namespace Span

/-- The numbers of a span fit their words. -/
structure Fits (s : Span) : Prop where
  startLine : IsSize s.startLine
  startColumn : IsSize s.startColumn
  endLine : IsSize s.endLine
  endColumn : IsSize s.endColumn

/-- A span is read back. -/
theorem ofJson?_toJson {s : Span} (h : s.Fits) : ofJson? .json (s.toJson : Json α) = some s :=
  record?_obj <|
    .field (by simp) (size?_nat h.startLine) <|
    .field (by simp) (size?_nat h.startColumn) <|
    .field (by simp) (size?_nat h.endLine) <|
    .field (by simp) (size?_nat h.endColumn) <|
    .done _

end Span

namespace FunctionInfo

/-- The numbers of a function fit their words. -/
def Fits (f : FunctionInfo) : Prop := f.span.Fits

/-- The names of the members of a function behind its name. -/
def memberNames : List String :=
  ["parameters", "returnType", "location", "isAsync", "isExported", "documentation"]

/-- A function is read back from any members among which its own are found. -/
theorem tells_fields {f : FunctionInfo} (h : f.Fits) {label : String}
    {members : List (String × Json α)} (hlabel : lookup members label = some (.str f.name))
    (hmembers : ∀ name ∈ memberNames, lookup members name = lookup f.members name) :
    Tells members (fields .json label) f := by
  have hparameters := hmembers "parameters" (by decide)
  have hreturn := hmembers "returnType" (by decide)
  have hspan := hmembers "location" (by decide)
  have hasync := hmembers "isAsync" (by decide)
  have hexported := hmembers "isExported" (by decide)
  have hdocumentation := hmembers "documentation" (by decide)
  exact
    .field hlabel (string?_str _) <|
    .field (by simp [hparameters, FunctionInfo.members])
      (list?_map fun p _ => p.ofJson?_toJson) <|
    .field (by simp [hreturn, FunctionInfo.members]) (string?_str _) <|
    .field (by simp [hspan, FunctionInfo.members]) (Span.ofJson?_toJson h) <|
    .field (by simp [hasync, FunctionInfo.members]) (bool?_bool _) <|
    .field (by simp [hexported, FunctionInfo.members]) (bool?_bool _) <|
    .optional .str (by simp [hdocumentation, FunctionInfo.members]) (fun _ _ => rfl) <|
    .done _

/-- A function is read back, and no member is taken for its name. -/
theorem ofJson?_toJson {f : FunctionInfo} (h : f.Fits) :
    ofJson? .json (f.toJson : Json α) = some f := by
  refine record?_obj (tells_fields h (by simp) ?_)
  simp [memberNames]

end FunctionInfo

namespace CallSite

/-- The numbers of a call fit their words. -/
structure Fits (s : CallSite) : Prop where
  line : IsSize s.line
  column : ∀ column ∈ s.column, IsSize column

/-- A call is read back, with its column if it has one. -/
theorem ofJson?_toJson {s : CallSite} (h : s.Fits) : ofJson? .json (s.toJson : Json α) = some s :=
  record?_obj <|
    .field (by simp) (string?_str _) <|
    .field (by simp) (string?_str _) <|
    .field (by simp) (size?_nat h.line) <|
    .optional .nat (by simp) (fun column hcolumn => maybe?_nat (h.column column hcolumn)) <|
    .done _

end CallSite

namespace SourceFault

/-- The numbers of a fault fit their words. -/
structure Fits (f : SourceFault) : Prop where
  line : ∀ line ∈ f.line, IsSize line
  column : ∀ column ∈ f.column, IsSize column

/-- A fault is read back, with its place if it has one. -/
theorem ofJson?_toJson {f : SourceFault} (h : f.Fits) :
    ofJson? .json (f.toJson : Json α) = some f :=
  record?_obj <|
    .field (by simp [members]) (choice?_kind _) <|
    .field (by simp [members]) (string?_str _) <|
    .optional .nat (by simp [members]) (fun line hline => maybe?_nat (h.line line hline)) <|
    .optional .nat (by simp [members])
      (fun column hcolumn => maybe?_nat (h.column column hcolumn)) <|
    .done _

end SourceFault

namespace SourceAnalysis

/-- The numbers of an analysis fit their words. -/
structure Fits (a : SourceAnalysis) : Prop where
  functions : ∀ f ∈ a.functions, f.Fits
  calls : ∀ s ∈ a.calls, s.Fits
  faults : ∀ f ∈ a.faults, f.Fits

/-- **An analysis is read back** from the value that it is written as. -/
theorem ofJson?_toJson {a : SourceAnalysis} (h : a.Fits) :
    ofJson? .json (a.toJson : Json α) = some a :=
  record?_obj <|
    .field (by simp) (list?_map fun f hf => FunctionInfo.ofJson?_toJson (h.functions f hf)) <|
    .field (by simp) (list?_map fun s hs => CallSite.ofJson?_toJson (h.calls s hs)) <|
    .field (by simp) (list?_map fun f hf => SourceFault.ofJson?_toJson (h.faults f hf)) <|
    .field (by simp) (list?_strs _) <|
    .field (by simp) (list?_strs _) <|
    .done _

end SourceAnalysis

/-! ## Graphs -/

theorem Position.ofJson?_toJson [Measure α] (p : Position α) : ofJson? .json p.toJson = some p :=
  record?_obj <|
    .field (by simp) (measure?_real _) <|
    .field (by simp) (measure?_real _) <|
    .done _

namespace Node

/-- The numbers of a node fit their words. -/
structure Fits (n : Node α) : Prop where
  function : n.function.Fits
  complexity : IsScore n.complexity

/-- The content of a node is read back: the members of its function stand in one object with those
of its complexity, and the two do not mix. -/
theorem contentOfJson?_contentToJson {n : Node α} (h : n.Fits) :
    contentOfJson? .json n.contentToJson = some (n.function, n.complexity, n.category) := by
  refine record?_obj (.bind (FunctionInfo.tells_fields h.function (by simp [label]) ?_) ?_)
  · simp [FunctionInfo.memberNames]
  · exact
      .field (by simp [FunctionInfo.members]) (score?_nat h.complexity) <|
      .field (by simp [FunctionInfo.members]) (choice?_category _) <|
      .done _

/-- A node is read back, whether or not it has a size. -/
theorem ofJson?_toJson [Measure α] {n : Node α} (h : n.Fits) : ofJson? .json n.toJson = some n :=
  record?_obj <|
    .field (by simp) (string?_str _) <|
    .field (by simp) (choice?_role _) <|
    .field (by simp) (Position.ofJson?_toJson _) <|
    .optional .real (by simp) (fun _ _ => rfl) <|
    .optional .real (by simp) (fun _ _ => rfl) <|
    .fieldOr (by simp) (bool?_bool _) <|
    .field (by simp) (contentOfJson?_contentToJson h) <|
    .done _

end Node

namespace Edge

/-- The numbers of an edge fit their words. -/
def Fits (e : Edge) : Prop := IsSize e.callCount

/-- An edge is read back, with its label if it has one. -/
theorem ofJson?_toJson {e : Edge} (h : e.Fits) : ofJson? .json (e.toJson : Json α) = some e :=
  record?_obj <|
    .field (by simp) (string?_str _) <|
    .field (by simp) (string?_str _) <|
    .field (by simp) (string?_str _) <|
    .field (by simp) (size?_nat h) <|
    .field (by simp) (bool?_bool _) <|
    .optional .str (by simp) (fun _ _ => rfl) <|
    .done _

end Edge

namespace CallGraph

/-- The numbers of a graph fit their words. -/
structure Fits (g : CallGraph α) : Prop where
  nodes : ∀ n ∈ g.nodes, n.Fits
  edges : ∀ e ∈ g.edges, e.Fits

/-- **A graph is read back** from the value that it is written as. -/
theorem ofJson?_toJson [Measure α] {g : CallGraph α} (h : g.Fits) :
    ofJson? .json g.toJson = some g :=
  record?_obj <|
    .field (by simp) (list?_map fun n hn => Node.ofJson?_toJson (h.nodes n hn)) <|
    .field (by simp) (list?_map fun e he => Edge.ofJson?_toJson (h.edges e he)) <|
    .done _

end CallGraph

namespace NodeFilter

/-- The numbers of a filter fit their words. -/
structure Fits (f : NodeFilter) : Prop where
  minComplexity : ∀ limit ∈ f.minComplexity, IsScore limit
  maxComplexity : ∀ limit ∈ f.maxComplexity, IsScore limit

/-- A limit of a filter is read back, also where there is none. -/
theorem maybe?_limitToJson {limit : Option Nat} (h : ∀ n ∈ limit, IsScore n) :
    maybe? score? (limitToJson limit : Json α) = some limit := by
  cases limit with
  | none => rfl
  | some n => exact maybe?_nat (h n rfl)

/-- **A filter is read back** from the value that it is written as. -/
theorem ofJson?_toJson {f : NodeFilter} (h : f.Fits) : ofJson? .json (f.toJson : Json α) = some f :=
  record?_obj <|
    .fieldOr (by simp) (bool?_bool _) <|
    .fieldOr (by simp) (bool?_bool _) <|
    .fieldOr (by simp) (bool?_bool _) <|
    .fieldOr (by simp) (maybe?_limitToJson h.minComplexity) <|
    .fieldOr (by simp) (maybe?_limitToJson h.maxComplexity) <|
    .done _

end NodeFilter

/-! ## Configurations -/

namespace LayoutSettings

/-- The numbers of the settings of a layout fit their words. -/
def Fits (s : LayoutSettings α) : Prop := IsSize s.columns

/-- The settings of a layout are read back. They have fields that may be left out, and all of them
are written. -/
theorem ofJson?_toJson [Measure α] {s : LayoutSettings α} (h : s.Fits) :
    ofJson? .json s.toJson = some s :=
  record?_obj <|
    .fieldOr (by simp) (maybe?_arrangement _) <|
    .fieldOr (by simp) (choice?_direction _) <|
    .fieldOr (by simp) (measure?_real _) <|
    .fieldOr (by simp) (measure?_real _) <|
    .fieldOr (by simp) (measure?_real _) <|
    .fieldOr (by simp) (measure?_real _) <|
    .fieldOr (by simp) (measure?_real _) <|
    .fieldOr (by simp) (measure?_real _) <|
    .fieldOr (by simp) (size?_nat h) <|
    .done _

end LayoutSettings

namespace AnalysisSettings

/-- The numbers of the settings of an analysis fit their words. -/
def Fits (s : AnalysisSettings) : Prop := IsSize s.maxSourceBytes

/-- The settings of an analysis are read back. -/
theorem ofJson?_toJson {s : AnalysisSettings} (h : s.Fits) :
    ofJson? .json (s.toJson : Json α) = some s :=
  record?_obj <|
    .fieldOr (by simp) (size?_nat h) <|
    .fieldOr (by simp) (list?_strs _) <|
    .fieldOr (by simp) (list?_strs _) <|
    .done _

end AnalysisSettings

namespace OutputSettings

theorem ofJson?_toJson (s : OutputSettings) : ofJson? .json (s.toJson : Json α) = some s :=
  record?_obj <|
    .fieldOr (by simp) (choice?_format _) <|
    .fieldOr (by simp) (bool?_bool _) <|
    .done _

end OutputSettings

namespace Configuration

/-- The numbers of a configuration fit their words. -/
structure Fits (c : Configuration α) : Prop where
  analysis : c.analysis.Fits
  layout : c.layout.Fits

/-- **A configuration is read back** from the value that it is written as. -/
theorem ofJson?_toJson [Measure α] {c : Configuration α} (h : c.Fits) :
    ofJson? .json c.toJson = some c :=
  record?_obj <|
    .fieldOr (by simp) (AnalysisSettings.ofJson?_toJson h.analysis) <|
    .fieldOr (by simp) (LayoutSettings.ofJson?_toJson h.layout) <|
    .fieldOr (by simp) (OutputSettings.ofJson?_toJson _) <|
    .done _

end Configuration

end CallAtlas
