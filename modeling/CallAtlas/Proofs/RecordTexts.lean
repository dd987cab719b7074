import CallAtlas.Proofs.JsonText
import CallAtlas.Proofs.Records

/-!
# Records written as texts

What a record is written as can be told by a text (`Json.Legible`): its members have
different names, its numbers are in range, and its floats are told by their texts. So a
record is read back from its text, and no two records have one text (`records_faithful`).
-/

namespace CallAtlas

open Json

namespace Json

@[simp] theorem legible_null : Legible .null := .null

@[simp] theorem legible_bool (b : Bool) : Legible (.bool b) := .bool b

@[simp] theorem legible_str (s : String) : Legible (.str s) := .str s

/-- A number that fits its word can be told by a text, since a text can have any number of 64
bits. -/
theorem legible_nat {n : Nat} (h : IsSize n) : Legible (.nat n) :=
  .int ⟨by omega, Int.ofNat_lt.mpr h⟩

theorem legible_score {n : Nat} (h : IsScore n) : Legible (.nat n) :=
  legible_nat (Nat.lt_trans h (by decide))

/-- A float can be told by a text just if it is read back from its own. -/
@[simp] theorem legible_real {x : Float} : Legible (.real x) ↔ ReadsBack x :=
  ⟨fun | .real h => h, .real⟩

/-- A list can be told if each of its items can. -/
theorem legible_map {β : Type} {write : β → Json Float} {items : List β}
    (h : ∀ b ∈ items, Legible (write b)) : Legible (.arr (items.map write)) :=
  .arr (List.forall_mem_map.mpr h)

@[simp] theorem legible_strs (items : List String) : Legible (strs items) :=
  legible_map fun s _ => .str s

/-- Members whose values can all be told. -/
def AllLegible (members : List (String × Json Float)) : Prop := ∀ m ∈ members, Legible m.2

@[simp] theorem allLegible_nil : AllLegible [] := fun _ hm => nomatch hm

/-- All members can be told just if the first and the others can. -/
@[simp] theorem allLegible_cons {name : String} {v : Json Float}
    {members : List (String × Json Float)} :
    AllLegible ((name, v) :: members) ↔ Legible v ∧ AllLegible members :=
  List.forall_mem_cons

/-- Two runs of members can be told just if each of them can. -/
@[simp] theorem allLegible_append {members others : List (String × Json Float)} :
    AllLegible (members ++ others) ↔ AllLegible members ∧ AllLegible others :=
  List.forall_mem_append

/-- A member that is left out needs nothing to be told. -/
@[simp] theorem allLegible_optionalMember {name : String} {o : Option (Json Float)} :
    AllLegible (optionalMember name o) ↔ ∀ v ∈ o, Legible v := by
  cases o <;> simp [optionalMember]

/-- An object can be told if its names are different and its values can be told. -/
theorem legible_obj {members : List (String × Json Float)}
    (hnames : (members.map Prod.fst).Nodup) (h : AllLegible members) : Legible (.obj members) :=
  .obj hnames h

end Json

/-! ## Functions and calls -/

/-- What a parameter is written as can be told. -/
theorem Parameter.legible (p : Parameter) : Legible p.toJson := by
  refine legible_obj ?_ (by simp)
  cases p.defaultText <;> simp [optionalMember]

/-- What a span is written as can be told if its numbers fit. -/
theorem Span.legible {s : Span} (h : s.Fits) : Legible s.toJson :=
  legible_obj (by simp) (by simp [legible_nat, h.startLine, h.startColumn, h.endLine, h.endColumn])

namespace FunctionInfo

/-- The members of a function can be told, whatever stands in front of them. -/
theorem allLegible_members {f : FunctionInfo} (h : f.Fits) : AllLegible f.members := by
  have hparameters : Legible (.arr (f.parameters.map Parameter.toJson)) :=
    legible_map fun p _ => p.legible
  simp [members, hparameters, Span.legible h]

/-- The members of a function have their names in one order, of which the documentation may be
missing. -/
theorem members_names (f : FunctionInfo) :
    ((f.members : List (String × Json Float)).map Prod.fst).Sublist memberNames := by
  cases hdocumentation : f.documentation <;>
    simp [members, memberNames, optionalMember, hdocumentation]

/-- What a function is written as can be told: its name is under a name that no other member
has. -/
theorem legible {f : FunctionInfo} (h : f.Fits) : Legible f.toJson := by
  refine legible_obj ?_ (by simp [allLegible_members h])
  have hnames : ("name" :: memberNames).Nodup := by decide
  exact hnames.sublist (f.members_names.cons_cons "name")

end FunctionInfo

/-- What a call is written as can be told. -/
theorem CallSite.legible {s : CallSite} (h : s.Fits) : Legible s.toJson := by
  have hcolumn : ∀ column, s.column = some column → Legible (.nat column) :=
    fun column hc => legible_nat (h.column column hc)
  refine legible_obj ?_ (by simpa [legible_nat h.line] using hcolumn)
  cases s.column <;> simp [optionalMember]

/-- What a fault is written as can be told. -/
theorem SourceFault.legible {f : SourceFault} (h : f.Fits) : Legible f.toJson := by
  have hline : ∀ line, f.line = some line → Legible (.nat line) :=
    fun line hl => legible_nat (h.line line hl)
  have hcolumn : ∀ column, f.column = some column → Legible (.nat column) :=
    fun column hc => legible_nat (h.column column hc)
  refine legible_obj ?_ (by simpa [members] using ⟨hline, hcolumn⟩)
  cases hl : f.line <;> cases hc : f.column <;> simp [members, optionalMember, hl, hc]

/-- What an analysis is written as can be told. -/
theorem SourceAnalysis.legible {a : SourceAnalysis} (h : a.Fits) : Legible a.toJson := by
  have hfunctions : Legible (.arr (a.functions.map FunctionInfo.toJson)) :=
    legible_map fun f hf => FunctionInfo.legible (h.functions f hf)
  have hcalls : Legible (.arr (a.calls.map CallSite.toJson)) :=
    legible_map fun s hs => CallSite.legible (h.calls s hs)
  have hfaults : Legible (.arr (a.faults.map SourceFault.toJson)) :=
    legible_map fun f hf => SourceFault.legible (h.faults f hf)
  exact legible_obj (by simp) (by simp [hfunctions, hcalls, hfaults])

/-! ## Graphs -/

namespace Node

/-- The floats of a node. -/
def floats (n : Node Float) : List Float :=
  [n.position.x, n.position.y] ++ n.width.toList ++ n.height.toList

/-- The content of a node can be told: its label, the members of its function and the two behind
them have different names. -/
theorem legible_content {n : Node Float} (h : n.Fits) : Legible n.contentToJson := by
  have hcomplexity := legible_score h.complexity
  refine legible_obj ?_ (by simp [FunctionInfo.allLegible_members h.function, hcomplexity])
  have hnames : ("label" :: (FunctionInfo.memberNames ++ ["complexity", "category"])).Nodup := by
    decide
  refine hnames.sublist ?_
  simpa using n.function.members_names.append_right ["complexity", "category"]

/-- What a node is written as can be told if its floats are read back from their texts. -/
theorem legible {n : Node Float} (h : n.Fits) (hfloats : ∀ x ∈ n.floats, ReadsBack x) :
    Legible n.toJson := by
  have hx : ReadsBack n.position.x := hfloats _ (by simp [floats])
  have hy : ReadsBack n.position.y := hfloats _ (by simp [floats])
  have hposition : Legible n.position.toJson := legible_obj (by simp) (by simp [hx, hy])
  have hwidth : ∀ x, n.width = some x → ReadsBack x :=
    fun x hx => hfloats x (by simp [floats, hx])
  have hheight : ∀ x, n.height = some x → ReadsBack x :=
    fun x hx => hfloats x (by simp [floats, hx])
  refine legible_obj ?_ (by simpa [hposition, legible_content h] using ⟨hwidth, hheight⟩)
  cases n.width <;> cases n.height <;> simp [optionalMember]

end Node

/-- What an edge is written as can be told. -/
theorem Edge.legible {e : Edge} (h : e.Fits) : Legible e.toJson := by
  refine legible_obj ?_ (by simp [legible_nat h])
  cases e.label <;> simp [optionalMember]

namespace CallGraph

/-- The floats of a graph. -/
def floats (g : CallGraph Float) : List Float := g.nodes.flatMap Node.floats

/-- What a graph is written as can be told if the floats of all its nodes are read back. -/
theorem legible {g : CallGraph Float} (h : g.Fits) (hfloats : ∀ x ∈ g.floats, ReadsBack x) :
    Legible g.toJson := by
  have hnodes : Legible (.arr (g.nodes.map Node.toJson)) :=
    legible_map fun n hn => Node.legible (h.nodes n hn) fun x hx =>
      hfloats x (List.mem_flatMap.mpr ⟨n, hn, hx⟩)
  have hedges : Legible (.arr (g.edges.map Edge.toJson)) :=
    legible_map fun e he => Edge.legible (h.edges e he)
  exact legible_obj (by simp) (by simp [hnodes, hedges])

end CallGraph

/-- What a filter is written as can be told. -/
theorem NodeFilter.legible {f : NodeFilter} (h : f.Fits) : Legible f.toJson := by
  have hlimit : ∀ limit : Option Nat, (∀ n ∈ limit, IsScore n) → Legible (limitToJson limit) := by
    intro limit hlimit
    cases limit with
    | none => exact .null
    | some n => exact legible_score (hlimit n rfl)
  exact legible_obj (by simp) (by simp [hlimit _ h.minComplexity, hlimit _ h.maxComplexity])

/-! ## Configurations -/

namespace LayoutSettings

/-- The floats of the settings of a layout. -/
def floats (s : LayoutSettings Float) : List Float :=
  [s.nodeWidth, s.nodeHeight, s.rankGap, s.nodeGap, s.minWidth, s.maxWidth]

/-- What the settings of a layout are written as can be told if their floats are read back. -/
theorem legible {s : LayoutSettings Float} (h : s.Fits) (hfloats : ∀ x ∈ s.floats, ReadsBack x) :
    Legible s.toJson := by
  have harrangement : Legible ((s.arrangement.map fun a => Json.str a.name).getD .null) := by
    cases s.arrangement <;> simp
  simp only [floats, List.forall_mem_cons] at hfloats
  exact legible_obj (by simp) (by simp [harrangement, legible_nat h, hfloats])

end LayoutSettings

theorem AnalysisSettings.legible {s : AnalysisSettings} (h : s.Fits) : Legible s.toJson :=
  legible_obj (by simp) (by simp [legible_nat h])

theorem OutputSettings.legible (s : OutputSettings) : Legible s.toJson :=
  legible_obj (by simp) (by simp)

/-- What a configuration is written as can be told if the floats of its layout are read back. -/
theorem Configuration.legible {c : Configuration Float} (h : c.Fits)
    (hfloats : ∀ x ∈ c.layout.floats, ReadsBack x) : Legible c.toJson :=
  legible_obj (by simp) (by simp [AnalysisSettings.legible h.analysis, c.output.legible,
    LayoutSettings.legible h.layout hfloats])

/-! ## Texts -/

/-- Values that are read back from their texts. So different values have different texts. -/
structure Json.Faithful {β : Type} (print : Json Float → String) (fits : β → Prop)
    (write : β → Json Float) (read : Json Float → Option β) : Prop where
  reads : ∀ b, fits b → (read? (print (write b))).bind read = some b
  injective : ∀ b b', fits b → fits b' → print (write b) = print (write b') → b = b'

/-- Values whose records can be told are read back from texts: the text tells the record, and the
record the value. What is read back from one text is one value. -/
theorem Json.Faithful.ofLegible {β : Type} {print : Json Float → String} {fits : β → Prop}
    {write : β → Json Float} {read : Json Float → Option β}
    (hprint : ∀ v, Legible v → read? (print v) = some v)
    (hlegible : ∀ b, fits b → Legible (write b))
    (hread : ∀ b, fits b → read (write b) = some b) : Faithful print fits write read := by
  have hreads : ∀ b, fits b → (read? (print (write b))).bind read = some b := by
    intro b hb
    rw [hprint _ (hlegible b hb), Option.bind_some, hread b hb]
  refine ⟨hreads, ?_⟩
  intro b b' hb hb' heq
  have h := hreads b hb
  rw [heq, hreads b' hb'] at h
  exact (Option.some.inj h).symm

/-- **Graphs, analyses, filters and configurations are read back from their texts**, in one
line or indented, and no two of them have one text. -/
theorem records_faithful : ∀ print ∈ [compact, pretty],
    Faithful print (fun g : CallGraph Float => g.Fits ∧ ∀ x ∈ g.floats, ReadsBack x)
      CallGraph.toJson (CallGraph.ofJson? .json) ∧
    Faithful print SourceAnalysis.Fits SourceAnalysis.toJson (SourceAnalysis.ofJson? .json) ∧
    Faithful print NodeFilter.Fits NodeFilter.toJson (NodeFilter.ofJson? .json) ∧
    Faithful print (fun c : Configuration Float => c.Fits ∧ ∀ x ∈ c.layout.floats, ReadsBack x)
      Configuration.toJson (Configuration.ofJson? .json) := by
  intro print hmem
  have hprint : ∀ v, Legible v → read? (print v) = some v := by
    intro v hv
    rcases List.mem_cons.mp hmem with rfl | hmem
    · exact read?_compact hv
    · obtain rfl := List.mem_singleton.mp hmem
      exact read?_pretty hv
  exact ⟨.ofLegible hprint (fun _ h => CallGraph.legible h.1 h.2)
      (fun _ h => CallGraph.ofJson?_toJson h.1),
    .ofLegible hprint (fun _ h => SourceAnalysis.legible h)
      (fun _ h => SourceAnalysis.ofJson?_toJson h),
    .ofLegible hprint (fun _ h => NodeFilter.legible h) (fun _ h => NodeFilter.ofJson?_toJson h),
    .ofLegible hprint (fun _ h => Configuration.legible h.1 h.2)
      (fun _ h => Configuration.ofJson?_toJson h.1)⟩

/-- A header, which cannot be selected, with a width and no height. -/
def headerGraph : CallGraph Float :=
  ⟨[⟨"group-exported", .header, ⟨180.5, -0.0⟩, some 180.5, none, false, .named "Exported", 3,
    .simple⟩], []⟩

/-- A float with a fraction is read back from its text. -/
theorem readsBack_half : ReadsBack 180.5 := by
  have hvalue : Decimal.toFloat ⟨false, 1805, -1⟩ = 180.5 := by decide +kernel
  refine ⟨"180.5", by decide +kernel, ?_⟩
  rw [← hvalue]
  rfl

theorem readsBack_negativeZero : ReadsBack (-0.0) := by
  have hvalue : Decimal.toFloat ⟨true, 0, -1⟩ = -0.0 := by decide +kernel
  refine ⟨"-0.0", by decide +kernel, ?_⟩
  rw [← hvalue]
  rfl

/-- What is false, what is missing and the sign of zero are all read back. -/
theorem records_faithful_header :
    (headerGraph.Fits ∧ ∀ x ∈ headerGraph.floats, ReadsBack x) ∧
    (read? (compact headerGraph.toJson)).bind (CallGraph.ofJson? .json) = some headerGraph ∧
    (read? (pretty headerGraph.toJson)).bind (CallGraph.ofJson? .json) = some headerGraph := by
  have hzero : IsSize 0 := Nat.two_pow_pos 64
  have hspan : Span.unknown.Fits := ⟨hzero, hzero, hzero, hzero⟩
  have hfits : headerGraph.Fits := by
    constructor
    · intro n hn
      obtain rfl := List.mem_singleton.mp hn
      exact ⟨hspan, show 3 < Number.wordBound 32 by decide⟩
    · intro e he
      cases he
  have hfloats : ∀ x ∈ headerGraph.floats, ReadsBack x := by
    have hlist : headerGraph.floats = [180.5, -0.0, 180.5] := rfl
    rw [hlist]
    simp [readsBack_half, readsBack_negativeZero]
  exact ⟨⟨hfits, hfloats⟩,
    (records_faithful compact (by simp)).1.reads headerGraph ⟨hfits, hfloats⟩,
    (records_faithful pretty (by simp)).1.reads headerGraph ⟨hfits, hfloats⟩⟩

end CallAtlas
