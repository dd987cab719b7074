import CallAtlas.Graph.Basic
import Std.Data.HashMap.Basic

/-!
# The graph of some functions and their calls

One node per function, in order, and one edge for each pair of names that calls
join, in the order of the first call. A name stands for the first function that has
it. Ids are made of names; where they repeat, the later ones are numbered.
-/

namespace CallAtlas

variable {α : Type}

/-! ## What a function is shown as -/

namespace FunctionInfo

/-- The role of the node of a function. -/
def role (f : FunctionInfo) : NodeRole :=
  if f.isMethod then .method
  else if f.isExported then .exported
  else if f.isAsync then .async
  else .function

/-- The highest complexity. -/
def maxComplexity : Nat := 10

/-- Twice the complexity, before it is rounded: one to begin with, a half for every
parameter and for a member, and one for a composed type and for an asynchronous
function. -/
def complexityHalves (f : FunctionInfo) : Nat :=
  let composed := f.returnType.any fun c => c == '|' || c == '&'
  2 + f.parameters.length + (if composed then 2 else 0) + (if f.isAsync then 2 else 0) +
    if f.isMethod then 1 else 0

/-- How much there is to a function, rounded up. -/
def complexity (f : FunctionInfo) : Nat := min ((f.complexityHalves + 1) / 2) maxComplexity

/-- The class of a function. -/
def category (f : FunctionInfo) : Category :=
  if f.isExported then .exported
  else if f.isAsync then .async
  else if f.isMethod then .method
  else if f.parameters.isEmpty then .simple
  else if 3 < f.parameters.length then .complex
  else .function

end FunctionInfo

/-! ## Ids -/

namespace Identifier

/-- A letter or digit of ASCII. -/
def isPlain (c : Char) : Bool := c.isAlphanum

/-- A text with an underscore in place of all that is no letter or digit. -/
def ofText (text : String) : String := text.map fun c => if isPlain c then c else '_'

/-- The `count`-th id that is made of one text. -/
def numbered (base : String) (count : Nat) : String :=
  if count ≤ 1 then base else base ++ "-" ++ toString count

/-- Numbers the ids that repeat. -/
def distinct (bases : List String) : List String :=
  go {} bases
where
  go (seen : Std.HashMap String Nat) : List String → List String
    | [] => []
    | base :: rest =>
      let count := seen.getD base 0 + 1
      numbered base count :: go (seen.insert base count) rest

end Identifier

/-! ## Building -/

namespace CallGraph

/-- Parts of names that tell of asynchronous functions. -/
def asyncMarks : List String := ["async", "fetch", "await", "promise", "then", "catch"]

/-- Whether a text holds a mark. -/
def holds (mark : List Char) : List Char → Bool
  | [] => mark.isEmpty
  | c :: cs => mark.isPrefixOf (c :: cs) || holds mark cs

/-- Whether a name tells of an asynchronous function. The marks are of ASCII letters
and none has a letter that stands for another when capitals are made small, so that
no other capitals matter. -/
def namesAsync (callee : String) : Bool :=
  let small := callee.toList.map Char.toLower
  asyncMarks.any fun mark => holds mark.toList small

/-- The nodes of some functions. -/
def nodesOf [Measure α] (functions : List FunctionInfo) : List (Node α) :=
  let ids := Identifier.distinct (functions.map fun f => "node-" ++ Identifier.ofText f.name)
  functions.zipWith (fun f id => .ofFunction id f.role f f.complexity f.category) ids

/-- The ids of the first functions with each name. -/
def idsByName (functions : List FunctionInfo) (ids : List String) : Std.HashMap String String :=
  (functions.zip ids).foldl (fun known (f, id) => known.insertIfNew f.name id) {}

/-- The names that a call joins. -/
def pairOf (s : CallSite) : String × String := (s.caller, s.callee)

/-- How many calls join each pair of names, in the order of the first call. -/
def countPairs (calls : List CallSite) : List ((String × String) × Nat) :=
  let counts := calls.foldl (fun counts s => counts.alter (pairOf s) fun n => some (n.getD 0 + 1))
    ({} : Std.HashMap (String × String) Nat)
  let firsts := (calls.foldl (fun (seen, acc) s =>
      if seen.contains (pairOf s) then (seen, acc)
      else (seen.insert (pairOf s) (), pairOf s :: acc))
    (({} : Std.HashMap (String × String) Unit), ([] : List (String × String)))).2.reverse
  firsts.map fun p => (p, counts.getD p 0)

/-- The label of an edge for some calls. -/
def countLabel (count : Nat) : Option String := if 1 < count then some s!"{count}x" else none

/-- The base of the id of an edge. -/
def edgeBase (caller callee : String) : String :=
  "edge-" ++ Identifier.ofText caller ++ "-to-" ++ Identifier.ofText callee

/-- Two names that calls join, the ids that they stand for, and the number of the
calls. -/
structure Link where
  caller : String
  callee : String
  source : String
  target : String
  count : Nat

/-- A pair with what its names stand for, if both are known. -/
def Link.ofPair? (known : Std.HashMap String String) (pair : (String × String) × Nat) :
    Option Link := do
  let ((caller, callee), count) := pair
  return ⟨caller, callee, ← known[caller]?, ← known[callee]?, count⟩

/-- The pairs whose names are known, with what the names stand for. -/
def linksOf (known : Std.HashMap String String) (pairs : List ((String × String) × Nat)) :
    List Link :=
  pairs.filterMap (Link.ofPair? known)

/-- The edge with an id for some calls. -/
def Link.edge (l : Link) (id : String) : Edge :=
  { id, source := l.source, target := l.target, callCount := l.count
    animated := namesAsync l.callee, label := countLabel l.count }

/-- The edges of some pairs whose names are known. -/
def edgesOf (known : Std.HashMap String String) (pairs : List ((String × String) × Nat)) :
    List Edge :=
  let links := linksOf known pairs
  links.zipWith Link.edge (Identifier.distinct (links.map fun l => edgeBase l.caller l.callee))

/-- The graph of some functions and calls. Calls by or of functions that are not known
are left out. -/
def build [Measure α] (functions : List FunctionInfo) (calls : List CallSite) : CallGraph α :=
  let nodes : List (Node α) := nodesOf functions
  let known := idsByName functions (nodes.map Node.id)
  ⟨nodes, edgesOf known (countPairs calls)⟩

end CallGraph

end CallAtlas
