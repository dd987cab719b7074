import CallAtlas.Report.Basic
import Std.Data.HashSet.Basic

/-!
# Flowcharts

Graphs as text for Mermaid. Ids are made of letters, digits and underscores only, so
that ids of nodes may fall together; the later ones are then numbered.
-/

namespace CallAtlas

variable {α : Type}

/-! ## Ids -/

/-- Ids that were given out. -/
structure ChartIds where
  given : Std.HashMap String String
  used : Std.HashSet String

namespace ChartIds

/-- No ids. -/
def none : ChartIds := ⟨{}, {}⟩

/-- The `count`-th id that is made of one text. -/
def numbered (base : String) (count : Nat) : String :=
  if count ≤ 1 then base else base ++ "_" ++ toString count

/-- The first id from the `count`-th on that is not in use, of `fuel` ids. -/
def firstFree (used : Std.HashSet String) (base : String) : Nat → Nat → String
  | 0, count => numbered base count
  | fuel + 1, count =>
    if used.contains (numbered base count) then firstFree used base fuel (count + 1)
    else numbered base count

/-- The id for a key; a new one if the key has none. One of more ids than are in use
is free. -/
def assign (ids : ChartIds) (key : String) : String × ChartIds :=
  match ids.given[key]? with
  | some id => (id, ids)
  | .none =>
    let id := firstFree ids.used (Identifier.ofText key) ids.used.size 1
    (id, ⟨ids.given.insert key id, ids.used.insert id⟩)

end ChartIds

/-! ## Lines -/

namespace Flowchart

/-- A text that can stand between quotation marks. -/
def escapeLabel (text : String) : String :=
  String.join (text.toList.map fun c => if c = '"' then "#quot;" else c.toString)

/-- The marks around the label of a node and its class. -/
def shape : NodeRole → String × String × String
  | .exported => ("([\"", "\"])", "exported")
  | .async => ("[/\"", "\"/]", "async")
  | .method => ("[[\"", "\"]]", "method")
  | .function | .header => ("[\"", "\"]", "function")

/-- A node behind its id. -/
def nodeText (n : Node α) : String :=
  let (opening, closing, style) := shape n.role
  opening ++ escapeLabel n.label ++ closing ++ ":::" ++ style

/-- What is known while a chart is written: the ids and the lines, the last first. -/
structure Draft where
  ids : ChartIds
  lines : List String

/-- Adds a line. -/
def Draft.line (d : Draft) (text : String) : Draft := { d with lines := text :: d.lines }

/-- Adds a node. -/
def Draft.node (indent scope : String) (d : Draft) (n : Node α) : Draft :=
  let (id, ids) := d.ids.assign (scope ++ n.id)
  ⟨ids, (indent ++ id ++ nodeText n) :: d.lines⟩

/-- Adds an edge. -/
def Draft.edge (indent scope : String) (d : Draft) (e : Edge) : Draft :=
  let (source, ids) := d.ids.assign (scope ++ e.source)
  let (target, ids) := ids.assign (scope ++ e.target)
  let arrow := if e.animated then "-.->" else "-->"
  let label := match e.label with
    | some label => "|" ++ label ++ "|"
    | none => ""
  ⟨ids, (indent ++ source ++ " " ++ arrow ++ label ++ " " ++ target) :: d.lines⟩

/-- Adds a graph. -/
def Draft.graph (indent scope : String) (d : Draft) (g : CallGraph α) : Draft :=
  g.edges.foldl (Draft.edge indent scope) (g.functionNodes.foldl (Draft.node indent scope) d)

/-- The lines that say how classes are drawn. -/
def styles : List String :=
  ["    classDef function fill:#f5f5f5,stroke:#616161",
    "    classDef exported fill:#e8f5e9,stroke:#2e7d32",
    "    classDef async fill:#e3f2fd,stroke:#1565c0",
    "    classDef method fill:#fff3e0,stroke:#ef6c00"]

/-- A chart without nodes. -/
def start (direction : Direction) : Draft := ⟨.none, ["flowchart " ++ direction.name]⟩

/-- The text of a chart. -/
def Draft.text (d : Draft) : String := "\n".intercalate (d.lines.reverse ++ styles)

/-- The chart of one graph. -/
def ofGraph (direction : Direction) (g : CallGraph α) : String :=
  ((start direction).graph "    " "" g).text

/-- Adds the chart of the `index`-th file. -/
def Draft.file (d : Draft) (r : Report α) (index : Nat) : Draft :=
  let scope := s!"f{index}_"
  let d := d.line ("    subgraph " ++ scope ++ "file[\"" ++ escapeLabel r.path ++ "\"]")
  (d.graph "        " scope r.graph).line "    end"

/-- The chart of some files: one part for each, unless there is only one. -/
def ofReports (direction : Direction) (reports : List (Report α)) : String :=
  match reports with
  | [r] => ofGraph direction r.graph
  | _ => (reports.zipIdx.foldl (fun d (r, i) => d.file r i) (start direction)).text

end Flowchart

end CallAtlas
