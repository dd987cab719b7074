import CallAtlas.Proofs.ChartIds
import CallAtlas.Proofs.GraphInvariant

/-!
# Flowcharts tell all nodes apart

A chart is written line by line while ids are given out. `Draft.Adds` says what some lines
come to: the keys that they mention have ids, keys that had ids keep them, and the lines
have in them the ids of the table as it is in the end, which is why an edge shows the ids
under which its ends were declared. Every line does so (`adds_node`, `adds_edge`), hence
all lines of a graph do (`adds_graph`), and of a file.

A key is the id of a node behind a mark for its file. Different nodes have different keys
(`scope_inj`) and so different ids, and none has the id of the part of a file, as the
ids of nodes go on with `node` where those of parts go on with `file`.
-/

namespace CallAtlas

variable {α : Type}

/-! ## Graphs that can be charted -/

/-- What a chart needs of a graph: different ids for the nodes of functions, which all
begin alike, and edges between such nodes. -/
structure CallGraph.Chartable (g : CallGraph α) : Prop where
  nodeIds : g.functionIds.Nodup
  begins : ∀ id ∈ g.functionIds, ∃ rest, id = "node-" ++ rest
  sources : ∀ e ∈ g.edges, e.source ∈ g.functionIds
  targets : ∀ e ∈ g.edges, e.target ∈ g.functionIds

/-- A graph that is well formed can be charted. -/
theorem CallGraph.WellFormed.chartable {g : CallGraph α} (h : g.WellFormed) : g.Chartable where
  nodeIds := h.nodeIds.sublist (List.filter_sublist.map _)
  begins := h.begins
  sources := h.sources
  targets := h.targets

/-- The graph of every report can be charted. -/
theorem Report.ofAnalysis_chartable [AngularMeasure α] (filter : NodeFilter) (simplify : Bool)
    (layout : LayoutSettings α) (path : String) (analysis : SourceAnalysis) :
    (ofAnalysis filter simplify layout path analysis).graph.Chartable := by
  have hbuilt : (CallGraph.build analysis.functions analysis.calls : CallGraph α).WellFormed :=
    CallGraph.build_wellFormed _ _
  refine CallGraph.WellFormed.chartable (CallGraph.layout_wellFormed ?_ layout)
  have hkept : ∀ b : Bool, (if b then CallGraph.build analysis.functions analysis.calls
      else (CallGraph.build analysis.functions analysis.calls : CallGraph α).filter
        filter).WellFormed := by
    intro b
    cases b with
    | true => exact hbuilt
    | false => exact CallGraph.restrict_wellFormed hbuilt _
  cases simplify with
  | true => exact CallGraph.restrict_wellFormed (hkept _) _
  | false => exact hkept _

namespace Flowchart

/-! ## The lines of a chart -/

/-- The line that declares a node. -/
def nodeLine (indent : String) (name : String → String) (n : Node α) : String :=
  indent ++ name n.id ++ nodeText n

/-- The arrow of an edge with its label. -/
def arrowText (e : Edge) : String :=
  (if e.animated then "-.->" else "-->") ++ match e.label with
    | some label => "|" ++ label ++ "|"
    | none => ""

/-- The line that joins the nodes of an edge. -/
def edgeLine (indent : String) (name : String → String) (e : Edge) : String :=
  indent ++ name e.source ++ " " ++ arrowText e ++ " " ++ name e.target

/-- The lines of a graph, each node by its name. -/
def graphLines (indent : String) (name : String → String) (g : CallGraph α) : List String :=
  g.functionNodes.map (nodeLine indent name) ++ g.edges.map (edgeLine indent name)

/-- What stands before the ids of a file. -/
def scope (index : Nat) : String := s!"f{index}_"

/-- The id of the part of a file. -/
def partId (index : Nat) : String := scope index ++ "file"

/-- The line that opens the part of a file. -/
def partLine (r : Report α) (index : Nat) : String :=
  "    subgraph " ++ partId index ++ "[\"" ++ escapeLabel r.path ++ "\"]"

/-- The lines of the part of a file. -/
def fileLines (name : String → String) (r : Report α) (index : Nat) : List String :=
  [partLine r index] ++ graphLines "        " name r.graph ++ ["    end"]

/-- A chart with some lines between its head and the styles. -/
def chart (direction : Direction) (lines : List String) : String :=
  "\n".intercalate (["flowchart " ++ direction.name] ++ lines ++ styles)

/-! ## What a line adds -/

/-- The id that a key has been given. -/
def nameIn (ids : ChartIds) (key : String) : String := ids.given[key]?.getD ""

/-- The id that a key has been given is its id in any later table. -/
theorem nameIn_eq {ids final : ChartIds} {key id : String} (hgrows : ids.Grows final)
    (hid : ids.given[key]? = some id) : nameIn final key = id := by
  rw [nameIn, hgrows key id hid]
  rfl

namespace Draft

/-- What some steps make of a draft: some keys have ids, and some lines are added in which
the keys stand under the ids that they have in the end. -/
structure Adds (d d' : Draft) (keys : List String) (lines : (String → String) → List String) :
    Prop where
  valid : d'.ids.Valid
  grows : d.ids.Grows d'.ids
  known : ∀ key ∈ keys, ∃ id, d'.ids.given[key]? = some id
  lines : ∀ final, d'.ids.Grows final → d'.lines = (lines (nameIn final)).reverse ++ d.lines

namespace Adds

variable {d d' d'' : Draft} {keys keys' : List String}
  {lines lines' : (String → String) → List String}

/-- Steps behind one another add their lines in that order, and the keys of both. -/
theorem trans (h : Adds d d' keys lines) (h' : Adds d' d'' keys' lines') :
    Adds d d'' (keys ++ keys') fun name => lines name ++ lines' name where
  valid := h'.valid
  grows := h.grows.trans h'.grows
  known := fun key hkey => by
    rcases List.mem_append.mp hkey with hkey | hkey
    · obtain ⟨id, hid⟩ := h.known key hkey
      exact ⟨id, h'.grows key id hid⟩
    · exact h'.known key hkey
  lines := fun final hfinal => by
    rw [h'.lines final hfinal, h.lines final (h'.grows.trans hfinal), List.reverse_append,
      List.append_assoc]

/-- What one step does for each member of a list, all steps do for the whole list. -/
theorem foldl {ι : Type} {step : Draft → ι → Draft} {keys : ι → List String}
    {lines : ι → (String → String) → List String}
    (hstep : ∀ d x, d.ids.Valid → Adds d (step d x) (keys x) (lines x)) (xs : List ι) :
    ∀ d : Draft, d.ids.Valid →
      Adds d (xs.foldl step d) (xs.flatMap keys) fun name => xs.flatMap (lines · name) := by
  induction xs with
  | nil => intro d hd; exact ⟨hd, fun _ _ hid => hid, nofun, fun _ _ => rfl⟩
  | cons x xs ih =>
    intro d hd
    have hfirst := hstep d x hd
    exact hfirst.trans (ih _ hfirst.valid)

end Adds

theorem adds_line {d : Draft} (hd : d.ids.Valid) (text : String) :
    Adds d (d.line text) [] fun _ => [text] :=
  ⟨hd, fun _ _ hid => hid, nofun, fun _ _ => rfl⟩

/-- A node gives its key an id, and adds the line that declares it. -/
theorem adds_node (indent mark : String) {d : Draft} (hd : d.ids.Valid) (n : Node α) :
    Adds d (d.node indent mark n) [mark ++ n.id]
      fun name => [nodeLine indent (fun id => name (mark ++ id)) n] := by
  obtain ⟨hvalid, hgrows, hid⟩ := ChartIds.assign_spec hd (mark ++ n.id)
  refine ⟨hvalid, hgrows, fun key hkey => ?_, fun final hfinal => ?_⟩
  · obtain rfl := List.mem_singleton.mp hkey
    exact ⟨_, hid⟩
  · rw [nodeLine, nameIn_eq hfinal hid]
    rfl

/-- An edge adds its line, with the ids of both its ends, and needs no key to be known before. -/
theorem adds_edge (indent mark : String) {d : Draft} (hd : d.ids.Valid) (e : Edge) :
    Adds d (d.edge indent mark e) [] fun name => [edgeLine indent (fun id => name (mark ++ id)) e] := by
  obtain ⟨hvalid, hgrows, hsource⟩ := ChartIds.assign_spec hd (mark ++ e.source)
  obtain ⟨hvalid', hgrows', htarget⟩ := ChartIds.assign_spec hvalid (mark ++ e.target)
  refine ⟨hvalid', hgrows.trans hgrows', nofun, fun final hfinal => ?_⟩
  rw [edgeLine, nameIn_eq (hgrows'.trans hfinal) hsource, nameIn_eq hfinal htarget, arrowText,
    ← String.append_assoc]
  rfl

/-- The keys of the nodes of a graph. -/
def graphKeys (mark : String) (g : CallGraph α) : List String :=
  g.functionNodes.map (mark ++ ·.id)

/-- **A graph adds its lines**: its nodes, then its edges, by one step for each of them. -/
theorem adds_graph (indent mark : String) {d : Draft} (hd : d.ids.Valid) (g : CallGraph α) :
    Adds d (d.graph indent mark g) (graphKeys mark g)
      fun name => graphLines indent (fun id => name (mark ++ id)) g := by
  have hnodes := Adds.foldl (fun d n hd => adds_node indent mark hd n) g.functionNodes d hd
  have hedges := Adds.foldl (fun d e hd => adds_edge indent mark hd e) g.edges _ hnodes.valid
  have hboth := hnodes.trans hedges
  have hkeys : (g.functionNodes.flatMap fun n => [mark ++ n.id]) ++
      (g.edges.flatMap fun _ => ([] : List String)) = graphKeys mark g := by
    rw [← List.map_eq_flatMap, List.flatMap_eq_nil_iff.mpr fun _ _ => rfl, List.append_nil]
    rfl
  rw [hkeys] at hboth
  simp only [← List.map_eq_flatMap] at hboth
  exact hboth

theorem partLine_eq (r : Report α) (index : Nat) : partLine r index =
    "    subgraph " ++ scope index ++ "file[\"" ++ escapeLabel r.path ++ "\"]" := by
  have hopening : "file[\"" = "file" ++ "[\"" := rfl
  have hline : partLine r index =
      "    subgraph " ++ (scope index ++ "file") ++ "[\"" ++ escapeLabel r.path ++ "\"]" := rfl
  rw [hline, hopening]
  simp only [String.append_assoc]

/-- The part of a file is a line, a graph and a line. -/
theorem file_eq (d : Draft) (r : Report α) (index : Nat) : d.file r index =
    ((d.line (partLine r index)).graph "        " (scope index) r.graph).line "    end" := by
  rw [partLine_eq]
  rfl

/-- A file adds its part, and the keys that it gives ids are marked as its own. -/
theorem adds_file {d : Draft} (hd : d.ids.Valid) (r : Report α) (index : Nat) :
    Adds d (d.file r index) (graphKeys (scope index) r.graph)
      fun name => fileLines (fun id => name (scope index ++ id)) r index := by
  have hopen := adds_line hd (partLine r index)
  have hgraph := adds_graph "        " (scope index) hopen.valid r.graph
  have hfile := (hopen.trans hgraph).trans (adds_line hgraph.valid "    end")
  rw [List.append_nil, List.nil_append] at hfile
  rw [file_eq]
  exact hfile

theorem valid_start (direction : Direction) : (start direction).ids.Valid := ChartIds.valid_none

/-- The text of a chart of which the lines are known. -/
theorem text_of_adds {direction : Direction} {d : Draft} {keys : List String}
    {lines : (String → String) → List String} (h : Adds (start direction) d keys lines) :
    d.text = chart direction (lines (nameIn d.ids)) := by
  rw [Draft.text, h.lines d.ids fun _ _ hid => hid, List.reverse_append, List.reverse_reverse]
  rfl

end Draft

/-! ## Keys -/

/-- The mark of a file is its number between a letter and an underscore. -/
theorem scope_toList (index : Nat) :
    (scope index).toList = 'f' :: (toString index).toList ++ ['_'] := by
  have htext : scope index = "f" ++ toString index ++ "_" := rfl
  rw [htext, String.toList_append, String.toList_append]
  rfl

/-- So the first underscore ends the mark. -/
theorem underscore_not_mem (index : Nat) : '_' ∉ 'f' :: (toString index).toList := by
  intro hmem
  rcases List.mem_cons.mp hmem with heq | hmem
  · exact absurd heq (by decide)
  · exact Identifier.not_mem_digits (by decide) index hmem

/-- A mark is told from what is behind it, and by its number from other marks. -/
theorem scope_inj {i j : Nat} {s t : String} (h : scope i ++ s = scope j ++ t) :
    i = j ∧ s = t := by
  rw [← String.toList_inj, String.toList_append, String.toList_append, scope_toList,
    scope_toList, List.append_assoc, List.append_assoc] at h
  obtain ⟨hnumber, htext⟩ :=
    Identifier.append_first_mark_inj (underscore_not_mem i) (underscore_not_mem j) h
  exact ⟨Nat.repr_injective (String.toList_inj.mp (List.cons.inj hnumber).2),
    String.toList_inj.mp htext⟩

/-- A mark has nothing in it for which an underscore is put. -/
theorem ofText_scope_append (index : Nat) (text : String) :
    (Identifier.ofText (scope index ++ text)).toList =
      (scope index).toList ++ (Identifier.ofText text).toList := by
  have hplain : ∀ c ∈ (scope index).toList,
      (if Identifier.isPlain c then c else '_') = c := by
    intro c hc
    rw [scope_toList, List.mem_append, List.mem_cons, List.mem_singleton] at hc
    rcases hc with (rfl | hdigit) | rfl
    · decide
    · have hc : c.isDigit = true := by
        by_contra hno
        exact Identifier.not_mem_digits (Bool.not_eq_true _ ▸ hno) index hdigit
      simp [Identifier.isPlain, Char.isAlphanum, hc]
    · decide
  simp only [Identifier.ofText, String.toList_map, String.toList_append, List.map_append]
  rw [List.map_congr_left hplain, List.map_id']

/-- An id of a node is none of the part of a file: behind the mark it goes on otherwise. -/
theorem numbered_ne_partId (i j : Nat) (rest : String) (count : Nat) :
    ChartIds.numbered (Identifier.ofText (scope i ++ ("node-" ++ rest))) count ≠ partId j := by
  intro heq
  obtain ⟨behind, hbehind⟩ : ∃ behind,
      (ChartIds.numbered (Identifier.ofText (scope i ++ ("node-" ++ rest))) count).toList =
        (scope i).toList ++ 'n' :: behind := by
    have hbase : ∃ behind, (Identifier.ofText (scope i ++ ("node-" ++ rest))).toList =
        (scope i).toList ++ 'n' :: behind := by
      rw [ofText_scope_append, Identifier.ofText, String.toList_map, String.toList_append]
      exact ⟨_, rfl⟩
    obtain ⟨behind, hbase⟩ := hbase
    unfold ChartIds.numbered
    split
    · exact ⟨behind, hbase⟩
    · refine ⟨behind ++ ("_" ++ toString count).toList, ?_⟩
      rw [String.append_assoc, String.toList_append, hbase, List.append_assoc]
      rfl
  -- behind the mark the id of a part goes on with `f` and not with `n`
  have hpart : (partId j).toList = (scope j).toList ++ ['f', 'i', 'l', 'e'] := by
    rw [partId, String.toList_append]
    rfl
  rw [heq, hpart, scope_toList, scope_toList, List.append_assoc, List.append_assoc] at hbehind
  obtain ⟨-, hrest⟩ :=
    Identifier.append_first_mark_inj (underscore_not_mem j) (underscore_not_mem i) hbehind
  exact absurd (List.cons.inj hrest).1 (by decide)

/-! ## Charts -/

/-- What is asked of the ids under which a chart shows the nodes of a graph. -/
structure NamesNodes (g : CallGraph α) (name : String → String) : Prop where
  plain : ∀ n ∈ g.functionNodes, ∀ c ∈ (name n.id).toList, c.isAlphanum = true ∨ c = '_'
  /-- No id is declared twice. -/
  once : (g.functionNodes.map fun n => name n.id).Nodup
  /-- The ids that edges join are declared. -/
  ends : ∀ e ∈ g.edges, (∃ n ∈ g.functionNodes, n.id = e.source) ∧
    ∃ n ∈ g.functionNodes, n.id = e.target

/-- Different keys that have ids have different ids. -/
theorem nameIn_inj {ids : ChartIds} (hids : ids.Valid) {key key' : String}
    (hkey : ∃ id, ids.given[key]? = some id) (hkey' : ∃ id, ids.given[key']? = some id)
    (h : nameIn ids key = nameIn ids key') : key = key' := by
  obtain ⟨id, hid⟩ := hkey
  obtain ⟨id', hid'⟩ := hkey'
  rw [nameIn, nameIn, hid, hid'] at h
  obtain rfl : id = id' := h
  exact hids.distinct key key' id hid hid'

/-- If all nodes of a graph have ids, the ids tell the nodes apart and the edges join them. -/
theorem namesNodes {ids : ChartIds} (hids : ids.Valid) {mark : String} {g : CallGraph α}
    (hg : g.Chartable) (hknown : ∀ key ∈ Draft.graphKeys mark g, ∃ id, ids.given[key]? = some id) :
    NamesNodes g fun id => nameIn ids (mark ++ id) where
  plain := fun n hn c hc => by
    obtain ⟨id, hid⟩ := hknown _ (List.mem_map_of_mem hn)
    rw [nameIn, hid] at hc
    have hchar := hids.isIdChar hid c hc
    rw [ChartIds.isIdChar, Bool.or_eq_true, beq_iff_eq] at hchar
    exact hchar
  once := by
    have hids' : g.functionNodes.map (fun n => nameIn ids (mark ++ n.id)) =
        g.functionIds.map fun id => nameIn ids (mark ++ id) := by
      rw [CallGraph.functionIds, List.map_map]
      rfl
    rw [hids']
    refine List.Nodup.map_on (fun id hid id' hid' heq => ?_) hg.nodeIds
    have hgiven : ∀ id ∈ g.functionIds, ∃ given, ids.given[mark ++ id]? = some given := by
      intro id hid
      obtain ⟨n, hn, rfl⟩ := List.mem_map.mp hid
      exact hknown _ (List.mem_map_of_mem hn)
    exact (String.append_right_inj mark).mp
      (nameIn_inj hids (hgiven id hid) (hgiven id' hid') heq)
  ends := fun e he =>
    ⟨List.mem_map.mp (hg.sources e he), List.mem_map.mp (hg.targets e he)⟩

/-- The chart of one graph is that of its lines with some names that tell its nodes apart. -/
theorem ofGraph_named (direction : Direction) {g : CallGraph α} (hg : g.Chartable) :
    ∃ name, ofGraph direction g = chart direction (graphLines "    " name g) ∧
      NamesNodes g name := by
  have hgraph := Draft.adds_graph "    " "" (Draft.valid_start direction) g
  exact ⟨_, Draft.text_of_adds hgraph, namesNodes hgraph.valid hg hgraph.known⟩

/-- What is asked of the ids of the nodes of several files, the `i`-th of which has
`name i`. -/
structure NamesFiles (reports : List (Report α)) (name : Nat → String → String) : Prop where
  files : ∀ i r, reports[i]? = some r → NamesNodes r.graph (name i)
  notParts : ∀ i r, reports[i]? = some r → ∀ n ∈ r.graph.functionNodes, ∀ j,
    name i n.id ≠ partId j
  distinct : ∀ i r j r', reports[i]? = some r → reports[j]? = some r' →
    ∀ n ∈ r.graph.functionNodes, ∀ m ∈ r'.graph.functionNodes,
      name i n.id = name j m.id → i = j ∧ n.id = m.id

/-- The chart of several files has a part for each of them, with names that tell the nodes of all
files apart, and none that is the id of a part. -/
theorem ofReports_named (direction : Direction) {reports : List (Report α)}
    (hseveral : 2 ≤ reports.length) (hgraphs : ∀ r ∈ reports, r.graph.Chartable) :
    ∃ name : Nat → String → String,
      ofReports direction reports =
        chart direction (reports.zipIdx.flatMap fun (r, i) => fileLines (name i) r i) ∧
      NamesFiles reports name := by
  have hfiles := Draft.Adds.foldl (fun d (x : Report α × Nat) hd => Draft.adds_file hd x.1 x.2)
    reports.zipIdx _ (Draft.valid_start direction)
  have htext : ofReports direction reports =
      (reports.zipIdx.foldl (fun d x => d.file x.1 x.2) (start direction)).text := by
    match reports, hseveral with
    | _ :: _ :: _, _ => rfl
  generalize reports.zipIdx.foldl (fun d x => d.file x.1 x.2) (start direction) = d
    at hfiles htext
  -- the keys of the nodes of a file have ids
  have hknown : ∀ i r, reports[i]? = some r →
      ∀ key ∈ Draft.graphKeys (scope i) r.graph, ∃ id, d.ids.given[key]? = some id := by
    intro i r hr key hkey
    have hmem : (r, i) ∈ reports.zipIdx := List.mem_zipIdx_iff_getElem?.mpr hr
    exact hfiles.known key (List.mem_flatMap.mpr ⟨(r, i), hmem, hkey⟩)
  refine ⟨fun i id => nameIn d.ids (scope i ++ id), htext.trans (Draft.text_of_adds hfiles), ?_⟩
  constructor
  case files =>
    intro i r hr
    exact namesNodes hfiles.valid (hgraphs r (List.mem_of_getElem? hr)) (hknown i r hr)
  case notParts =>
    intro i r hr n hn j
    obtain ⟨rest, hrest⟩ := (hgraphs r (List.mem_of_getElem? hr)).begins n.id
      (List.mem_map_of_mem hn)
    obtain ⟨id, hid⟩ := hknown i r hr _ (List.mem_map_of_mem hn)
    obtain ⟨count, -, hcount⟩ := hfiles.valid.made _ id hid
    rw [nameIn, hid, hcount, hrest]
    exact numbered_ne_partId i j rest count
  case distinct =>
    intro i r j r' hr hr' n hn m hm heq
    exact scope_inj (nameIn_inj hfiles.valid (hknown i r hr _ (List.mem_map_of_mem hn))
      (hknown j r' hr' _ (List.mem_map_of_mem hm)) heq)

/-- **A chart tells all nodes apart.** It declares every node of a function once, under an
id of letters, digits and underscores; nodes of different files or with different ids get
different ones, none of which is that of the part of a file; and the line of an edge has
the ids under which both its ends are declared in the same part. So it is with one graph,
without parts. Every search for a free id ends, and it ends with the first that is free. -/
theorem charts_name_nodes (direction : Direction) :
    (∀ reports : List (Report α), 2 ≤ reports.length → (∀ r ∈ reports, r.graph.Chartable) →
      ∃ name : Nat → String → String,
        ofReports direction reports =
          chart direction (reports.zipIdx.flatMap fun (r, i) => fileLines (name i) r i) ∧
        NamesFiles reports name) ∧
    (∀ g : CallGraph α, g.Chartable → ∃ name : String → String,
      ofGraph direction g = chart direction (graphLines "    " name g) ∧ NamesNodes g name) ∧
    ∀ (ids : ChartIds) (key : String), ids.given[key]? = none →
      ∃ count, ChartIds.FirstFree ids.used (Identifier.ofText key) count ∧
        (ids.assign key).1 = ChartIds.numbered (Identifier.ofText key) count := by
  refine ⟨fun reports hseveral hgraphs => ofReports_named direction hseveral hgraphs,
    fun g hg => ofGraph_named direction hg, fun ids key hkey => ?_⟩
  obtain ⟨count, hcount, heq⟩ := ChartIds.assign_of_new hkey
  exact ⟨count, hcount, congrArg Prod.fst heq⟩

/-- Three nodes whose ids fall together, the third with what the second is numbered. -/
def crowded : CallGraph Nat :=
  let node (id : String) : Node Nat :=
    { id, role := .function, position := ⟨0, 0⟩, width := none, height := none
      interactive := true, function := .named id, complexity := 1, category := .simple }
  ⟨[node "node-a_b", node "node-a-b", node "node-a_b_2"],
    [⟨"edge-1", "node-a-b", "node-a_b_2", 1, false, none⟩]⟩

theorem charts_name_nodes_crowded :
    let reports : List (Report Nat) := [⟨"a.ts", default, crowded⟩, ⟨"b.ts", default, crowded⟩]
    (2 ≤ reports.length ∧ ∀ r ∈ reports, r.graph.Chartable) ∧
      ∃ name : Nat → String → String,
        ofReports .topBottom reports =
          chart .topBottom (reports.zipIdx.flatMap fun (r, i) => fileLines (name i) r i) ∧
        NamesFiles reports name := by
  intro reports
  have hcrowded : crowded.Chartable := by
    refine ⟨by decide, fun id hid => ?_, by decide, by decide⟩
    rcases List.mem_cons.mp hid with rfl | hid
    · exact ⟨"a_b", rfl⟩
    · rcases List.mem_cons.mp hid with rfl | hid
      · exact ⟨"a-b", rfl⟩
      · obtain rfl := List.mem_singleton.mp hid
        exact ⟨"a_b_2", rfl⟩
  have hgraphs : ∀ r ∈ reports, r.graph.Chartable := by
    intro r hr
    rcases List.mem_cons.mp hr with rfl | hr
    · exact hcrowded
    · obtain rfl := List.mem_singleton.mp hr
      exact hcrowded
  exact ⟨⟨Nat.le_refl 2, hgraphs⟩,
    (charts_name_nodes .topBottom).1 reports (Nat.le_refl 2) hgraphs⟩

end Flowchart

end CallAtlas
