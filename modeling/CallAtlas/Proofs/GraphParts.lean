import CallAtlas.Graph.Select
import CallAtlas.Program.Analyzer
import CallAtlas.Proofs.GraphInvariant

/-!
# Parts of graphs

Filters and simplifying decide by ids what is kept: a node stays if some node with its id has a
reason to stay. So both of them take a part of the graph for a test of ids (`filter_eq_part`,
`simplify_eq_part`). A part of a part is the part for both tests together (`part_part`), and a
node is found in a part just if it is found in the graph and its id is kept (`hasNode_part`).
From these two facts follows how filters and simplifying work one after the other, in graphs
with repeated ids and with edges to nowhere too.

Where ids are different, an id stands for one node (`hasNode_eq_node?`), and the tests of ids
become tests of nodes.

A filter keeps only ids of nodes, so its edges end at nodes that it keeps. Simplifying also keeps
what an exported node calls, and there an edge to nowhere is a reason to keep an id that no node
has (`simplify_anchored_iff`).
-/

namespace CallAtlas

variable {α : Type}

/-- The filter that exported functions pass. -/
def NodeFilter.exported : NodeFilter := { NodeFilter.all with exportedOnly := true }

namespace CallGraph

/-! ## Parts by ids -/

/-- The nodes whose ids are kept and the edges between such ids. -/
def part (g : CallGraph α) (kept : String → Bool) : CallGraph α :=
  ⟨g.nodes.filter fun n => kept n.id, g.edges.filter fun e => kept e.source && kept e.target⟩

/-- Whether some node with an id passes a test. -/
def hasNode (g : CallGraph α) (test : Node α → Bool) (id : String) : Bool :=
  g.nodes.any fun n => n.id == id && test n

/-- Whether an id is kept when a graph is simplified. -/
def staysSimple (g : CallGraph α) (id : String) : Bool :=
  g.hasNode (·.function.isExported) id ||
    g.edges.any fun e => g.hasNode (·.function.isExported) e.source && e.target == id

variable {g : CallGraph α}

/-- A part of a part is the part for both tests. -/
theorem part_part (g : CallGraph α) (kept also : String → Bool) :
    (g.part kept).part also = g.part fun id => kept id && also id := by
  unfold part
  rw [List.filter_filter, List.filter_filter]
  congr 1
  · exact List.filter_congr fun n _ => Bool.and_comm _ _
  · refine List.filter_congr fun e _ => ?_
    dsimp only
    ac_rfl

/-- Parts for tests that say the same of all ids are the same. -/
theorem part_congr {kept also : String → Bool} (h : ∀ id, kept id = also id) :
    g.part kept = g.part also := congrArg g.part (funext h)

/-- A part has a node that passes a test just if the graph has one and its id is kept. -/
theorem hasNode_part (g : CallGraph α) (kept : String → Bool) (test : Node α → Bool)
    (id : String) : (g.part kept).hasNode test id = (kept id && g.hasNode test id) := by
  unfold hasNode part
  rw [List.any_filter, List.and_any_distrib_left]
  refine congrArg g.nodes.any (funext fun n => ?_)
  by_cases hid : n.id = id
  · rw [hid]
  · rw [beq_false_of_ne hid, Bool.false_and, Bool.and_false, Bool.and_false]

/-- The ids that are gathered for a test are those of nodes that pass it. -/
theorem contains_idsOf (g : CallGraph α) (test : Node α → Bool) (id : String) :
    (idsOf (g.nodes.filter test)).contains id = g.hasNode test id := by
  unfold idsOf hasNode
  rw [Std.HashSet.contains_ofList, List.contains_eq_any_beq, List.any_map, List.any_filter]
  refine congrArg g.nodes.any (funext fun n => ?_)
  show (test n && id == n.id) = (n.id == id && test n)
  rw [Bool.and_comm, BEq.comm]

/-- **A filter takes a part**: of the ids of nodes that it keeps. -/
theorem filter_eq_part (f : NodeFilter) (g : CallGraph α) :
    g.filter f = g.part (g.hasNode f.keeps) :=
  part_congr fun id => contains_idsOf g f.keeps id

/-- **Simplifying takes a part**: of the ids that stay. -/
theorem simplify_eq_part (g : CallGraph α) : g.simplify = g.part g.staysSimple := by
  refine part_congr fun id => ?_
  rw [Std.HashSet.contains_insertMany_list, contains_idsOf, List.contains_eq_any_beq,
    List.any_map, List.any_filter]
  refine congrArg (g.hasNode _ id || ·) (congrArg g.edges.any (funext fun e => ?_))
  show ((idsOf _).contains e.source && id == e.target) = _
  rw [contains_idsOf, BEq.comm]

/-! ## Filtering -/

/-- Two filters take the part of ids that have a reason to stay in both, which need not be one
node if ids are repeated. -/
theorem filter_filter_eq_part (a b : NodeFilter) (g : CallGraph α) :
    (g.filter a).filter b = g.part fun id => g.hasNode a.keeps id && g.hasNode b.keeps id := by
  rw [filter_eq_part b, filter_eq_part a, part_part]
  refine part_congr fun id => ?_
  rw [hasNode_part, ← Bool.and_assoc, Bool.and_self]

theorem filter_idem (f : NodeFilter) (g : CallGraph α) : (g.filter f).filter f = g.filter f := by
  rw [filter_filter_eq_part, filter_eq_part]
  exact part_congr fun id => Bool.and_self _

theorem filter_comm (a b : NodeFilter) (g : CallGraph α) :
    (g.filter a).filter b = (g.filter b).filter a := by
  rw [filter_filter_eq_part, filter_filter_eq_part]
  exact part_congr fun id => Bool.and_comm _ _

/-! ## Simplifying -/

/-- An id stays if an exported node has it or calls it. -/
theorem staysSimple_iff {id : String} :
    g.staysSimple id = true ↔ g.hasNode (·.function.isExported) id = true ∨
      ∃ e ∈ g.edges, g.hasNode (·.function.isExported) e.source = true ∧ e.target = id := by
  unfold staysSimple
  rw [Bool.or_eq_true, List.any_eq_true]
  simp only [Bool.and_eq_true, beq_iff_eq]

/-- A part that keeps an exported node and its callees keeps the edges between them, which are
the reason why the callees stay. -/
theorem staysSimple_part {kept : String → Bool}
    (h : ∀ id, g.staysSimple id = true → kept id = true) (id : String) :
    (g.part kept).staysSimple id = g.staysSimple id := by
  rw [Bool.eq_iff_iff, staysSimple_iff, staysSimple_iff]
  constructor
  · rintro (hid | ⟨e, he, hsource, htarget⟩)
    · rw [hasNode_part, Bool.and_eq_true] at hid
      exact .inl hid.2
    · rw [hasNode_part, Bool.and_eq_true] at hsource
      exact .inr ⟨e, (List.mem_filter.mp he).1, hsource.2, htarget⟩
  · rintro (hid | ⟨e, he, hsource, htarget⟩)
    · have hkept := h id (staysSimple_iff.mpr (.inl hid))
      exact .inl (by rw [hasNode_part, hkept, hid, Bool.and_self])
    · have hkept := h e.source (staysSimple_iff.mpr (.inl hsource))
      have hcallee := h e.target (staysSimple_iff.mpr (.inr ⟨e, he, hsource, rfl⟩))
      refine .inr ⟨e, List.mem_filter.mpr ⟨he, ?_⟩, ?_, htarget⟩
      · rw [hkept, hcallee, Bool.and_self]
      · rw [hasNode_part, hkept, hsource, Bool.and_self]

/-- Simplifying a part takes the ids that stay in that part. -/
theorem simplify_part (g : CallGraph α) (kept : String → Bool) :
    (g.part kept).simplify = g.part fun id => kept id && (g.part kept).staysSimple id := by
  rw [simplify_eq_part, part_part]

theorem simplify_idem (g : CallGraph α) : g.simplify.simplify = g.simplify := by
  rw [simplify_eq_part g, simplify_part]
  refine part_congr fun id => ?_
  rw [staysSimple_part fun _ h => h, Bool.and_self]

theorem keeps_exported : (NodeFilter.exported.keeps : Node α → Bool) =
    fun n => n.function.isExported := by
  funext n
  simp [NodeFilter.keeps, NodeFilter.exported, NodeFilter.all]

/-- Exported functions stay when a graph is simplified. -/
theorem filter_exported_simplify (g : CallGraph α) :
    g.simplify.filter .exported = g.filter .exported := by
  rw [filter_eq_part, filter_eq_part, simplify_eq_part, part_part, keeps_exported]
  refine part_congr fun id => ?_
  rw [hasNode_part, ← Bool.and_assoc, Bool.and_self, staysSimple]
  cases g.hasNode (·.function.isExported) id <;> simp

/-- Where all functions are exported there is nothing to simplify. -/
theorem simplify_filter_exported (g : CallGraph α) :
    (g.filter .exported).simplify = g.filter .exported := by
  rw [filter_eq_part, simplify_part, keeps_exported]
  refine part_congr fun id => ?_
  rw [staysSimple, hasNode_part, Bool.and_self]
  cases g.hasNode (·.function.isExported) id <;> simp

/-! ## Graphs in which ids stand for nodes -/

/-- Ids are different, and edges end at nodes. -/
structure Closed (g : CallGraph α) : Prop where
  nodeIds : (g.nodes.map Node.id).Nodup
  sources : ∀ e ∈ g.edges, ∃ n ∈ g.nodes, n.id = e.source
  targets : ∀ e ∈ g.edges, ∃ n ∈ g.nodes, n.id = e.target

/-- A graph that is well formed is closed. -/
theorem WellFormed.closed (h : g.WellFormed) : g.Closed where
  nodeIds := h.nodeIds
  sources := fun e he => by
    obtain ⟨n, hn, hid⟩ := List.mem_map.mp (h.sources e he)
    exact ⟨n, (List.mem_filter.mp hn).1, hid⟩
  targets := fun e he => by
    obtain ⟨n, hn, hid⟩ := List.mem_map.mp (h.targets e he)
    exact ⟨n, (List.mem_filter.mp hn).1, hid⟩

/-- Where ids are different, a node is found under its id. -/
theorem node?_of_mem (hids : (g.nodes.map Node.id).Nodup) {n : Node α} (hn : n ∈ g.nodes) :
    g.node? n.id = some n := by
  obtain ⟨m, hm⟩ := Option.isSome_iff_exists.mp
    (List.find?_isSome (p := (·.id == n.id)) |>.mpr ⟨n, hn, beq_self_eq_true _⟩)
  have hid : m.id = n.id := by simpa using List.find?_some hm
  rw [node?, hm, List.inj_on_of_nodup_map hids (List.mem_of_find?_eq_some hm) hn hid]

/-- Where a test of ids says the same as a test of nodes, the nodes that pass are kept, and the
edges that end at such nodes. -/
theorem part_of_test (h : g.Closed) {kept : String → Bool} {test : Node α → Bool}
    (hkept : ∀ n ∈ g.nodes, kept n.id = test n) :
    g.part kept = ⟨g.nodes.filter test,
      g.edges.filter fun e => (g.node? e.source).any test && (g.node? e.target).any test⟩ := by
  have hnode : ∀ id, (∃ n ∈ g.nodes, n.id = id) → kept id = (g.node? id).any test := by
    rintro id ⟨n, hn, rfl⟩
    rw [node?_of_mem h.nodeIds hn, hkept n hn, Option.any_some]
  unfold part
  congr 1
  · exact List.filter_congr hkept
  · refine List.filter_congr fun e he => ?_
    rw [hnode _ (h.sources e he), hnode _ (h.targets e he)]

/-- Where ids are different, an id passes a test just if its node does. -/
theorem hasNode_of_mem (hids : (g.nodes.map Node.id).Nodup) (test : Node α → Bool) {n : Node α}
    (hn : n ∈ g.nodes) : g.hasNode test n.id = test n := by
  rw [Bool.eq_iff_iff, hasNode, List.any_eq_true]
  constructor
  · rintro ⟨m, hm, htest⟩
    obtain ⟨hid, htest⟩ := Bool.and_eq_true_iff.mp htest
    rwa [← List.inj_on_of_nodup_map hids hm hn (beq_iff_eq.mp hid)]
  · intro htest
    exact ⟨n, hn, by rw [htest, beq_self_eq_true, Bool.and_self]⟩

/-- Different nodes have different ids, so an id is as good as its node. -/
theorem hasNode_eq_node? (hids : (g.nodes.map Node.id).Nodup) (test : Node α → Bool)
    (id : String) : g.hasNode test id = (g.node? id).any test := by
  cases hnode : g.node? id with
  | none =>
    have hnone : ∀ n ∈ g.nodes, ¬(n.id == id) = true := List.find?_eq_none.mp hnode
    refine List.any_eq_false.mpr fun n hn htest => ?_
    exact hnone n hn (Bool.and_eq_true_iff.mp htest).1
  | some n =>
    have hid : n.id = id := by simpa using List.find?_some hnode
    rw [← hid, hasNode_of_mem hids test (List.mem_of_find?_eq_some hnode), Option.any_some]

/-- The filter that asks for nothing changes nothing in a closed graph. -/
theorem filter_all (h : g.Closed) : g.filter .all = g := by
  have hkeeps : (NodeFilter.all.keeps : Node α → Bool) = fun _ => true := by
    funext n
    simp [NodeFilter.keeps, NodeFilter.all]
  rw [filter_eq_part, hkeeps, part_of_test h fun n hn => hasNode_of_mem h.nodeIds _ hn]
  have hedges : ∀ e ∈ g.edges,
      ((g.node? e.source).any fun _ => true) && ((g.node? e.target).any fun _ => true) := by
    intro e he
    obtain ⟨n, hn, hsource⟩ := h.sources e he
    obtain ⟨m, hm, htarget⟩ := h.targets e he
    rw [← hsource, ← htarget, node?_of_mem h.nodeIds hn, node?_of_mem h.nodeIds hm]
    rfl
  rw [List.filter_eq_self.mpr fun _ _ => rfl, List.filter_eq_self.mpr hedges]

/-- **Filters work as one.** A second time a filter changes nothing, and of two filters it does
not matter which one is first. If ids are different and edges end at nodes, then two filters
keep the nodes that pass both and the edges between such nodes, in their order, and the filter
that asks for nothing keeps all of the graph. So a report in which such a filter is left out is
the same as if it had been applied. -/
theorem filters_commute (g : CallGraph α) (a b : NodeFilter) :
    let both := fun n : Node α => a.keeps n && b.keeps n
    (g.filter a).filter a = g.filter a ∧
    (g.filter a).filter b = (g.filter b).filter a ∧
    (g.Closed →
      (g.filter a).filter b = ⟨g.nodes.filter both,
        g.edges.filter fun e => (g.node? e.source).any both && (g.node? e.target).any both⟩ ∧
      g.filter .all = g) ∧
    ∀ (analyzer : Analyzer) (path : String) (analysis : SourceAnalysis),
      let kept := (build analysis.functions analysis.calls).filter analyzer.filter
      (analyzer.report path analysis).graph = Layout.graph analyzer.configuration.layout
        (if analyzer.configuration.output.simplify then kept.simplify else kept) := by
  intro both
  refine ⟨filter_idem a g, filter_comm a b g, fun h => ⟨?_, filter_all h⟩,
    fun analyzer path analysis => ?_⟩
  · rw [filter_filter_eq_part]
    refine part_of_test h fun n hn => ?_
    rw [hasNode_of_mem h.nodeIds _ hn, hasNode_of_mem h.nodeIds _ hn]
  · -- a filter that asks for nothing is left out of a report, where the graph is closed
    have hclosed := (build_wellFormed (α := Float) analysis.functions analysis.calls).closed
    unfold Analyzer.report Report.ofAnalysis
    dsimp only
    by_cases hempty : analyzer.filter.isEmpty = true
    · rw [if_pos hempty, show analyzer.filter = .all from beq_iff_eq.mp hempty,
        filter_all hclosed]
    · rw [if_neg hempty]

/-- Two exported functions and what they call. One of them is asynchronous and calls itself. -/
def workers : CallGraph Float :=
  let node (id : String) (isExported isAsync : Bool) : Node Float :=
    .ofFunction id .function { FunctionInfo.named id with isExported, isAsync } 1 .simple
  let edge (source target : String) : Edge :=
    ⟨source ++ target, source, target, 1, false, none⟩
  ⟨[node "main" true false, node "load" true true, node "parse" false false,
      node "trim" false false, node "format" false true],
    [edge "main" "parse", edge "main" "trim", edge "parse" "trim", edge "parse" "load",
      edge "load" "load", edge "trim" "format"]⟩

/-- The ids of this graph are different, and its edges end at nodes. -/
theorem workers_closed : workers.Closed where
  nodeIds := by decide
  sources := by decide
  targets := by decide

theorem filters_commute_workers :
    let async := { NodeFilter.all with asyncOnly := true }
    let g := (workers.filter .exported).filter async
    workers.Closed ∧ g.nodes.map Node.id = ["load"] ∧ g.edges.map Edge.id = ["loadload"] ∧
      workers.filter .all = workers := by
  intro async g
  obtain ⟨-, -, hclosed, -⟩ := filters_commute workers .exported async
  obtain ⟨hboth, hall⟩ := hclosed workers_closed
  have hg : g = _ := hboth
  rw [hg]
  exact ⟨workers_closed, by decide, by decide, hall⟩

/-- **What is left of a simplified graph.** Simplifying once more changes nothing, and exported
functions are not touched by it: to keep only these gives one graph before and after it, which
it does not change either. If ids are different and edges end at nodes, then just the exported
nodes stay and those at which edges out of exported nodes end, and with them all edges between
nodes that stay, in their order. -/
theorem simplify_keeps_callees (g : CallGraph α) :
    let exported := fun n : Node α => n.function.isExported
    let stays := fun n : Node α => exported n ||
      g.edges.any fun e => (g.node? e.source).any exported && e.target == n.id
    g.simplify.simplify = g.simplify ∧
    g.simplify.filter .exported = g.filter .exported ∧
    (g.filter .exported).simplify = g.filter .exported ∧
    (g.Closed → g.simplify = ⟨g.nodes.filter stays,
      g.edges.filter fun e => (g.node? e.source).any stays && (g.node? e.target).any stays⟩) := by
  intro exported stays
  refine ⟨simplify_idem g, filter_exported_simplify g, simplify_filter_exported g, fun h => ?_⟩
  rw [simplify_eq_part]
  refine part_of_test h fun n hn => ?_
  unfold staysSimple
  simp only [hasNode_eq_node? h.nodeIds, node?_of_mem h.nodeIds hn, Option.any_some, stays,
    exported]

theorem simplify_keeps_callees_workers :
    workers.Closed ∧
    workers.simplify.nodes.map Node.id = ["main", "load", "parse", "trim"] ∧
    workers.simplify.edges.map Edge.id =
      ["mainparse", "maintrim", "parsetrim", "parseload", "loadload"] ∧
    (workers.simplify.filter .exported).nodes.map Node.id = ["main", "load"] := by
  obtain ⟨-, hexported, -, hclosed⟩ := simplify_keeps_callees workers
  rw [hexported, filter_eq_part, hclosed workers_closed]
  exact ⟨workers_closed, by decide, by decide, by decide⟩

/-! ## Loose ends -/

/-- Every edge ends at nodes on both sides. Ids may be repeated. -/
def Anchored (g : CallGraph α) : Prop :=
  ∀ e ∈ g.edges, e.source ∈ g.nodes.map Node.id ∧ e.target ∈ g.nodes.map Node.id

theorem mem_ids_part {kept : String → Bool} {id : String} :
    id ∈ (g.part kept).nodes.map Node.id ↔ kept id = true ∧ id ∈ g.nodes.map Node.id := by
  simp only [part, List.mem_map, List.mem_filter]
  constructor
  · rintro ⟨n, ⟨hn, hkept⟩, rfl⟩
    exact ⟨hkept, n, hn, rfl⟩
  · rintro ⟨hkept, n, hn, rfl⟩
    exact ⟨n, ⟨hn, hkept⟩, rfl⟩

/-- A part has loose ends just if two ids are kept for an edge one of which is no node. -/
theorem anchored_part_iff {kept : String → Bool} :
    (g.part kept).Anchored ↔ ∀ e ∈ g.edges, kept e.source = true → kept e.target = true →
      e.source ∈ g.nodes.map Node.id ∧ e.target ∈ g.nodes.map Node.id := by
  constructor
  · intro h e he hsource htarget
    have hends := h e (List.mem_filter.mpr ⟨he, by rw [hsource, htarget, Bool.and_self]⟩)
    exact ⟨(mem_ids_part.mp hends.1).2, (mem_ids_part.mp hends.2).2⟩
  · intro h e he
    obtain ⟨hmem, hkept⟩ := List.mem_filter.mp he
    obtain ⟨hsource, htarget⟩ := Bool.and_eq_true_iff.mp hkept
    obtain ⟨hfrom, hto⟩ := h e hmem hsource htarget
    exact ⟨mem_ids_part.mpr ⟨hsource, hfrom⟩, mem_ids_part.mpr ⟨htarget, hto⟩⟩

/-- An id with a node that passes a test is the id of a node. -/
theorem mem_ids_of_hasNode {test : Node α → Bool} {id : String}
    (h : g.hasNode test id = true) : id ∈ g.nodes.map Node.id := by
  obtain ⟨n, hn, hid⟩ := List.any_eq_true.mp h
  exact List.mem_map.mpr ⟨n, hn, beq_iff_eq.mp (Bool.and_eq_true_iff.mp hid).1⟩

/-- What a filter leaves has no edge to nowhere, even if the graph had. -/
theorem filter_anchored (f : NodeFilter) (g : CallGraph α) : (g.filter f).Anchored := by
  rw [filter_eq_part]
  exact anchored_part_iff.mpr fun _ _ hsource htarget =>
    ⟨mem_ids_of_hasNode hsource, mem_ids_of_hasNode htarget⟩

/-- What an exported node calls stays without a look at whether it is a node. -/
theorem simplify_anchored_iff : g.simplify.Anchored ↔ ∀ e ∈ g.edges,
    g.hasNode (·.function.isExported) e.source = true → e.target ∈ g.nodes.map Node.id := by
  rw [simplify_eq_part, anchored_part_iff]
  constructor
  · intro h e he hsource
    exact (h e he (staysSimple_iff.mpr (.inl hsource))
      (staysSimple_iff.mpr (.inr ⟨e, he, hsource, rfl⟩))).2
  · intro h e _ hsource htarget
    have hstays : ∀ id, g.staysSimple id = true → id ∈ g.nodes.map Node.id := by
      intro id hid
      rcases staysSimple_iff.mp hid with hexported | ⟨call, hcall, hcaller, rfl⟩
      · exact mem_ids_of_hasNode hexported
      · exact h call hcall hcaller
    exact ⟨hstays _ hsource, hstays _ htarget⟩

/-- **Loose ends.** Whatever the ids and the edges of a graph, every edge that a filter keeps
ends at nodes that it keeps. When a graph is simplified, an end of an edge that stays is a node
that stays just if it was a node before; so no edge has a loose end just if the graph has no
edge from an exported node to nowhere. -/
theorem loose_ends (g : CallGraph α) :
    (∀ f : NodeFilter, (g.filter f).Anchored) ∧
    (g.simplify.Anchored ↔ ∀ e ∈ g.edges,
      (∃ n ∈ g.nodes, n.id = e.source ∧ n.function.isExported = true) →
        ∃ n ∈ g.nodes, n.id = e.target) ∧
    ∀ e ∈ g.simplify.edges, ∀ id ∈ [e.source, e.target],
      (id ∈ g.simplify.nodes.map Node.id ↔ id ∈ g.nodes.map Node.id) := by
  refine ⟨fun f => filter_anchored f g, ?_, fun e he id hid => ?_⟩
  · rw [simplify_anchored_iff]
    simp only [hasNode, List.any_eq_true, Bool.and_eq_true, beq_iff_eq, List.mem_map]
  · rw [simplify_eq_part] at he ⊢
    obtain ⟨hsource, htarget⟩ := Bool.and_eq_true_iff.mp (List.mem_filter.mp he).2
    have hkept : g.staysSimple id = true := by
      rcases List.mem_pair.mp hid with rfl | rfl
      · exact hsource
      · exact htarget
    rw [mem_ids_part, hkept]
    exact and_iff_right rfl

/-- An exported function that calls something that is no node of the graph. -/
def dangling : CallGraph Float :=
  ⟨[.ofFunction "main" .function { FunctionInfo.named "main" with isExported := true } 1 .simple],
    [⟨"call", "main", "gone", 1, false, none⟩]⟩

theorem loose_ends_dangling :
    dangling.simplify.edges.map Edge.target = ["gone"] ∧
    dangling.simplify.nodes.map Node.id = ["main"] ∧
    "gone" ∉ dangling.nodes.map Node.id ∧
    (dangling.filter .all).Anchored ∧ ¬ dangling.simplify.Anchored := by
  obtain ⟨hfilter, hsimplify, -⟩ := loose_ends dangling
  refine ⟨?_, ?_, by decide, hfilter .all, fun h => ?_⟩
  · rw [simplify_eq_part]
    decide
  · rw [simplify_eq_part]
    decide
  · exact absurd (hsimplify.mp h) (by decide)

/-- So simplifying keeps an edge to a node that it does not have. -/
theorem simplify_keeps_loose_end : ¬ ∀ g : CallGraph Float, g.simplify.Anchored := by
  intro h
  have hto := simplify_anchored_iff.mp (h dangling) ⟨"call", "main", "gone", 1, false, none⟩
    (List.mem_singleton_self _) (by decide)
  exact absurd hto (by decide)

end CallGraph

end CallAtlas
