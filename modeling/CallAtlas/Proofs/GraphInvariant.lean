import CallAtlas.Graph.Select
import CallAtlas.Layout.Box
import CallAtlas.Proofs.Placement
import Mathlib.Data.List.Lattice

/-!
# What holds of every graph

A graph is built from functions and calls and then filtered, simplified, laid out and
moved, in any order and as often as one likes. `CallGraph.WellFormed` is what holds of it
all the time: ids are different, edges end at nodes of functions, and the counts of calls
agree with the labels. A graph is built so (`build_wellFormed`), each step keeps it so
(`step_wellFormed`), hence every run does (`run_wellFormed`).

The ids of nodes of functions begin with `node-` and those of headers with `header-`.
Only this keeps the headers that a new layout adds apart from the nodes that are there.
-/

namespace CallAtlas

variable {α : Type}

namespace CallGraph

/-- The ids of the nodes that show functions. -/
def functionIds (g : CallGraph α) : List String := g.functionNodes.map Node.id

/-- What holds of every graph. -/
structure WellFormed (g : CallGraph α) : Prop where
  nodeIds : (g.nodes.map Node.id).Nodup
  edgeIds : (g.edges.map Edge.id).Nodup
  /-- Two nodes are joined by one edge at most. -/
  pairs : (g.edges.map fun e => (e.source, e.target)).Nodup
  sources : ∀ e ∈ g.edges, e.source ∈ g.functionIds
  targets : ∀ e ∈ g.edges, e.target ∈ g.functionIds
  counts : ∀ e ∈ g.edges, 1 ≤ e.callCount
  labels : ∀ e ∈ g.edges, e.label = countLabel e.callCount
  begins : ∀ id ∈ g.functionIds, ∃ rest, id = "node-" ++ rest

/-! ## Building -/

section Build

variable [Measure α] (functions : List FunctionInfo) (calls : List CallSite)

/-- All nodes of a graph that is built show functions. -/
theorem build_functionIds : (build functions calls : CallGraph α).functionIds =
    (nodesOf functions : List (Node α)).map Node.id := by
  unfold functionIds functionNodes build
  rw [List.filter_eq_self.mpr fun n hn => by rw [nodesOf_not_header hn]; rfl]

/-- A node that a name stands for shows a function. -/
theorem mem_functionIds_of_named? {name id : String}
    (h : (named? (nodesOf functions : List (Node α)) name).map Node.id = some id) :
    id ∈ (build functions calls : CallGraph α).functionIds := by
  obtain ⟨n, hn, rfl⟩ := Option.map_eq_some_iff.mp h
  rw [build_functionIds]
  exact List.mem_map_of_mem (named?_spec hn).1

/-- Different pairs of names join different pairs of nodes. -/
theorem build_pairs_nodup :
    ((build functions calls : CallGraph α).edges.map fun e => (e.source, e.target)).Nodup := by
  have hnames : ((linksOf (idsByName functions ((nodesOf functions : List (Node α)).map Node.id))
      (countPairs calls)).map fun l => (l.caller, l.callee)).Nodup :=
    linksOf_pairs_nodup (countPairs_nodup calls)
  have hids := nodesOf_id_nodup (α := α) functions
  rw [build, edgesOf_map (g := fun l => (l.source, l.target)) fun _ _ => rfl]
  unfold List.Nodup at hnames ⊢
  rw [List.pairwise_map] at hnames ⊢
  refine hnames.imp_of_mem fun {l m} hl hm hne heq => hne ?_
  obtain ⟨-, -, hlsource, hltarget⟩ := (mem_build_links_iff functions calls).mp hl
  obtain ⟨-, -, hmsource, hmtarget⟩ := (mem_build_links_iff functions calls).mp hm
  obtain ⟨hsource, htarget⟩ := Prod.mk.inj heq
  rw [hsource] at hlsource
  rw [htarget] at hltarget
  exact Prod.ext (named?_inj hids hlsource hmsource) (named?_inj hids hltarget hmtarget)

/-- An edge has its ends from names that stand for nodes and its count from a pair that
calls join. -/
theorem build_edge_spec {e : Edge} (he : e ∈ (build functions calls : CallGraph α).edges) :
    e.source ∈ (build functions calls : CallGraph α).functionIds ∧
    e.target ∈ (build functions calls : CallGraph α).functionIds ∧
    1 ≤ e.callCount ∧ e.label = countLabel e.callCount := by
  obtain ⟨l, hl, hedge⟩ := mem_build_edges functions calls he
  obtain ⟨-, -, hsource, htarget⟩ := (mem_build_links_iff functions calls).mp hl
  rw [hedge]
  exact ⟨mem_functionIds_of_named? functions calls hsource,
    mem_functionIds_of_named? functions calls htarget, countPairs_pos (mem_linksOf_iff.mp hl).1,
    rfl⟩

/-- **A graph that is built is well formed.** -/
theorem build_wellFormed : (build functions calls : CallGraph α).WellFormed where
  nodeIds := nodesOf_id_nodup functions
  edgeIds := edgesOf_id_nodup
  pairs := build_pairs_nodup functions calls
  sources := fun _ he => (build_edge_spec functions calls he).1
  targets := fun _ he => (build_edge_spec functions calls he).2.1
  counts := fun _ he => (build_edge_spec functions calls he).2.2.1
  labels := fun _ he => (build_edge_spec functions calls he).2.2.2
  begins := fun id hid => by
    rw [build_functionIds] at hid
    obtain ⟨n, hn, rfl⟩ := List.mem_map.mp hid
    exact nodesOf_id_begins hn

end Build

/-! ## Taking a part -/

/-- A node whose id is kept is still there. -/
theorem mem_restrict_functionIds {g : CallGraph α} {ids : Std.HashSet String} {id : String}
    (hid : id ∈ g.functionIds) (hkept : ids.contains id = true) :
    id ∈ (g.restrict ids).functionIds := by
  obtain ⟨n, hn, rfl⟩ := List.mem_map.mp hid
  obtain ⟨hmem, hshown⟩ := List.mem_filter.mp hn
  exact List.mem_map_of_mem (List.mem_filter.mpr ⟨List.mem_filter.mpr ⟨hmem, hkept⟩, hshown⟩)

/-- A part of a graph has the edges both of whose ends it has. -/
theorem restrict_wellFormed {g : CallGraph α} (h : g.WellFormed) (ids : Std.HashSet String) :
    (g.restrict ids).WellFormed := by
  have hedge : ∀ e ∈ (g.restrict ids).edges,
      e ∈ g.edges ∧ ids.contains e.source = true ∧ ids.contains e.target = true := fun e he => by
    obtain ⟨hmem, hends⟩ := List.mem_filter.mp he
    exact ⟨hmem, (Bool.and_eq_true_iff.mp hends)⟩
  exact
    { nodeIds := h.nodeIds.sublist (List.filter_sublist.map _)
      edgeIds := h.edgeIds.sublist (List.filter_sublist.map _)
      pairs := h.pairs.sublist (List.filter_sublist.map _)
      sources := fun e he =>
        mem_restrict_functionIds (h.sources e (hedge e he).1) (hedge e he).2.1
      targets := fun e he =>
        mem_restrict_functionIds (h.targets e (hedge e he).1) (hedge e he).2.2
      counts := fun e he => h.counts e (hedge e he).1
      labels := fun e he => h.labels e (hedge e he).1
      begins := fun id hid =>
        h.begins id (((List.filter_sublist.filter _).map _).subset hid) }

/-! ## Moving nodes -/

/-- Other nodes under the same edges, if those of functions have the ids they had. -/
theorem renodes_wellFormed {g : CallGraph α} (h : g.WellFormed) {nodes : List (Node α)}
    (hids : (nodes.map Node.id).Nodup)
    (hsame : (⟨nodes, g.edges⟩ : CallGraph α).functionIds = g.functionIds) :
    (⟨nodes, g.edges⟩ : CallGraph α).WellFormed where
  nodeIds := hids
  edgeIds := h.edgeIds
  pairs := h.pairs
  sources := by rw [hsame]; exact h.sources
  targets := by rw [hsame]; exact h.targets
  counts := h.counts
  labels := h.labels
  begins := by rw [hsame]; exact h.begins

/-- No id of a node is one of a header. -/
theorem node_ne_header (rest rest' : String) : "node-" ++ rest ≠ "header-" ++ rest' := by
  intro heq
  rw [← String.toList_inj, String.toList_append, String.toList_append] at heq
  exact absurd (List.cons.inj heq).1 (by decide)

/-- A layout throws headers away and adds its own, which are none of the nodes. -/
theorem layout_wellFormed [AngularMeasure α] {g : CallGraph α} (h : g.WellFormed)
    (s : LayoutSettings α) : (Layout.graph s g).WellFormed := by
  have hsame : (Layout.graph s g).functionIds = g.functionIds :=
    Layout.map_eq_of_unplaced (fun _ => rfl) (Layout.graph_functionNodes s g)
  refine renodes_wellFormed h ?_ hsame
  obtain ⟨shown, headers, hnodes, hshown, hheaders⟩ := Layout.nodes_placed s g.nodes g.edges
  have hshownIds : shown.map Node.id = g.functionIds :=
    Layout.map_eq_of_unplaced (fun _ => rfl) hshown
  -- the nodes that stay had different ids before, and no header has the id of one
  rw [hnodes, List.map_append, hshownIds]
  refine List.Nodup.append (h.nodeIds.sublist (List.filter_sublist.map _)) hheaders.nodup ?_
  intro id hid hheader
  obtain ⟨rest, rfl⟩ := h.begins id hid
  obtain ⟨m, hm, heq⟩ := List.mem_map.mp hheader
  obtain ⟨rest', hrest'⟩ := hheaders.begins m hm
  exact node_ne_header rest rest' (heq.symm.trans hrest')

/-- Moving all nodes keeps a graph well formed. -/
theorem center_wellFormed [Measure α] {g : CallGraph α} (h : g.WellFormed) (viewport : Box α) :
    (⟨Box.centered g.nodes viewport, g.edges⟩ : CallGraph α).WellFormed := by
  have hids : (Box.centered g.nodes viewport).map Node.id = g.nodes.map Node.id := by
    unfold Box.centered
    rw [List.map_map]
    rfl
  refine renodes_wellFormed h (hids ▸ h.nodeIds) ?_
  unfold functionIds functionNodes Box.centered
  rw [List.filter_map, List.map_map]
  rfl

/-! ## Runs -/

/-- What can be done with a graph. -/
inductive Step (α : Type) where
  | filter (f : NodeFilter)
  | simplify
  | layout (s : LayoutSettings α)
  /-- Moves all nodes into the middle of a viewport. -/
  | center (viewport : Box α)

/-- The graph after a step. -/
def Step.apply [AngularMeasure α] : Step α → CallGraph α → CallGraph α
  | .filter f, g => g.filter f
  | .simplify, g => g.simplify
  | .layout s, g => Layout.graph s g
  | .center viewport, g => ⟨Box.centered g.nodes viewport, g.edges⟩

/-- The graph after some steps. -/
def run [AngularMeasure α] (steps : List (Step α)) (g : CallGraph α) : CallGraph α :=
  steps.foldl (fun g step => step.apply g) g

variable [AngularMeasure α]

/-- **Every step keeps a graph well formed.** -/
theorem step_wellFormed {g : CallGraph α} (h : g.WellFormed) (step : Step α) :
    (step.apply g).WellFormed := by
  cases step with
  | filter f => exact restrict_wellFormed h _
  | simplify => exact restrict_wellFormed h _
  | layout s => exact layout_wellFormed h s
  | center viewport => exact center_wellFormed h viewport

/-- A run keeps a graph well formed, by induction on its steps. -/
theorem run_wellFormed (steps : List (Step α)) :
    ∀ {g : CallGraph α}, g.WellFormed → (run steps g).WellFormed := by
  induction steps with
  | nil => intro g h; exact h
  | cons step steps ih => intro g h; exact ih (step_wellFormed h step)

/-- A label tells a count that is more than one. -/
theorem countLabel_eq_iff (count n : Nat) :
    countLabel count = some s!"{n}x" ↔ count = n ∧ 1 < n := by
  unfold countLabel
  constructor
  · intro h
    split at h
    · next hlt =>
      have heq := (String.append_left_inj _).mp (Option.some.inj h)
      obtain rfl := Nat.repr_injective heq
      exact ⟨rfl, hlt⟩
    · cases h
  · rintro ⟨rfl, hlt⟩
    rw [if_pos hlt]

/-- **However a graph came about**, by building it from any functions and calls and by
any steps after that, its ids are different, no two edges join the same nodes in the same
direction, both ends of each edge are nodes of functions, and each edge stands for at
least one call and tells their number if there are several. -/
theorem run_build_spec (functions : List FunctionInfo) (calls : List CallSite)
    (steps : List (Step α)) :
    let g := run steps (build functions calls)
    (g.nodes.map Node.id).Nodup ∧ (g.edges.map Edge.id).Nodup ∧
    (g.edges.map fun e => (e.source, e.target)).Nodup ∧
    (∀ e ∈ g.edges,
      (∃ n ∈ g.nodes, n.isHeader = false ∧ n.id = e.source) ∧
      (∃ n ∈ g.nodes, n.isHeader = false ∧ n.id = e.target)) ∧
    ∀ e ∈ g.edges, 1 ≤ e.callCount ∧
      e.label = (if 1 < e.callCount then some s!"{e.callCount}x" else none) ∧
      ∀ n : Nat, e.label = some s!"{n}x" ↔ e.callCount = n ∧ 1 < n := by
  have h := run_wellFormed steps (build_wellFormed (α := α) functions calls)
  have hend : ∀ {id : String}, id ∈ (run steps (build functions calls)).functionIds →
      ∃ n ∈ (run steps (build functions calls : CallGraph α)).nodes,
        n.isHeader = false ∧ n.id = id := fun {id} hid => by
    obtain ⟨n, hn, rfl⟩ := List.mem_map.mp hid
    obtain ⟨hmem, hshown⟩ := List.mem_filter.mp hn
    exact ⟨n, hmem, by simpa using hshown, rfl⟩
  refine ⟨h.nodeIds, h.edgeIds, h.pairs, fun e he => ?_, fun e he => ?_⟩
  · exact ⟨hend (h.sources e he), hend (h.targets e he)⟩
  · refine ⟨h.counts e he, h.labels e he, fun n => ?_⟩
    rw [h.labels e he, countLabel_eq_iff]

end CallGraph

end CallAtlas
