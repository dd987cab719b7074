import CallAtlas.Proofs.Identifiers
import CallAtlas.Proofs.Tables

/-!
# Building graphs: what the nodes and edges are

`CallGraph.build` in the words of lists. There is one node per function, in order
(`nodesOf_function`), with ids that are all different (`nodesOf_id_nodup`). A name
stands for the first node that shows it (`named?`). An edge is a pair of names that
calls join, both of which stand for a node, with the number of these calls
(`mem_linksOf_iff`), and every pair has one edge (`linksOf_pairs_nodup`).
-/

namespace CallAtlas

variable {α : Type}

/-! ## Lists side by side -/

/-- Put side by side and taken apart again, the first list is as it was, if the second is as
long. -/
theorem map_zipWith_left {β γ δ ε : Type} {f : β → γ → δ} {g : δ → ε} {h : β → ε}
    (hfg : ∀ b c, g (f b c) = h b) :
    ∀ (bs : List β) (cs : List γ), bs.length = cs.length →
      (bs.zipWith f cs).map g = bs.map h := by
  intro bs
  induction bs with
  | nil => intro cs _; rfl
  | cons b bs ih =>
    intro cs hlength
    cases cs with
    | nil => cases hlength
    | cons c cs =>
      rw [List.zipWith_cons_cons, List.map_cons, List.map_cons, hfg, ih cs (Nat.succ.inj hlength)]

theorem map_zipWith_right {β γ δ ε : Type} {f : β → γ → δ} {g : δ → ε} {h : γ → ε}
    (hfg : ∀ b c, g (f b c) = h c) (bs : List β) (cs : List γ) (hlength : bs.length = cs.length) :
    (bs.zipWith f cs).map g = cs.map h := by
  rw [List.zipWith_comm]
  exact map_zipWith_left (fun c b => hfg b c) cs bs hlength.symm

namespace CallGraph

/-! ## Nodes -/

section Nodes

variable [Measure α] (functions : List FunctionInfo)

/-- What the ids of nodes are made of. -/
def nodeBases : List String := functions.map fun f => "node-" ++ Identifier.ofText f.name

theorem length_nodeIds :
    functions.length = (Identifier.distinct (nodeBases functions)).length := by
  rw [Identifier.length_distinct, nodeBases, List.length_map]

/-- One node per function, in order. -/
theorem nodesOf_function :
    (nodesOf functions : List (Node α)).map Node.function = functions := by
  refine (map_zipWith_left (h := id) ?_ _ _ (length_nodeIds functions)).trans (List.map_id _)
  exact fun f id => rfl

/-- The ids of the nodes are made of the names of the functions, told apart. -/
theorem nodesOf_id :
    (nodesOf functions : List (Node α)).map Node.id =
      Identifier.distinct (nodeBases functions) := by
  refine (map_zipWith_right (h := id) ?_ _ _ (length_nodeIds functions)).trans (List.map_id _)
  exact fun f id => rfl

theorem length_nodesOf : (nodesOf functions : List (Node α)).length = functions.length := by
  rw [← List.length_map Node.function, nodesOf_function]

/-- The ids of the nodes are different, even if functions have one name. -/
theorem nodesOf_id_nodup : ((nodesOf functions : List (Node α)).map Node.id).Nodup := by
  rw [nodesOf_id]
  refine Identifier.distinct_nodup (k := 1) fun base hbase => ?_
  obtain ⟨f, -, rfl⟩ := List.mem_map.mp hbase
  rw [Identifier.dashes_append, Identifier.dashes_ofText]
  rfl

/-- No function has the role of a header. -/
theorem role_ne_header (f : FunctionInfo) : f.role ≠ .header := by
  unfold FunctionInfo.role
  split
  · nofun
  · split
    · nofun
    · split <;> nofun

variable {functions}

theorem nodesOf_not_header {n : Node α} (h : n ∈ nodesOf functions) : n.isHeader = false := by
  obtain ⟨i, hi, rfl⟩ := List.getElem_of_mem h
  simp only [nodesOf, List.getElem_zipWith]
  exact beq_eq_false_iff_ne.mpr (role_ne_header _)

/-- All ids of nodes begin alike, which keeps them apart from those of headers and edges. -/
theorem nodesOf_id_begins {n : Node α} (h : n ∈ nodesOf functions) :
    ∃ rest, n.id = "node-" ++ rest := by
  have hid : n.id ∈ (nodesOf functions : List (Node α)).map Node.id := List.mem_map_of_mem h
  rw [nodesOf_id] at hid
  obtain ⟨base, hbase, count, -, hnumbered⟩ := Identifier.mem_distinct hid
  obtain ⟨f, -, rfl⟩ := List.mem_map.mp hbase
  rw [hnumbered]
  exact Identifier.numbered_append _ _ _

end Nodes

/-! ## Names -/

/-- The first node that shows a function with a name. -/
def named? (nodes : List (Node α)) (name : String) : Option (Node α) :=
  nodes.find? (·.label == name)

/-- The node that a name stands for is one of the nodes and shows that name. -/
theorem named?_spec {nodes : List (Node α)} {name : String} {n : Node α}
    (h : named? nodes name = some n) : n ∈ nodes ∧ n.label = name := by
  unfold named? at h
  have hlabel := List.find?_some h
  exact ⟨List.mem_of_find?_eq_some h, eq_of_beq hlabel⟩

/-- A name stands for a node when a function has it. -/
theorem named?_of_mem [Measure α] {functions : List FunctionInfo} {name : String}
    (h : name ∈ functions.map FunctionInfo.name) :
    ∃ n : Node α, named? (nodesOf functions) name = some n := by
  obtain ⟨f, hf, rfl⟩ := List.mem_map.mp h
  rw [← nodesOf_function (α := α) functions] at hf
  obtain ⟨n, hn, rfl⟩ := List.mem_map.mp hf
  have hsome : ((nodesOf functions : List (Node α)).find?
      (·.label == n.function.name)).isSome = true :=
    List.find?_isSome.mpr ⟨n, hn, beq_self_eq_true _⟩
  exact Option.isSome_iff_exists.mp hsome

/-- The table of ids gives each name the id of the first node that shows it. -/
theorem idsByName_spec [Measure α] (functions : List FunctionInfo) (name : String) :
    (idsByName functions ((nodesOf functions : List (Node α)).map Node.id))[name]? =
      (named? (nodesOf functions : List (Node α)) name).map Node.id := by
  have hzip : functions.zip ((nodesOf functions : List (Node α)).map Node.id) =
      (nodesOf functions : List (Node α)).map fun n => (n.function, n.id) := by
    rw [← List.zip_map', nodesOf_function]
  refine (Tables.getElem?_foldl_insertIfNew (fun x : FunctionInfo × String => x.1.name)
    (fun x => x.2) name _ {}).trans ?_
  rw [hzip, Std.HashMap.getElem?_empty, Option.none_or, List.find?_map, Option.map_map]
  rfl

/-- Names that stand for nodes with the same id are the same. -/
theorem named?_inj {nodes : List (Node α)} (hids : (nodes.map Node.id).Nodup)
    {name name' id : String} (h : (named? nodes name).map Node.id = some id)
    (h' : (named? nodes name').map Node.id = some id) : name = name' := by
  obtain ⟨n, hn, hid⟩ := Option.map_eq_some_iff.mp h
  obtain ⟨n', hn', hid'⟩ := Option.map_eq_some_iff.mp h'
  obtain ⟨hmem, rfl⟩ := named?_spec hn
  obtain ⟨hmem', rfl⟩ := named?_spec hn'
  rw [List.inj_on_of_nodup_map hids hmem hmem' (hid.trans hid'.symm)]

/-! ## Pairs of names -/

/-- **Calls are counted by pairs**: each pair once, in the order of the first calls, with the
number of all its calls. -/
theorem countPairs_spec (calls : List CallSite) :
    countPairs calls = (calls.map pairOf).eraseDups.map fun p =>
      (p, (calls.map pairOf).count p) := by
  have hfirsts := Tables.foldl_firsts pairOf calls {} [] fun k => by
    rw [Std.HashMap.contains_empty]
    rfl
  unfold countPairs
  dsimp only
  rw [hfirsts]
  refine List.map_congr_left fun p _ => ?_
  rw [Tables.getD_foldl_count, Std.HashMap.getD_empty, Nat.zero_add]

/-- A pair is counted if a call joins it, and then at least once. -/
theorem mem_countPairs_iff {calls : List CallSite} {p : String × String} {count : Nat} :
    (p, count) ∈ countPairs calls ↔
      p ∈ calls.map pairOf ∧ count = (calls.map pairOf).count p := by
  rw [countPairs_spec, List.mem_map]
  constructor
  · rintro ⟨q, hq, heq⟩
    obtain ⟨rfl, rfl⟩ := Prod.mk.inj heq
    exact ⟨List.mem_eraseDups.mp hq, rfl⟩
  · rintro ⟨hp, rfl⟩
    exact ⟨p, List.mem_eraseDups.mpr hp, rfl⟩

theorem countPairs_pos {calls : List CallSite} {p : String × String} {count : Nat}
    (h : (p, count) ∈ countPairs calls) : 1 ≤ count := by
  obtain ⟨hp, rfl⟩ := mem_countPairs_iff.mp h
  exact List.one_le_count_iff.mpr hp

theorem countPairs_nodup (calls : List CallSite) : ((countPairs calls).map Prod.fst).Nodup := by
  rw [countPairs_spec, List.map_map]
  exact (List.map_id _).symm ▸ Tables.nodup_eraseDups _

/-- All calls are counted. -/
theorem total_countPairs (calls : List CallSite) :
    Number.total ((countPairs calls).map Prod.snd) = calls.length := by
  rw [countPairs_spec, List.map_map]
  exact (Tables.total_counts _).trans (List.length_map pairOf)

/-! ## Links -/

section Links

variable {known : Std.HashMap String String} {pairs : List ((String × String) × Nat)}

/-- A pair makes an edge just if both its names are known, with the ids that they stand for. -/
theorem ofPair?_eq_some_iff {p : (String × String) × Nat} {l : Link} :
    Link.ofPair? known p = some l ↔
      ((l.caller, l.callee), l.count) = p ∧
        known[l.caller]? = some l.source ∧ known[l.callee]? = some l.target := by
  obtain ⟨⟨caller, callee⟩, count⟩ := p
  unfold Link.ofPair?
  constructor
  · intro h
    cases hs : known[caller]? with
    | none => simp [hs] at h
    | some source =>
      cases ht : known[callee]? with
      | none => simp [hs, ht] at h
      | some target =>
        simp only [hs, ht, Option.bind_eq_bind, Option.bind_some, Option.pure_def,
          Option.some.injEq] at h
        subst h
        exact ⟨rfl, hs, ht⟩
  · rintro ⟨hp, hs, ht⟩
    obtain ⟨hnames, rfl⟩ := Prod.mk.inj hp
    obtain ⟨rfl, rfl⟩ := Prod.mk.inj hnames
    simp [hs, ht]

/-- The edges to be are those of counted pairs of known names. -/
theorem mem_linksOf_iff {l : Link} : l ∈ linksOf known pairs ↔
    ((l.caller, l.callee), l.count) ∈ pairs ∧
      known[l.caller]? = some l.source ∧ known[l.callee]? = some l.target := by
  rw [linksOf, List.mem_filterMap]
  constructor
  · rintro ⟨p, hp, hl⟩
    obtain ⟨rfl, hknown⟩ := ofPair?_eq_some_iff.mp hl
    exact ⟨hp, hknown⟩
  · rintro ⟨hp, hknown⟩
    exact ⟨_, hp, ofPair?_eq_some_iff.mpr ⟨rfl, hknown⟩⟩

/-- Every pair has one link at most. -/
theorem linksOf_pairs_nodup (h : (pairs.map Prod.fst).Nodup) :
    ((linksOf known pairs).map fun l => (l.caller, l.callee)).Nodup := by
  unfold List.Nodup at h ⊢
  rw [List.pairwise_map] at h ⊢
  rw [linksOf, List.pairwise_filterMap]
  -- a link has the names of its pair
  refine h.imp fun {p q} hpq l hl m hm heq => hpq ?_
  obtain ⟨rfl, -⟩ := ofPair?_eq_some_iff.mp hl
  obtain ⟨rfl, -⟩ := ofPair?_eq_some_iff.mp hm
  exact heq

/-- Where all names are known no pair is left out. -/
theorem linksOf_count (h : ∀ p ∈ pairs, (known[p.1.1]?).isSome ∧ (known[p.1.2]?).isSome) :
    (linksOf known pairs).map Link.count = pairs.map Prod.snd := by
  rw [linksOf, List.map_filterMap]
  refine (List.filterMap_congr fun p hp => ?_).trans (congrFun List.filterMap_eq_map _)
  obtain ⟨hs, ht⟩ := h p hp
  obtain ⟨source, hs⟩ := Option.isSome_iff_exists.mp hs
  obtain ⟨target, ht⟩ := Option.isSome_iff_exists.mp ht
  simp [Link.ofPair?, hs, ht]

/-! ## Edges -/

theorem length_edgeIds (links : List Link) : links.length =
    (Identifier.distinct (links.map fun l => edgeBase l.caller l.callee)).length := by
  rw [Identifier.length_distinct, List.length_map]

/-- What an edge has from its link. -/
theorem edgesOf_map {γ : Type} {f : Edge → γ} {g : Link → γ} (h : ∀ l id, f (l.edge id) = g l) :
    (edgesOf known pairs).map f = (linksOf known pairs).map g :=
  map_zipWith_left h _ _ (length_edgeIds _)

/-- An edge is made of a pair, but for its id. -/
theorem mem_edgesOf {e : Edge} (h : e ∈ edgesOf known pairs) :
    ∃ l ∈ linksOf known pairs, e = l.edge e.id := by
  obtain ⟨i, hi, rfl⟩ := List.getElem_of_mem h
  simp only [edgesOf, List.getElem_zipWith]
  exact ⟨_, List.getElem_mem _, rfl⟩

/-- Every pair of known names has its edge. -/
theorem exists_edge_of_link {l : Link} (h : l ∈ linksOf known pairs) :
    ∃ e ∈ edgesOf known pairs,
      e.source = l.source ∧ e.target = l.target ∧ e.callCount = l.count := by
  have hmap : (edgesOf known pairs).map (fun e => (e.source, e.target, e.callCount)) =
      (linksOf known pairs).map fun l => (l.source, l.target, l.count) :=
    edgesOf_map fun _ _ => rfl
  have hl : (l.source, l.target, l.count) ∈
      (linksOf known pairs).map fun l => (l.source, l.target, l.count) :=
    List.mem_map_of_mem h
  rw [← hmap] at hl
  obtain ⟨e, he, heq⟩ := List.mem_map.mp hl
  simp only [Prod.mk.injEq] at heq
  exact ⟨e, he, heq⟩

theorem edgesOf_id_nodup : ((edgesOf known pairs).map Edge.id).Nodup := by
  have hids : (edgesOf known pairs).map Edge.id = Identifier.distinct
      ((linksOf known pairs).map fun l => edgeBase l.caller l.callee) := by
    refine (map_zipWith_right (h := id) ?_ _ _ (length_edgeIds _)).trans (List.map_id _)
    exact fun l id => rfl
  rw [hids]
  refine Identifier.distinct_nodup (k := 3) fun base hbase => ?_
  obtain ⟨l, -, rfl⟩ := List.mem_map.mp hbase
  rw [edgeBase, Identifier.dashes_append, Identifier.dashes_append, Identifier.dashes_append,
    Identifier.dashes_ofText, Identifier.dashes_ofText]
  rfl

end Links

/-! ## Graphs -/

section Build

variable [Measure α] (functions : List FunctionInfo) (calls : List CallSite)

/-- The links of a graph: what names stand for is the first node that shows them. -/
theorem mem_build_links_iff {l : Link} :
    l ∈ linksOf (idsByName functions ((nodesOf functions : List (Node α)).map Node.id))
        (countPairs calls) ↔
      (l.caller, l.callee) ∈ calls.map pairOf ∧
      l.count = (calls.map pairOf).count (l.caller, l.callee) ∧
      (named? (nodesOf functions : List (Node α)) l.caller).map Node.id = some l.source ∧
      (named? (nodesOf functions : List (Node α)) l.callee).map Node.id = some l.target := by
  rw [mem_linksOf_iff, mem_countPairs_iff, idsByName_spec, idsByName_spec, and_assoc]

/-- The edges of a graph that is built are made of the pairs that its calls join. -/
theorem mem_build_edges {e : Edge} (h : e ∈ (build functions calls : CallGraph α).edges) :
    ∃ l ∈ linksOf (idsByName functions ((nodesOf functions : List (Node α)).map Node.id))
      (countPairs calls), e = l.edge e.id :=
  mem_edgesOf h

variable {functions calls}

/-- A call between functions that are known is counted in the edge between the first
nodes that show them. -/
theorem exists_edge_of_call {c : CallSite} (hc : c ∈ calls)
    (hcaller : c.caller ∈ functions.map FunctionInfo.name)
    (hcallee : c.callee ∈ functions.map FunctionInfo.name) :
    ∃ e ∈ (build functions calls : CallGraph α).edges, ∃ s t : Node α,
      named? (nodesOf functions) c.caller = some s ∧
      named? (nodesOf functions) c.callee = some t ∧
      e.source = s.id ∧ e.target = t.id ∧
      e.callCount = (calls.map pairOf).count (c.caller, c.callee) := by
  obtain ⟨s, hs⟩ := named?_of_mem (α := α) hcaller
  obtain ⟨t, ht⟩ := named?_of_mem (α := α) hcallee
  have hlink : (⟨c.caller, c.callee, s.id, t.id,
      (calls.map pairOf).count (c.caller, c.callee)⟩ : Link) ∈
        linksOf (idsByName functions ((nodesOf functions : List (Node α)).map Node.id))
          (countPairs calls) :=
    (mem_build_links_iff functions calls).mpr ⟨List.mem_map_of_mem hc, rfl, by rw [hs]; rfl,
      by rw [ht]; rfl⟩
  obtain ⟨e, he, hsource, htarget, hcount⟩ := exists_edge_of_link hlink
  exact ⟨e, he, s, t, hs, ht, hsource, htarget, hcount⟩

/-- If all calls are between functions that are known, every call is counted once. -/
theorem total_callCount (h : ∀ c ∈ calls, c.caller ∈ functions.map FunctionInfo.name ∧
    c.callee ∈ functions.map FunctionInfo.name) :
    Number.total ((build functions calls : CallGraph α).edges.map Edge.callCount) =
      calls.length := by
  have hknown : ∀ p ∈ countPairs calls,
      ((idsByName functions ((nodesOf functions : List (Node α)).map Node.id))[p.1.1]?).isSome ∧
      ((idsByName functions ((nodesOf functions : List (Node α)).map Node.id))[p.1.2]?).isSome := by
    intro p hp
    obtain ⟨c, hc, hpair⟩ := List.mem_map.mp (mem_countPairs_iff.mp hp).1
    obtain ⟨hcaller, hcallee⟩ := h c hc
    obtain ⟨s, hs⟩ := named?_of_mem (α := α) hcaller
    obtain ⟨t, ht⟩ := named?_of_mem (α := α) hcallee
    rw [idsByName_spec, idsByName_spec, ← hpair]
    exact ⟨by rw [pairOf, hs]; rfl, by rw [pairOf, ht]; rfl⟩
  have hedges : (build functions calls : CallGraph α).edges.map Edge.callCount =
      (countPairs calls).map Prod.snd :=
    (edgesOf_map fun _ _ => rfl).trans (linksOf_count hknown)
  rw [hedges, total_countPairs]

end Build

end CallGraph

end CallAtlas
