import CallAtlas.Proofs.AsyncMarks
import CallAtlas.Proofs.GraphInvariant

/-!
# One edge for each pair of names

Calls are counted by the pair of names that they join, and a pair becomes an edge if both
names are those of functions. So the edges are the different pairs of known names, in the
order of their first calls (`linksOf_names`), each with all that its pair tells
(`build_edges`). Calls with an unknown name leave no trace: without them the graph is the
same (`build_filter`).
-/

namespace CallAtlas

namespace Tables

variable {κ : Type} [BEq κ] [LawfulBEq κ]

/-- Leaving out keys does not change the order in which the others come first. -/
theorem eraseDups_filter (p : κ → Bool) : ∀ ks : List κ,
    (ks.filter p).eraseDups = ks.eraseDups.filter p
  | [] => rfl
  | k :: ks => by
    have ih := eraseDups_filter p (ks.filter fun b => !b == k)
    rw [List.eraseDups_cons]
    cases hk : p k with
    | true =>
      rw [List.filter_cons_of_pos hk, List.filter_cons_of_pos hk, List.eraseDups_cons, ← ih,
        List.filter_comm]
    | false =>
      have hne : ¬p k = true := by rw [hk]; exact Bool.false_ne_true
      rw [List.filter_cons_of_neg hne, List.filter_cons_of_neg hne, ← ih, List.filter_filter]
      -- the keys that stay are none of those that equal `k`
      refine congrArg List.eraseDups (List.filter_congr fun b _ => ?_)
      cases hb : p b with
      | false => rfl
      | true =>
        have hbk : (b == k) = false := beq_false_of_ne fun heq => by
          rw [heq, hk] at hb
          cases hb
        rw [hbk]
        rfl
termination_by ks => ks.length
decreasing_by exact length_without_lt k ks

end Tables

theorem forall₂_zipWith {β γ δ : Type} {R : β → δ → Prop} {f : β → γ → δ} :
    ∀ (bs : List β) (cs : List γ), bs.length = cs.length → (∀ b ∈ bs, ∀ c ∈ cs, R b (f b c)) →
      List.Forall₂ R bs (bs.zipWith f cs) := by
  intro bs
  induction bs with
  | nil => intro cs _ _; exact .nil
  | cons b bs ih =>
    intro cs hlength h
    cases cs with
    | nil => cases hlength
    | cons c cs =>
      refine .cons (h b (List.mem_cons_self ..) c (List.mem_cons_self ..)) ?_
      exact ih cs (Nat.succ.inj hlength) fun b hb c hc =>
        h b (List.mem_cons_of_mem _ hb) c (List.mem_cons_of_mem _ hc)

namespace CallGraph

variable {α : Type}

/-! ## Known pairs -/

/-- Both names of a pair are those of functions. -/
def knows (functions : List FunctionInfo) (p : String × String) : Bool :=
  functions.any (·.name == p.1) && functions.any (·.name == p.2)

/-- The pairs that get an edge: those that calls join and whose names are known, in the
order of their first calls. -/
def joinedPairs (functions : List FunctionInfo) (calls : List CallSite) :
    List (String × String) :=
  (calls.map pairOf).eraseDups.filter (knows functions)

section Links

variable {known : Std.HashMap String String}

/-- A pair becomes a link where the table of ids knows both of its names. -/
theorem linksOf_names (pairs : List ((String × String) × Nat)) :
    (linksOf known pairs).map (fun l => (l.caller, l.callee)) =
      (pairs.map Prod.fst).filter fun p => known[p.1]?.isSome && known[p.2]?.isSome := by
  unfold linksOf
  induction pairs with
  | nil => rfl
  | cons p pairs ih =>
    obtain ⟨⟨caller, callee⟩, count⟩ := p
    rw [List.map_cons, List.filterMap_cons, List.filter_cons, ← ih]
    cases hs : known[caller]? with
    | none => simp only [Link.ofPair?, hs]; rfl
    | some source =>
      cases ht : known[callee]? with
      | none => simp only [Link.ofPair?, hs, ht]; rfl
      | some target => simp only [Link.ofPair?, hs, ht]; rfl

/-- Pairs that are not known are left out either way. -/
theorem linksOf_filter {pairs : List ((String × String) × Nat)} {keep : String × String → Bool}
    (h : ∀ p, known[p.1]?.isSome && known[p.2]?.isSome → keep p = true) :
    linksOf known (pairs.filter fun p => keep p.1) = linksOf known pairs := by
  unfold linksOf
  rw [List.filterMap_filter]
  refine List.filterMap_congr fun p _ => ?_
  split
  · rfl
  · next hkeep =>
    symm
    refine Option.eq_none_iff_forall_ne_some.mpr fun l hl => hkeep (h _ ?_)
    obtain ⟨rfl, hs, ht⟩ := ofPair?_eq_some_iff.mp hl
    rw [hs, ht]
    rfl

end Links

section Build

variable [Measure α] (functions : List FunctionInfo) (calls : List CallSite)

/-- The table of ids knows the names of the functions, and no other name. -/
theorem isSome_idsByName (name : String) :
    ((idsByName functions ((nodesOf functions : List (Node α)).map Node.id))[name]?).isSome =
      functions.any (·.name == name) := by
  have hany : functions.any (·.name == name) =
      (nodesOf functions : List (Node α)).any (·.label == name) := by
    conv_lhs => rw [← nodesOf_function (α := α) functions, List.any_map]
    rfl
  rw [idsByName_spec, Option.isSome_map, named?, hany, Bool.eq_iff_iff, List.find?_isSome,
    List.any_eq_true]

/-- The pairs of the edges. -/
theorem build_links_names :
    (linksOf (idsByName functions ((nodesOf functions : List (Node α)).map Node.id))
      (countPairs calls)).map (fun l => (l.caller, l.callee)) = joinedPairs functions calls := by
  rw [linksOf_names, countPairs_spec, List.map_map]
  unfold joinedPairs knows
  simp only [isSome_idsByName]
  exact congrArg _ (List.map_id _)

/-- What is counted of the calls that are kept is what was counted of them before. -/
theorem countPairs_filter (keep : String × String → Bool) :
    countPairs (calls.filter fun c => keep (pairOf c)) =
      (countPairs calls).filter fun p => keep p.1 := by
  have hmap : (calls.filter fun c => keep (pairOf c)).map pairOf =
      (calls.map pairOf).filter keep := List.filter_map.symm
  rw [countPairs_spec, countPairs_spec, hmap, Tables.eraseDups_filter,
    List.filter_map (l := (calls.map pairOf).eraseDups)]
  refine List.map_congr_left fun p hp => ?_
  rw [List.count_filter (List.mem_filter.mp hp).2]

/-- **Calls with an unknown name contribute nothing.** -/
theorem build_filter :
    (build functions (calls.filter fun c => knows functions (pairOf c)) : CallGraph α) =
      build functions calls := by
  have hknown : ∀ p : String × String,
      ((idsByName functions ((nodesOf functions : List (Node α)).map Node.id))[p.1]?.isSome &&
        (idsByName functions ((nodesOf functions : List (Node α)).map Node.id))[p.2]?.isSome) →
      knows functions p = true := by
    intro p hp
    rwa [isSome_idsByName, isSome_idsByName] at hp
  unfold build edgesOf
  dsimp only
  rw [countPairs_filter, linksOf_filter hknown]

/-! ## Nodes and edges -/

/-- A node has all that is told of a function. -/
structure Shows (f : FunctionInfo) (n : Node α) : Prop where
  function : n.function = f
  role : n.role = f.role
  complexity : n.complexity = f.complexity
  category : n.category = f.category
  interactive : n.interactive = true

/-- An edge stands for all calls that join a pair of names. -/
structure Gathers (nodes : List (Node α)) (calls : List CallSite) (p : String × String)
    (e : Edge) : Prop where
  /-- It begins at the first node that shows the caller. -/
  source : (nodes.find? (·.label == p.1)).map Node.id = some e.source
  target : (nodes.find? (·.label == p.2)).map Node.id = some e.target
  count : e.callCount = calls.countP fun c => c.caller == p.1 && c.callee == p.2
  /-- It moves if the callee, in small letters, holds a mark of asynchronous functions. -/
  animated : e.animated = true ↔
    ∃ mark ∈ asyncMarks, mark.toList <:+: (Case.toSmall p.2).toList

/-- Nodes and functions correspond one by one. -/
theorem nodesOf_shows : List.Forall₂ Shows functions (nodesOf functions : List (Node α)) :=
  forall₂_zipWith _ _ (length_nodeIds functions) fun _ _ _ _ => ⟨rfl, rfl, rfl, rfl, rfl⟩

/-- Edges and the different pairs of known names correspond one by one. -/
theorem build_edges :
    List.Forall₂ (Gathers (nodesOf functions : List (Node α)) calls)
      (joinedPairs functions calls) (build functions calls : CallGraph α).edges := by
  rw [← build_links_names (α := α) functions calls, List.forall₂_map_left_iff]
  refine forall₂_zipWith _ _ (length_edgeIds _) fun l hl id _ => ?_
  obtain ⟨-, hcount, hsource, htarget⟩ := (mem_build_links_iff functions calls).mp hl
  refine ⟨hsource, htarget, ?_, namesAsync_iff l.callee⟩
  rw [Link.edge, hcount, List.count, List.countP_map]
  rfl

/-- **The graph of some functions and calls.** It has one node for each function, in order,
with all that is told of it. It has one edge for each pair of names that calls join and
that are both names of functions, in the order of the first calls: between the first nodes
with just these names, with the number of these calls. No two nodes have one id and no two
edges join the same nodes, so names that only look alike as parts of ids stay apart. And
the calls with an unknown name could as well not be there. -/
theorem build_gathers :
    let g : CallGraph α := build functions calls
    List.Forall₂ Shows functions g.nodes ∧ (g.nodes.map Node.id).Nodup ∧
    List.Forall₂ (Gathers g.nodes calls)
      ((calls.map pairOf).eraseDups.filter (knows functions)) g.edges ∧
    (g.edges.map fun e => (e.source, e.target)).Nodup ∧
    build functions (calls.filter fun c => knows functions (pairOf c)) = g :=
  ⟨nodesOf_shows functions, nodesOf_id_nodup functions, build_edges functions calls,
    build_pairs_nodup functions calls, build_filter functions calls⟩

end Build

end CallGraph

end CallAtlas
