import CallAtlas.Syntax.Cursor

/-!
# Preorder: what a walk meets

`SyntaxTree.visits` lists the places of a tree. It has every place of the tree
(`mem_visits_iff`), each once and in the order of the text (`visits_increasing`, by
the addresses of the places). Structure: everything rests on one equation,
`collect_eq`, which says what a place and its children yield, and on induction from
the children of a place to the place.

The cursor keeps no list of what is to come. `following` computes one from the
siblings that the cursor has kept, and each move of the cursor takes the places it
passes off the front: so the walk meets just the places of `visits`.
-/

namespace CallAtlas

namespace Place

variable {σ β : Type}

/-! ## Children -/

/-- A child of a place has the place right above it. -/
theorem above_of_mem_children {p q : Place} (h : q ∈ p.children) :
    ∃ before, q.above = ⟨p.tree, before⟩ :: p.above := by
  have hgo : ∀ (cs before : List SyntaxTree), q ∈ children.go p before cs →
      ∃ before, q.above = ⟨p.tree, before⟩ :: p.above := by
    intro cs
    induction cs with
    | nil => intro before hq; cases hq
    | cons c rest ih =>
      intro before hq
      rcases List.mem_cons.mp hq with rfl | hq
      · exact ⟨before, rfl⟩
      · exact ih _ hq
  exact hgo _ _ h

/-- Children are smaller, which is what induction over places rests on. -/
theorem nodeCount_of_mem_children {p q : Place} (h : q ∈ p.children) :
    q.tree.nodeCount < p.tree.nodeCount := by
  have hgo : ∀ (cs before : List SyntaxTree), q ∈ children.go p before cs →
      q.tree.nodeCount ≤ SyntaxTree.nodeCountIn cs := by
    intro cs
    induction cs with
    | nil => intro before hq; cases hq
    | cons c rest ih =>
      intro before hq
      rw [SyntaxTree.nodeCountIn]
      rcases List.mem_cons.mp hq with rfl | hq
      · exact Nat.le_add_right _ _
      · exact Nat.le_trans (ih _ hq) (Nat.le_add_left _ _)
  rw [SyntaxTree.nodeCount_eq p.tree]
  exact Nat.lt_succ_of_le (hgo _ _ h)

/-- What holds of a place when it holds of the children holds of every place. -/
theorem childInduction {motive : Place → Prop}
    (step : ∀ p, (∀ q ∈ p.children, motive q) → motive p) (p : Place) : motive p :=
  step p fun q hq =>
    have : q.tree.nodeCount < p.tree.nodeCount := nodeCount_of_mem_children hq
    childInduction step q
termination_by p.tree.nodeCount

/-- The places of the children hold the children. -/
theorem children_map_tree (p : Place) : p.children.map tree = p.tree.children := by
  have hgo : ∀ cs before : List SyntaxTree, (children.go p before cs).map tree = cs := by
    intro cs
    induction cs with
    | nil => intro before; rfl
    | cons c rest ih => intro before; exact congrArg (c :: ·) (ih _)
  exact hgo p.tree.children []

/-- A place in a tree: the root, or a child of a place in the tree. -/
inductive Within (t : SyntaxTree) : Place → Prop
  | root : Within t (root t)
  | child {p q : Place} : Within t p → q ∈ p.children → Within t q

/-- What is above a place in a tree is in the tree. -/
theorem Within.parent {t : SyntaxTree} {q : Place} {c : Crumb} {rest : List Crumb}
    (h : Within t q) (habove : q.above = c :: rest) : Within t ⟨c.parent, rest⟩ := by
  cases h with
  | root => cases habove
  | @child p _ hp hq =>
    obtain ⟨before, hbefore⟩ := above_of_mem_children hq
    rw [hbefore] at habove
    obtain ⟨rfl, rfl⟩ := List.cons.inj habove
    exact hp

/-- The parent of a place in a tree is in the tree. -/
theorem Within.parent? {t : SyntaxTree} {p q : Place} (hp : Within t p)
    (h : p.parent? = some q) : Within t q := by
  obtain ⟨tree, above⟩ := p
  cases above with
  | nil => cases h
  | cons c rest =>
    obtain rfl := Option.some.inj h
    exact hp.parent rfl

/-- The ancestor that satisfies a condition is in the tree and satisfies it. -/
theorem Within.ancestor? {t : SyntaxTree} {p q : Place} {cond : Place → Bool}
    (hp : Within t p) (h : p.ancestor? cond = some q) : Within t q ∧ cond q = true := by
  obtain ⟨tree, above⟩ := p
  induction above generalizing tree with
  | nil => cases h
  | cons c rest ih =>
    have hparent : Within t ⟨c.parent, rest⟩ := hp.parent rfl
    rw [Place.ancestor?, ancestor?.go] at h
    split at h
    · next hcond =>
      obtain rfl := Option.some.inj h
      exact ⟨hparent, hcond⟩
    · exact ih c.parent hparent h

/-! ## What a place and all below it yield -/

/-- What the places at and below a place yield in preorder. -/
def collect (hand : σ → Place → σ) (yield : σ → Place → Option β) (s : σ) (p : Place) :
    List β :=
  p.tree.collect hand yield s p.above

/-- The places at and below a place in preorder. -/
def subtree (p : Place) : List Place := p.collect (fun _ _ => ()) (fun _ q => some q) ()

/-- A place yields first, then its children one after the other, with the value that
the place hands to them. -/
theorem collect_eq (hand : σ → Place → σ) (yield : σ → Place → Option β) (s : σ) (p : Place) :
    p.collect hand yield s =
      (yield (hand s p) p).toList ++ p.children.flatMap (collect hand yield (hand s p)) := by
  have hgo : ∀ (v : σ) (cs before : List SyntaxTree),
      SyntaxTree.collectIn hand yield v p.tree p.above before cs =
        (children.go p before cs).flatMap (collect hand yield v) := by
    intro v cs
    induction cs with
    | nil =>
      intro before
      rw [SyntaxTree.collectIn, children.go, List.flatMap_nil]
    | cons c rest ih =>
      intro before
      rw [SyntaxTree.collectIn, children.go, List.flatMap_cons, ih, collect]
  obtain ⟨⟨i, cs⟩, above⟩ := p
  rw [collect, SyntaxTree.collect, hgo]
  rfl

/-- The recursion of `subtree` over places instead of nodes. -/
theorem subtree_eq (p : Place) : p.subtree = p :: p.children.flatMap subtree := by
  rw [subtree, collect_eq]
  rfl

/-- If what is handed to a place can be read off the place, collecting is picking from
the list of places. -/
theorem collect_eq_filterMap {hand : σ → Place → σ} {yield : σ → Place → Option β}
    (handed : Place → σ) (hhanded : ∀ p, ∀ q ∈ p.children, handed q = hand (handed p) p)
    (p : Place) :
    p.collect hand yield (handed p) =
      p.subtree.filterMap fun q => yield (hand (handed q) q) q := by
  induction p using childInduction with
  | step p ih =>
    have hchildren : p.children.map (collect hand yield (hand (handed p) p)) =
        p.children.map fun q => q.subtree.filterMap fun q => yield (hand (handed q) q) q :=
      List.map_congr_left fun q hq => by rw [← ih q hq, hhanded p q hq]
    rw [collect_eq, List.flatMap_def, hchildren, ← List.flatMap_def, subtree_eq,
      List.filterMap_cons, List.filterMap_flatMap]
    cases yield (hand (handed p) p) p <;> rfl

/-! ## Every place, once and in order -/

theorem self_mem_subtree (p : Place) : p ∈ p.subtree := by
  rw [subtree_eq]
  exact List.mem_cons_self ..

/-- Places below a place are closed under children. -/
theorem children_mem_subtree {r p q : Place} (hp : p ∈ r.subtree) (hq : q ∈ p.children) :
    q ∈ r.subtree := by
  induction r using childInduction with
  | step r ih =>
    rw [subtree_eq] at hp ⊢
    refine List.mem_cons_of_mem _ (List.mem_flatMap.mpr ?_)
    rcases List.mem_cons.mp hp with rfl | hp
    · exact ⟨q, hq, self_mem_subtree q⟩
    · obtain ⟨c, hc, hpc⟩ := List.mem_flatMap.mp hp
      exact ⟨c, hc, ih c hc hpc⟩

/-- What is below a place that is below another one is below that one too. -/
theorem subtree_subset {p q : Place} (h : q ∈ p.subtree) : q.subtree ⊆ p.subtree := by
  induction q using childInduction with
  | step q ih =>
    intro r hr
    rw [subtree_eq] at hr
    rcases List.mem_cons.mp hr with rfl | hr
    · exact h
    · obtain ⟨c, hc, hrc⟩ := List.mem_flatMap.mp hr
      exact ih c hc (children_mem_subtree h hc) hrc

/-- What is below a place of a tree is in the tree. -/
theorem Within.of_mem_subtree {t : SyntaxTree} {r p : Place} (hr : Within t r)
    (hp : p ∈ r.subtree) : Within t p := by
  induction r using childInduction with
  | step r ih =>
    rw [subtree_eq] at hp
    rcases List.mem_cons.mp hp with rfl | hp
    · exact hr
    · obtain ⟨c, hc, hpc⟩ := List.mem_flatMap.mp hp
      exact ih c hc (hr.child hc) hpc

/-- The address of a place: on the way from the root, how many siblings stand before
each node. -/
def address (p : Place) : List Nat := (p.above.map fun c => c.before.length).reverse

/-- The children of a place are numbered in their order. -/
theorem children_addresses (p : Place) :
    ∀ (cs before : List SyntaxTree), (children.go p before cs).Pairwise
      (fun a b => ∃ i j, i < j ∧ a.address = p.address ++ [i] ∧ b.address = p.address ++ [j]) ∧
      ∀ q ∈ children.go p before cs, ∃ i, before.length ≤ i ∧ q.address = p.address ++ [i] := by
  intro cs
  induction cs with
  | nil => intro before; exact ⟨List.Pairwise.nil, fun q hq => nomatch hq⟩
  | cons c rest ih =>
    intro before
    obtain ⟨hrest, hindex⟩ := ih (c :: before)
    have hfirst : (⟨c, ⟨p.tree, before⟩ :: p.above⟩ : Place).address =
        p.address ++ [before.length] := by
      simp [address]
    refine ⟨List.pairwise_cons.mpr ⟨fun q hq => ?_, hrest⟩, fun q hq => ?_⟩
    · obtain ⟨j, hj, hq⟩ := hindex q hq
      exact ⟨before.length, j, hj, hfirst, hq⟩
    · rcases List.mem_cons.mp hq with rfl | hq
      · exact ⟨before.length, Nat.le_refl _, hfirst⟩
      · obtain ⟨j, hj, hq⟩ := hindex q hq
        exact ⟨j, Nat.le_of_succ_le hj, hq⟩

/-- The address of a place begins with that of each place above it. -/
theorem address_of_mem_subtree {p q : Place} (h : q ∈ p.subtree) :
    ∃ rest, q.address = p.address ++ rest := by
  induction p using childInduction with
  | step p ih =>
    rw [subtree_eq] at h
    rcases List.mem_cons.mp h with rfl | h
    · exact ⟨[], (List.append_nil _).symm⟩
    · obtain ⟨c, hc, hqc⟩ := List.mem_flatMap.mp h
      obtain ⟨rest, hrest⟩ := ih c hc hqc
      obtain ⟨i, -, hi⟩ := (children_addresses p p.tree.children []).2 c hc
      exact ⟨i :: rest, by rw [hrest, hi, List.append_assoc]; rfl⟩

/-- A shorter way comes before all that goes on from it. -/
theorem lt_append_cons (base : List Nat) (i : Nat) (rest : List Nat) :
    base < base ++ i :: rest := by
  induction base with
  | nil => exact List.Lex.nil
  | cons b base ih => exact List.Lex.cons ih

/-- Two ways that part come in the order of the numbers with which they part. -/
theorem append_lt_append (base : List Nat) {i j : Nat} (h : i < j) (xs ys : List Nat) :
    base ++ i :: xs < base ++ j :: ys := by
  induction base with
  | nil => exact List.Lex.rel h
  | cons b base ih => exact List.Lex.cons ih

/-- Preorder is the order of the addresses. -/
theorem subtree_increasing (p : Place) :
    p.subtree.Pairwise fun a b => a.address < b.address := by
  induction p using childInduction with
  | step p ih =>
    obtain ⟨hpairs, hindex⟩ := children_addresses p p.tree.children []
    rw [subtree_eq, List.pairwise_cons, List.pairwise_flatMap]
    refine ⟨fun q hq => ?_, ih, hpairs.imp fun {a b} hab x hx y hy => ?_⟩
    · obtain ⟨c, hc, hqc⟩ := List.mem_flatMap.mp hq
      obtain ⟨i, -, hi⟩ := hindex c hc
      obtain ⟨rest, hrest⟩ := address_of_mem_subtree hqc
      rw [hrest, hi, List.append_assoc]
      exact lt_append_cons _ _ _
    · -- the subtrees of two children lie wholly one after the other
      obtain ⟨i, j, hij, ha, hb⟩ := hab
      obtain ⟨xs, hx⟩ := address_of_mem_subtree hx
      obtain ⟨ys, hy⟩ := address_of_mem_subtree hy
      rw [hx, hy, ha, hb, List.append_assoc, List.append_assoc]
      exact append_lt_append _ hij _ _

end Place

namespace SyntaxTree

theorem visits_eq_subtree (t : SyntaxTree) : t.visits = (Place.root t).subtree := rfl

/-- A walk meets every place of the tree and no other. -/
theorem mem_visits_iff {t : SyntaxTree} {p : Place} : p ∈ t.visits ↔ Place.Within t p := by
  rw [visits_eq_subtree]
  constructor
  · exact Place.Within.root.of_mem_subtree
  · intro h
    induction h with
    | root => exact Place.self_mem_subtree _
    | child _ hq ih => exact Place.children_mem_subtree ih hq

/-- A walk meets the places in the order of the text, and so none twice. -/
theorem visits_increasing (t : SyntaxTree) :
    t.visits.Pairwise fun a b => a.address < b.address := by
  rw [visits_eq_subtree]
  exact Place.subtree_increasing _

/-- The place with a number in preorder, the root where there is none. -/
def placeAt (t : SyntaxTree) (i : Nat) : Place := (t.visits[i]?).getD (.root t)

theorem placeAt_mem (t : SyntaxTree) (i : Nat) : t.placeAt i ∈ t.visits := by
  rw [placeAt]
  cases hplace : t.visits[i]? with
  | none => exact mem_visits_iff.mpr .root
  | some p => exact List.mem_of_getElem? hplace

theorem note_toList {β : Type} (found : Array β) (b : Option β) :
    (note found b).toList = found.toList ++ b.toList := by
  cases b with
  | none => exact (List.append_nil _).symm
  | some b => exact Array.toList_push

/-! ## Nodes without their places -/

mutual

/-- A node and all below it in preorder. -/
def nodes : SyntaxTree → List SyntaxTree
  | node i cs => node i cs :: nodesIn cs

/-- Some nodes and all below them in preorder. -/
def nodesIn : List SyntaxTree → List SyntaxTree
  | [] => []
  | c :: rest => nodes c ++ nodesIn rest

end

theorem nodes_eq (i : NodeInfo) (cs : List SyntaxTree) :
    nodes (node i cs) = node i cs :: nodesIn cs := rfl

/-- What `nodesIn` lists are the nodes of each tree in turn. -/
theorem nodesIn_eq_flatMap (cs : List SyntaxTree) : nodesIn cs = cs.flatMap nodes := by
  induction cs with
  | nil => rfl
  | cons c rest ih => rw [nodesIn, ih, List.flatMap_cons]

theorem self_mem_nodes (t : SyntaxTree) : t ∈ t.nodes := by
  obtain ⟨i, cs⟩ := t
  exact List.mem_cons_self ..

/-- The nodes below a child are among those below its parent. -/
theorem nodes_subset {t c : SyntaxTree} (hc : c ∈ t.children) : c.nodes ⊆ t.nodes := by
  obtain ⟨i, cs⟩ := t
  rw [nodes_eq, nodesIn_eq_flatMap]
  exact fun n hn => List.mem_cons_of_mem _ (List.mem_flatMap.mpr ⟨c, hc, hn⟩)

/-- The nodes at and below a place are those of the places there. -/
theorem subtree_map_tree (p : Place) : p.subtree.map Place.tree = p.tree.nodes := by
  induction p using Place.childInduction with
  | step p ih =>
    have hbelow : p.children.flatMap (fun q => q.subtree.map Place.tree) =
        (p.children.map Place.tree).flatMap nodes := by
      rw [List.flatMap_map, List.flatMap_def, List.flatMap_def, List.map_congr_left ih]
    rw [Place.subtree_eq, List.map_cons, List.map_flatMap, hbelow, Place.children_map_tree]
    obtain ⟨⟨i, cs⟩, above⟩ := p
    rw [nodes, nodesIn_eq_flatMap]
    rfl

/-- The nodes of a tree are those of its places. -/
theorem nodes_eq_map_visits (t : SyntaxTree) : t.nodes = t.visits.map Place.tree :=
  (subtree_map_tree (.root t)).symm

/-- The nodes of a tree are those that stand at its places. -/
theorem mem_nodes_iff {t n : SyntaxTree} : n ∈ t.nodes ↔ ∃ p, Place.Within t p ∧ p.tree = n := by
  rw [nodes_eq_map_visits, List.mem_map]
  exact exists_congr fun p => and_congr_left' mem_visits_iff

/-- The nodes below a node of a tree are among those of the tree. -/
theorem nodes_subset_of_mem {t n : SyntaxTree} (hn : n ∈ t.nodes) : n.nodes ⊆ t.nodes := by
  rw [nodes_eq_map_visits, List.mem_map] at hn
  obtain ⟨p, hp, rfl⟩ := hn
  rw [visits_eq_subtree] at hp
  rw [← subtree_map_tree, nodes_eq_map_visits, visits_eq_subtree]
  exact List.map_subset Place.tree (Place.subtree_subset hp)

theorem mem_nodes_of_child {t c : SyntaxTree} {p : Place} (hp : Place.Within t p)
    (hc : c ∈ p.tree.children) : c ∈ t.nodes := by
  rw [← p.children_map_tree] at hc
  obtain ⟨q, hq, rfl⟩ := List.mem_map.mp hc
  exact mem_nodes_iff.mpr ⟨q, hp.child hq, rfl⟩

/-! ## Nodes of a text of one line -/

/-- A named node of a text of one line. -/
def onLine (kind : String) (field : Option String) (start stop : Nat)
    (children : List SyntaxTree) : SyntaxTree :=
  node ⟨kind, true, field, false, false, false, start, stop, ⟨0, start⟩, ⟨0, stop⟩⟩ children

/-- A fixed text in a text of one line. -/
def fixed (text : String) (start stop : Nat) : SyntaxTree :=
  node ⟨text, false, none, false, false, false, start, stop, ⟨0, start⟩, ⟨0, stop⟩⟩ []

/-- Text that fits nowhere in a text of one line, flagged if there is something in it. -/
def errorOnLine (start stop : Nat) (children : List SyntaxTree) : SyntaxTree :=
  node ⟨"ERROR", true, none, true, false, !children.isEmpty, start, stop, ⟨0, start⟩, ⟨0, stop⟩⟩
    children

/-- A missing fixed text in a text of one line. -/
def missingOnLine (text : String) (start : Nat) : SyntaxTree :=
  node ⟨text, false, none, false, true, true, start, start, ⟨0, start⟩, ⟨0, start⟩⟩ []

/-- The same node, flagged as one with a fault in it. -/
def flagged : SyntaxTree → SyntaxTree
  | node i cs => node { i with hasError := true } cs

end SyntaxTree

namespace Cursor

variable {β : Type}

/-- The places after a node and all below it, from the way up and the siblings behind. -/
def followingFrom (t : SyntaxTree) : List Crumb → List (List SyntaxTree) → List Place
  | crumb :: above, rest :: after =>
    (Place.children.go ⟨crumb.parent, above⟩ (t :: crumb.before) rest).flatMap Place.subtree ++
      followingFrom crumb.parent above after
  | _, _ => []

/-- The places after the node of a cursor and all below it. -/
def following (c : Cursor) : List Place := followingFrom c.place.tree c.place.above c.after

/-- The next sibling and all below it are the first that follow. -/
theorem following_nextSibling? {c d : Cursor} (h : c.nextSibling? = some d) :
    c.following = d.place.subtree ++ d.following := by
  unfold nextSibling? at h
  split at h
  · next crumb above t rest after habove hafter =>
    rw [← Option.some.inj h, following, following, habove, hafter, followingFrom, followingFrom,
      Place.children.go, List.flatMap_cons, List.append_assoc]
  · cases h

/-- After the last sibling the same places follow as after the parent. -/
theorem following_parent? {c p : Cursor} (hnext : c.nextSibling? = none)
    (h : c.parent? = some p) : c.following = p.following := by
  unfold parent? at h
  split at h
  · next crumb above rest after habove hafter =>
    cases rest with
    | nil =>
      rw [← Option.some.inj h, following, habove, hafter]
      rfl
    | cons t rest => simp [nextSibling?, habove, hafter] at hnext
  · cases h

theorem following_of_parent?_none {c : Cursor} (h : c.parent? = none) : c.following = [] := by
  unfold parent? at h
  split at h
  · cases h
  · next hnot =>
    unfold following followingFrom
    split
    · next hafter habove => exact absurd habove (hnot _ _ _ _ hafter)
    · rfl

/-- Leaving a node goes to the first place that follows, or there is none. -/
theorem following_leave (c : Cursor) :
    c.following = match c.leave with
      | some d => d.place.subtree ++ d.following
      | none => [] := by
  fun_induction leave c with
  | case1 c d hnext => exact following_nextSibling? hnext
  | case2 c hnext p hparent ih => rw [following_parent? hnext hparent, ih]
  | case3 c hnext hparent => exact following_of_parent?_none hparent

/-- Going on takes the place of the cursor off what is to come. -/
theorem advance_spec (c : Cursor) :
    c.place.subtree ++ c.following = c.place :: match c.advance with
      | some d => d.place.subtree ++ d.following
      | none => [] := by
  rw [Place.subtree_eq, List.cons_append]
  refine congrArg (c.place :: ·) ?_
  rw [advance]
  cases hchildren : c.place.tree.children with
  | nil =>
    have hchild : c.firstChild? = none := by rw [firstChild?, hchildren]
    rw [hchild, Place.children, hchildren, Place.children.go, List.flatMap_nil, List.nil_append]
    exact following_leave c
  | cons t rest =>
    have hchild : c.firstChild? =
        some ⟨⟨t, ⟨c.place.tree, []⟩ :: c.place.above⟩, rest :: c.after⟩ := by
      rw [firstChild?, hchildren]
    rw [hchild, Place.children, hchildren, Place.children.go, List.flatMap_cons,
      List.append_assoc]
    rfl

/-- The run of the walk: it adds what the places from the cursor on yield. -/
theorem walkOn_spec (yield : Place → Option β) (c : Cursor) (found : Array β) :
    (walkOn yield c found).toList =
      found.toList ++ (c.place.subtree ++ c.following).filterMap yield := by
  fun_induction walkOn yield c found with
  | case1 c found now d hd ih =>
    rw [ih, advance_spec c, hd, List.filterMap_cons, SyntaxTree.note_toList]
    cases yield c.place <;> simp
  | case2 c found now hd =>
    rw [advance_spec c, hd, List.filterMap_cons, SyntaxTree.note_toList]
    cases yield c.place <;> rfl

/-- A walk with a cursor meets the places of the tree in preorder. -/
theorem walk_eq (yield : Place → Option β) (t : SyntaxTree) :
    (walk yield t).toList = t.visits.filterMap yield := by
  rw [walk, walkOn_spec, SyntaxTree.visits_eq_subtree]
  simp [ofRoot, following, followingFrom, Place.root]

end Cursor

end CallAtlas
