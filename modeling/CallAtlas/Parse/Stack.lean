import CallAtlas.Parse.Subtree

/-!
# The shared stack

The parser follows several readings at once. Their stacks share what they have
in common: a `StackNode` links to the nodes below it, to more than one where
readings have met again. `Stack.heads` are the tops, one for each reading that
is still followed. Nodes are numbered in the order in which they are made.
-/

namespace CallAtlas

/-- A way down from a node. The subtree is missing where an error begins. -/
structure StackLink where
  node : Nat
  subtree : Option Subtree
  deriving Inhabited

/-- A place in the stack. -/
structure StackNode where
  state : Nat
  position : Nat
  /-- Cost, weight and number of visible nodes on the best way down. -/
  cost : Nat
  weight : Int
  count : Nat
  links : Array StackLink
  deriving Inhabited

/-- A state that the parser was in before an error, and how deep it lies. -/
structure Landmark where
  position : Nat
  depth : Nat
  state : Nat
  deriving Inhabited

/-- Whether a reading is followed, given up, or waits with a token it cannot use. -/
inductive HeadStatus where
  | active
  | halted
  | paused (lookahead : Subtree)
  deriving Inhabited

namespace HeadStatus

/-- Whether the reading is followed. -/
def isActive : HeadStatus → Bool
  | .active => true
  | _ => false

/-- Whether the reading waits. -/
def isPaused : HeadStatus → Bool
  | .paused _ => true
  | _ => false

/-- Whether the reading is given up. -/
def isHalted : HeadStatus → Bool
  | .halted => true
  | _ => false

end HeadStatus

/-- One reading. -/
structure StackHead where
  node : Nat
  /-- The node count when the last error began. -/
  countAtError : Nat
  status : HeadStatus
  landmarks : Option (List Landmark)
  deriving Inhabited

/-- A shared stack. -/
structure Stack where
  nodes : Array StackNode
  heads : Array StackHead
  /-- Nodes below this number may be reached from nodes with smaller numbers. -/
  pinned : Nat
  deriving Inhabited

/-- A way down the stack that has been walked. -/
structure StackPath where
  node : Nat
  /-- The subtrees passed, the deepest first. -/
  subtrees : List Subtree
  /-- How many nodes were passed, extras not counted. -/
  count : Nat
  deriving Inhabited

/-- The subtrees popped on one way down and the reading that stays. -/
structure StackSlice where
  subtrees : List Subtree
  head : Nat
  deriving Inhabited

namespace Stack

/-- No node has more links. -/
def maxLinks : Nat := 8

/-- No walk follows more ways at once. -/
def maxPaths : Nat := 64

/-- The head of a reading. -/
def head (s : Stack) (v : Nat) : StackHead := s.heads.getD v default

/-- A node by its number. -/
def node (s : Stack) (n : Nat) : StackNode := s.nodes.getD n default

/-- The top of a reading. -/
def top (s : Stack) (v : Nat) : StackNode := s.node (s.head v).node

/-- The state of a reading. -/
def state (s : Stack) (v : Nat) : Nat := (s.top v).state

/-- The place that a reading has reached. -/
def position (s : Stack) (v : Nat) : Nat := (s.top v).position

/-- Changes the head of a reading. -/
def mapHead (s : Stack) (v : Nat) (f : StackHead → StackHead) : Stack :=
  { s with heads := s.heads.modify v f }

/-- Drops a reading. -/
def remove (s : Stack) (v : Nat) : Stack := { s with heads := s.heads.eraseIdxIfInBounds v }

/-- Exchanges the numbers of two readings. -/
def swap (s : Stack) (v w : Nat) : Stack := { s with heads := s.heads.swapIfInBounds v w }

/-- The stack before any token, with one reading. -/
def start (state : Nat) : Stack :=
  { nodes := #[⟨state, 0, 0, 0, 0, #[]⟩]
    heads := #[⟨0, 0, .active, none⟩], pinned := 0 }

/-- Drops the nodes that the only reading cannot reach. -/
def trim (s : Stack) : Stack :=
  if s.heads.size = 1 then { s with nodes := s.nodes.shrink (max ((s.head 0).node + 1) s.pinned) }
  else s

/-- Puts a subtree and a state on top of a reading. Without a subtree an error begins. -/
def push (s : Stack) (v : Nat) (subtree : Option Subtree) (state : Nat) : Stack :=
  let s := s.trim
  let below := (s.head v).node
  let b := s.node below
  let new : StackNode := match subtree with
    | none => ⟨state, b.position, b.cost, b.weight, b.count, #[⟨below, none⟩]⟩
    | some t =>
      ⟨state, t.info.stop, b.cost + t.cost, b.weight + t.info.weight, b.count + t.nodeCount,
        #[⟨below, some t⟩]⟩
  let number := s.nodes.size
  let s := { s with nodes := s.nodes.push new }
  s.mapHead v fun h =>
    { h with
      node := number
      countAtError := if subtree.isNone then new.count else h.countAtError }

/-! ## Merging -/

/-- The weight of an optional subtree. -/
def linkWeight (subtree : Option Subtree) : Int := (subtree.map (·.info.weight)).getD 0

/-- Adds a link to a node. A link that another can stand for is not kept beside
it: of two to one node the heavier subtree stays, and two to nodes alike make
those nodes one. `fuel` bounds how deep nodes are merged. -/
def addLink : Nat → Stack → Nat → StackLink → Stack
  | 0, s, _, _ => s
  | fuel + 1, s, self, link =>
    if link.node = self then s
    else
      let n := s.node self
      let target := s.node link.node
      let found := n.links.findIdx? fun l =>
        Subtree.interchangeable l.subtree link.subtree &&
          (l.node == link.node ||
            (let x := s.node l.node
             x.state == target.state && x.position == target.position && x.cost == target.cost))
      match found with
      | some k =>
        let l := n.links.getD k default
        if l.node = link.node then
          if linkWeight l.subtree < linkWeight link.subtree then
            { s with nodes := s.nodes.set! self { n with
                links := n.links.set! k { l with subtree := link.subtree }
                weight := target.weight + linkWeight link.subtree } }
          else s
        else
          let s := target.links.foldl (fun s below => addLink fuel s l.node below) s
          let weight := (s.node link.node).weight + linkWeight link.subtree
          { s with nodes := s.nodes.modify self fun n =>
              { n with weight := if n.weight < weight then weight else n.weight } }
      | none =>
        if n.links.size = maxLinks then s
        else
          let count := target.count + (link.subtree.map Subtree.nodeCount).getD 0
          let weight := target.weight + linkWeight link.subtree
          { s with
            nodes := s.nodes.set! self { n with
              links := n.links.push link
              count := max n.count count
              weight := if n.weight < weight then weight else n.weight }
            pinned := if self < link.node then max s.pinned (link.node + 1) else s.pinned }

/-- Whether two readings have come to the same point. -/
def canMerge (s : Stack) (v w : Nat) : Bool :=
  let a := s.top v
  let b := s.top w
  (s.head v).status.isActive && (s.head w).status.isActive &&
    a.state == b.state && a.position == b.position && a.cost == b.cost

/-- Joins the second reading to the first; they have come to the same point. -/
def merge (s : Stack) (v w : Nat) : Stack :=
  let self := (s.head v).node
  let links := (s.top w).links
  let s := links.foldl (fun s link => addLink (s.nodes.size + 1) s self link) s
  let s := if s.state v = Automaton.errorState then
      let count := (s.node self).count
      s.mapHead v fun h => { h with countAtError := count }
    else s
  s.remove w

/-- The first reading from `first` on and before `v`, except `but`, that has come
to the same point as `v`. -/
def mergeTarget? (s : Stack) (v first : Nat) (but : Option Nat) : Option Nat :=
  (List.range v).find? fun j => first ≤ j && some j != but && s.canMerge j v

/-! ## Walking down -/

/-- What to do at a place on the way down. -/
structure Visit where
  /-- Take the subtrees passed so far. -/
  take : Bool
  /-- Do not go further. -/
  stop : Bool

/-- The path one link further down. -/
def StackPath.follow (p : StackPath) (link : StackLink) : StackPath :=
  match link.subtree with
  | none => ⟨link.node, p.subtrees, p.count + 1⟩
  | some t => ⟨link.node, t :: p.subtrees, if t.info.extra then p.count else p.count + 1⟩

/-- One round of a walk over the paths in order: those that go on, those that
branch off (the last first) and those taken (the last first). `room` is how many
more paths may branch off. -/
def walkRound {σ : Type} (s : Stack) (visit : σ → StackPath → Visit × σ) :
    List StackPath → σ → Nat → List StackPath → List StackPath →
    List StackPath × List StackPath × List StackPath × σ
  | [], st, _, branches, taken => ([], branches, taken, st)
  | p :: rest, st, room, branches, taken =>
    let (v, st) := visit st p
    let taken := if v.take then p :: taken else taken
    let links := (s.node p.node).links.toList
    match v.stop, links with
    | true, _ => walkRound s visit rest st (room + 1) branches taken
    | _, [] => walkRound s visit rest st (room + 1) branches taken
    | false, first :: others =>
      let allowed := others.take room
      let branches := allowed.foldl (fun acc l => StackPath.follow p l :: acc) branches
      let (goOn, branches, taken, st) :=
        walkRound s visit rest st (room - allowed.length) branches taken
      (StackPath.follow p first :: goOn, branches, taken, st)

/-- Rounds of a walk until no path goes on. -/
def walkAll {σ : Type} (s : Stack) (visit : σ → StackPath → Visit × σ) :
    Nat → List StackPath → σ → List StackPath → List StackPath × σ
  | 0, _, st, taken => (taken.reverse, st)
  | _, [], st, taken => (taken.reverse, st)
  | fuel + 1, paths, st, taken =>
    let (goOn, branches, taken, st) :=
      walkRound s visit paths st (maxPaths - paths.length) [] taken
    walkAll s visit fuel (goOn ++ branches.reverse) st taken

/-- Walks down from the top of a reading. Answers the paths taken, in the order in
which they were. -/
def walk {σ : Type} (s : Stack) (v : Nat) (visit : σ → StackPath → Visit × σ) (st : σ) :
    List StackPath × σ :=
  walkAll s visit (s.nodes.size + 1) [⟨(s.head v).node, [], 0⟩] st []

/-! ## Popping -/

/-- Turns a path into a slice: the reading that ends where the path does, a new
one where there is none among the slices. -/
def addSlice (v : Nat) (acc : Stack × List StackSlice) (p : StackPath) : Stack × List StackSlice :=
  let (s, slices) := acc
  -- the slices so far, the last first
  match slices.find? fun x => (s.head x.head).node == p.node with
  | some x =>
    let later := slices.takeWhile fun y => (s.head y.head).node != p.node
    let earlier := slices.drop later.length
    (s, later ++ ⟨p.subtrees, x.head⟩ :: earlier)
  | none =>
    let number := s.heads.size
    let new : StackHead := ⟨p.node, (s.head v).countAtError, .active, none⟩
    ({ s with heads := s.heads.push new }, ⟨p.subtrees, number⟩ :: slices)

/-- The slices of the paths taken on a walk. -/
def slicesOf (s : Stack) (v : Nat) (paths : List StackPath) : Stack × List StackSlice :=
  let (s, slices) := paths.foldl (addSlice v) (s, [])
  (s, slices.reverse)

/-- Pops a number of subtrees, extras not counted. -/
def popCount (s : Stack) (v count : Nat) : Stack × List StackSlice :=
  let (paths, _) := s.walk v (fun (_ : Unit) p =>
    (if p.count = count then ⟨true, true⟩ else ⟨false, false⟩, ())) ()
  s.slicesOf v paths

/-- Pops everything. -/
def popAll (s : Stack) (v : Nat) : Stack × List StackSlice :=
  let (paths, _) := s.walk v (fun (_ : Unit) p =>
    (⟨(s.node p.node).links.isEmpty, false⟩, ())) ()
  s.slicesOf v paths

/-- Puts a reading in the place of another. -/
def renumber (s : Stack) (v w : Nat) : Stack :=
  if v = w then s
  else
    let a := s.head v
    let b := s.head w
    let moved := { a with landmarks := a.landmarks.or b.landmarks }
    { s with heads := (s.heads.set! w moved).eraseIdxIfInBounds v }

/-- Pops the error node on top of a reading, where there is one. -/
def popError (s : Stack) (v : Nat) : Stack × Option Subtree :=
  let isError : Option Subtree → Bool := fun t =>
    match t with
    | some t => t.info.symbol == errorSymbol
    | none => false
  if !(s.top v).links.any fun l => isError l.subtree then (s, none)
  else
    let (paths, _) := s.walk v (fun (found : Bool) p =>
      match p.subtrees with
      | [] => (⟨false, false⟩, found)
      | t :: _ =>
        if !found && t.info.symbol == errorSymbol then (⟨true, true⟩, true)
        else (⟨false, true⟩, found)) false
    let (s, slices) := s.slicesOf v paths
    match slices with
    | [] => (s, none)
    | x :: _ => (s.renumber x.head v, x.subtrees.head?)

/-- Notes the states down to a depth from which the reading may go on. -/
def noteLandmarks (s : Stack) (v depth : Nat) : Stack :=
  let known : List Landmark → Landmark → Bool := fun marks m =>
    (marks.takeWhile fun e => m.depth ≤ e.depth).any fun e =>
      e.depth == m.depth && e.state == m.state
  let (_, marks) := s.walk v (fun (marks : List Landmark) p =>
    let n := s.node p.node
    let m : Landmark := ⟨n.position, p.count, n.state⟩
    if depth < p.count then (⟨false, true⟩, marks)
    else if known marks m then (⟨false, false⟩, marks)
    else (⟨false, false⟩, m :: marks)) []
  s.mapHead v fun h => { h with landmarks := some marks.reverse }

/-- Begins another reading that is the same so far. -/
def copy (s : Stack) (v : Nat) : Stack :=
  { s with heads := s.heads.push { s.head v with landmarks := none } }

/-! ## Weighing readings -/

/-- The cost of a reading, an error that has just begun included. -/
def errorCost (s : Stack) (v : Nat) : Nat :=
  let h := s.head v
  let n := s.node h.node
  let begun := n.state == Automaton.errorState && (match n.links[0]? with
    | some l => l.subtree.isNone
    | none => false)
  n.cost + (if h.status.isPaused || begun then Subtree.recoveryCost else 0)

/-- Notes a count that has fallen below the one at the last error. -/
def settle (s : Stack) (v : Nat) : Stack :=
  let count := (s.top v).count
  s.mapHead v fun h => { h with countAtError := min h.countAtError count }

/-- How many nodes a reading has made since its last error. -/
def countSinceError (s : Stack) (v : Nat) : Nat := (s.top v).count - (s.head v).countAtError

/-- Goes down along first links until something shows whether the reading has
moved on since its last error. -/
def hasAdvanced (s : Stack) (countAtError : Nat) : Nat → Nat → Bool
  | 0, _ => false
  | fuel + 1, n =>
    let x := s.node n
    match x.links[0]? with
    | none => false
    | some link => match link.subtree with
      | none => false
      | some t =>
        if t.info.padding < t.info.stop then true
        else if countAtError < x.count && t.cost = 0 then
          hasAdvanced s countAtError fuel link.node
        else false

/-- Whether a reading has moved on since its last error. -/
def advancedSinceError (s : Stack) (v : Nat) : Bool :=
  let h := s.head v
  (s.node h.node).cost == 0 || s.hasAdvanced h.countAtError (s.nodes.size + 1) h.node

end Stack

end CallAtlas
