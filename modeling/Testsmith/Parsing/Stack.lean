/-
# Stacks that branch

Where a grammar leaves two readings open, both are followed. Their stacks share what they have in
common: a stack is a path in a graph, from its top vertex down to the bottom one. Readings that come
to the same state at the same place are joined, and a vertex then has several links down.

Each reading has a head, the top of its stack. Heads are kept in order of preference.

Key definitions: `Vertex`, `Head`, `Stack`, `Stack.push`, `Stack.pop`, `Stack.join?`.
-/
import Testsmith.Parsing.Subtree

namespace Testsmith.Parsing

/-- A way down, and the tree on it. There is none where the reading broke off. -/
structure Link where
  target : Nat
  tree : Option Subtree

instance : Inhabited Link := ⟨⟨0, none⟩⟩

structure Vertex where
  state : Nat
  /-- Where in the text the vertex stands. -/
  position : Extent
  /-- The text from there on. -/
  rest : List Char
  links : List Link
  /-- What the errors below cost. -/
  cost : Nat
  /-- How many nodes there are below. -/
  nodeCount : Nat
  preference : Nat

/-- A vertex that a reading went through, for a return to it after an error. -/
structure Waypoint where
  position : Extent
  /-- How many trees lie above it. -/
  depth : Nat
  state : Nat
  deriving DecidableEq, Repr

/-- What a reading is doing. -/
inductive Activity
  | active
  /-- The next token does not fit. -/
  | stuck (lookahead : Subtree)
  | halted

/-- The top of the stack of a reading. -/
structure Head where
  vertex : Nat
  /-- The waypoints recorded at the last error. -/
  waypoints : Option (List Waypoint) := none
  /-- The node count at the last error. -/
  baseCount : Nat := 0
  activity : Activity := .active

structure Stack where
  vertices : Array Vertex
  heads : List Head

instance : Inhabited Vertex := ⟨⟨firstState, {}, [], [], 0, 0, 0⟩⟩

instance : Inhabited Head := ⟨{ vertex := 0 }⟩

namespace Head

def isActive (h : Head) : Bool := h.activity matches .active

def isHalted (h : Head) : Bool := h.activity matches .halted

def isStuck (h : Head) : Bool := h.activity matches .stuck _

end Head

namespace Stack

/-- The stack of one reading that has not begun. -/
def ofText (text : List Char) : Stack :=
  ⟨#[⟨firstState, {}, text, [], 0, 0, 0⟩], [{ vertex := 0 }]⟩

def vertex (s : Stack) (i : Nat) : Vertex := s.vertices.getD i default

def head (s : Stack) (v : Nat) : Head := s.heads.getD v default

/-- The vertex on top of a reading. -/
def top (s : Stack) (v : Nat) : Vertex := s.vertex (s.head v).vertex

def setHead (s : Stack) (v : Nat) (h : Head) : Stack := { s with heads := s.heads.set v h }

def setActivity (s : Stack) (v : Nat) (a : Activity) : Stack :=
  s.setHead v { s.head v with activity := a }

def remove (s : Stack) (v : Nat) : Stack := { s with heads := s.heads.eraseIdx v }

/-- The stack without the heads from a place on. -/
def truncate (s : Stack) (count : Nat) : Stack := { s with heads := s.heads.take count }

/-- A reading takes the place of another. -/
def replaceBy (s : Stack) (old new : Nat) : Stack :=
  if old = new then s
  else
    let h := s.head new
    let h := { h with waypoints := h.waypoints.or (s.head old).waypoints }
    (s.setHead old h).remove new

/-- The stack with a copy of a reading at the end. -/
def duplicate (s : Stack) (v : Nat) : Stack :=
  { s with heads := s.heads ++ [{ s.head v with waypoints := none }] }

/-- Two readings change places. -/
def swap (s : Stack) (v w : Nat) : Stack := (s.setHead v (s.head w)).setHead w (s.head v)

/-! ### Costs of a reading -/

/-- The last thing in the reading is an error that has not ended. -/
def inOpenError (x : Vertex) : Bool :=
  x.state = errorState && x.links.head?.any (·.tree.isNone)

/-- What the errors of a reading cost. -/
def cost (s : Stack) (v : Nat) : Nat :=
  let x := s.top v
  x.cost + if (s.head v).isStuck || inOpenError x then Cost.error else 0

/-- The base of the node count, lowered to the count where that is less. -/
def lowerBase (s : Stack) (v : Nat) : Stack :=
  let h := s.head v
  s.setHead v { h with baseCount := min h.baseCount (s.vertex h.vertex).nodeCount }

/-- How many nodes a reading has gained since its last error. -/
def nodesSinceError (s : Stack) (v : Nat) : Nat :=
  (s.top v).nodeCount - (s.head v).baseCount

/-! ### Pushing -/

/-- The vertex above another one. -/
def vertexAbove (s : Stack) (below : Nat) (tree : Option Subtree) (state : Nat) : Vertex :=
  let x := s.vertex below
  match tree with
  | none => { x with state, links := [⟨below, none⟩] }
  | some t => {
      state
      position := x.position + t.total
      rest := x.rest.drop t.total.chars
      links := [⟨below, some t⟩]
      cost := x.cost + t.cost
      nodeCount := x.nodeCount + t.nodeCount
      preference := x.preference + t.features.preference }

/-- Puts a tree on a reading. Without a tree the reading breaks off. -/
def push (s : Stack) (v : Nat) (tree : Option Subtree) (state : Nat) : Stack :=
  let h := s.head v
  let x := s.vertexAbove h.vertex tree state
  let h := { h with
    vertex := s.vertices.size
    baseCount := if tree.isNone then x.nodeCount else h.baseCount }
  { s with vertices := s.vertices.push x }.setHead v h

/-- Puts trees on a reading, all in one state. -/
def pushAll (s : Stack) (v : Nat) (trees : List Subtree) (state : Nat) : Stack :=
  trees.foldl (fun s t => s.push v (some t) state) s

/-! ### Popping -/

/-- A way down from a head: how far it went, and the trees on it, the lowest first. -/
structure Path where
  vertex : Nat
  trees : List Subtree := []
  /-- How many of them count for the grammar. -/
  depth : Nat := 0

/-- A popped reading, and the trees on each way down to it. -/
structure Popped where
  head : Nat
  ways : List (List Subtree)

/-- What is done at a vertex on the way down. -/
structure Verdict where
  /-- A reading is begun here. -/
  pop : Bool
  stop : Bool

/-- How many ways down are followed at once. -/
def maxPaths : Nat := 64

/-- How many links a vertex may have. -/
def maxLinks : Nat := 8

/-- The path over one more link. -/
def Path.over (p : Path) (l : Link) : Path :=
  match l.tree with
  | some t => ⟨l.target, t :: p.trees, if t.isExtra then p.depth else p.depth + 1⟩
  | none => ⟨l.target, p.trees, p.depth + 1⟩

/-- The stack with a reading begun at the end of a path. Paths that end at one vertex give one
reading. -/
def popAt (s : Stack) (origin : Nat) (popped : List Popped) (p : Path) : Stack × List Popped :=
  match popped.findIdx? fun x => (s.head x.head).vertex = p.vertex with
  | some i => (s, popped.modify i fun x => { x with ways := x.ways ++ [p.trees] })
  | none =>
    let h : Head := { vertex := p.vertex, baseCount := (s.head origin).baseCount }
    ({ s with heads := s.heads ++ [h] }, popped ++ [⟨s.heads.length, [p.trees]⟩])

/-- The state of a search for ways down. -/
structure Search (σ : Type) where
  stack : Stack
  memo : σ
  popped : List Popped

/-- Follows each path over one link. Branches are put behind the paths that were there. -/
def followOnce {σ : Type} (visit : σ → Vertex → Path → σ × Verdict) (origin : Nat) :
    (todo kept added : List Path) → Search σ → List Path × Search σ
  | [], kept, added, r => (kept.reverse ++ added, r)
  | p :: todo, kept, added, r =>
    let x := r.stack.vertex p.vertex
    let (memo, verdict) := visit r.memo x p
    let (stack, popped) :=
      if verdict.pop then r.stack.popAt origin r.popped p else (r.stack, r.popped)
    let r : Search σ := ⟨stack, memo, popped⟩
    match x.links with
    | [] => followOnce visit origin todo kept added r
    | first :: others =>
      if verdict.stop then followOnce visit origin todo kept added r
      else
        let room := maxPaths - (kept.length + 1 + todo.length + added.length)
        let branches := (others.take room).map p.over
        followOnce visit origin todo (p.over first :: kept) (added ++ branches) r

/-- Follows all ways down until each has stopped. -/
def follow {σ : Type} (visit : σ → Vertex → Path → σ × Verdict) (origin : Nat) :
    (bound : Nat) → List Path → Search σ → Search σ
  | 0, _, r => r
  | _, [], r => r
  | bound + 1, paths, r =>
    let (paths, r) := followOnce visit origin paths [] [] r
    follow visit origin bound paths r

/-- Searches the ways down from a head. -/
def search {σ : Type} (s : Stack) (v : Nat) (memo : σ)
    (visit : σ → Vertex → Path → σ × Verdict) : Search σ :=
  follow visit v (s.vertices.size + 1) [{ vertex := (s.head v).vertex }] ⟨s, memo, []⟩

/-- Begins readings at the vertices that lie so many trees below a head. -/
def pop (s : Stack) (v count : Nat) : Stack × List Popped :=
  let r := s.search v () fun _ _ p =>
    ((), if p.depth = count then ⟨true, true⟩ else ⟨false, false⟩)
  (r.stack, r.popped)

/-- Begins a reading at the bottom. -/
def popAll (s : Stack) (v : Nat) : Stack × List Popped :=
  let r := s.search v () fun _ x _ => ((), ⟨x.links.isEmpty, false⟩)
  (r.stack, r.popped)

/-- Takes the tree of an error off a reading that ends with one. -/
def popError (s : Stack) (v : Nat) : Stack × Option Subtree :=
  let isError (t : Option Subtree) : Bool := t.any fun t => t.symbol = .error
  if !(s.top v).links.any (isError ·.tree) then (s, none)
  else
    let r := s.search v false fun found _ p =>
      match p.trees with
      | [] => (found, ⟨false, false⟩)
      | t :: _ =>
        if !found && t.symbol = .error then (true, ⟨true, true⟩) else (found, ⟨false, true⟩)
    match r.popped with
    | [] => (r.stack, none)
    | x :: _ => (r.stack.replaceBy v x.head, x.ways.head?.bind List.head?)

/-- How far below an error a reading may return. -/
def maxDepth : Nat := 16

/-- The waypoint is among the known ones. Those are in order of depth. -/
def isKnown (known : List Waypoint) (depth state : Nat) : Bool :=
  (known.reverse.takeWhile fun w => depth ≤ w.depth).any fun w =>
    w.depth = depth && w.state = state

/-- Records the vertices near the top of a reading. -/
def recordWaypoints (s : Stack) (v : Nat) : Stack :=
  let r := s.search v ([] : List Waypoint) fun known x p =>
    if maxDepth < p.depth then (known, ⟨false, true⟩)
    else if isKnown known p.depth x.state then (known, ⟨false, false⟩)
    else (known ++ [⟨x.position, p.depth, x.state⟩], ⟨false, false⟩)
  s.setHead v { s.head v with waypoints := some r.memo }

/-! ### Joining -/

/-- Nothing tells the vertices apart but what is below them. -/
def alike (x y : Vertex) : Bool :=
  x.state = y.state && x.position.bytes = y.position.bytes && x.cost = y.cost

def preferenceOf (l : Link) : Nat := l.tree.elim 0 (·.features.preference)

def modifyVertex (s : Stack) (i : Nat) (f : Vertex → Vertex) : Stack :=
  { s with vertices := s.vertices.modify i f }

/-- Gives a vertex one more link. One that leads to the same vertex by the same tree is kept once;
if it leads to a vertex of the same state and place, the two are joined further down. -/
def addLink (s : Stack) : (bound vertex : Nat) → Link → Stack
  | 0, _, _ => s
  | bound + 1, i, l =>
    let x := s.vertex i
    let y := s.vertex l.target
    let matching := x.links.findIdx? fun e =>
      Subtree.interchangeable e.tree l.tree &&
        (e.target = l.target || alike (s.vertex e.target) y)
    if l.target = i then s
    else
      match matching.bind fun k => x.links[k]?.map (k, ·) with
      | some (k, e) =>
        if e.target = l.target then
          if preferenceOf e < preferenceOf l then
            s.modifyVertex i fun x => { x with
              links := x.links.set k { e with tree := l.tree }
              preference := y.preference + preferenceOf l }
          else s
        else
          let s := y.links.foldl (fun s below => addLink s bound e.target below) s
          let preference := (s.vertex l.target).preference + preferenceOf l
          s.modifyVertex i fun x => { x with preference := max x.preference preference }
      | none =>
        if x.links.length = maxLinks then s
        else
          s.modifyVertex i fun x => { x with
            links := x.links ++ [l]
            nodeCount := max x.nodeCount (y.nodeCount + l.tree.elim 0 Subtree.nodeCount)
            preference := max x.preference (y.preference + preferenceOf l) }

/-- Both readings are active, and nothing tells them apart but what is below. -/
def canJoin (s : Stack) (v w : Nat) : Bool :=
  (s.head v).isActive && (s.head w).isActive && alike (s.top v) (s.top w)

/-- Joins a reading into another, if nothing tells them apart but what is below. -/
def join? (s : Stack) (v w : Nat) : Option Stack :=
  if !s.canJoin v w then none
  else
    let i := (s.head v).vertex
    let s' := (s.top w).links.foldl (fun s l => addLink s (s.vertices.size + 1) i l) s
    let h := s'.head v
    let x := s'.vertex i
    let h := if x.state = errorState then { h with baseCount := x.nodeCount } else h
    some ((s'.setHead v h).remove w)

/-- Joins a reading into the first of the given ones that it can be joined into. -/
def joinFirst? (s : Stack) (v : Nat) : List Nat → Option Stack
  | [] => none
  | w :: ws =>
    match s.join? w v with
    | some s => some s
    | none => s.joinFirst? v ws

end Stack

end Testsmith.Parsing
