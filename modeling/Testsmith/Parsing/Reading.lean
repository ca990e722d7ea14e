/-
# Parsing

A parse holds a stack of readings and the best whole tree so far. Reductions are made on all of the
ways down that they match. Readings are weighed against one another by what their errors cost; one
that costs too much more than another is given up, the sooner the further both have come since.

Key definitions: `Parse`, `Parse.reduce`, `Parse.accept`, `Parse.reduceAll`, `Standing.weigh`,
`Parse.isBeaten`.
-/
import Testsmith.Parsing.Stack

namespace Testsmith.Parsing

/-- The state of a parse. -/
structure Parse where
  automaton : Automaton
  stack : Stack
  /-- The best tree of the whole text. -/
  finished : Option Subtree := none
  /-- How many trees of the whole text have been found. -/
  accepted : Nat := 0

/-- How many readings are followed. -/
def maxReadings : Nat := 6

/-- How many more there may be while a reduction is made. -/
def spareReadings : Nat := 4

/-- By how much more than another a reading may cost. -/
def maxCostDifference : Nat := 18 * Cost.skippedTree

namespace Parse

def ofText (a : Automaton) (text : List Char) : Parse := ⟨a, Stack.ofText text, none, 0⟩

def heads (p : Parse) : List Head := p.stack.heads

def state (p : Parse) (v : Nat) : Nat := (p.stack.top v).state

/-- How far a reading has come. -/
def place (p : Parse) (v : Nat) : Nat := (p.stack.top v).position.bytes

/-- The parse after a change of its stack. -/
def onStack (p : Parse) (f : Stack → Stack) : Parse := { p with stack := f p.stack }

/-! ### Weighing readings -/

/-- What counts when readings are compared. -/
structure Standing where
  cost : Nat
  nodes : Nat
  preference : Nat
  inError : Bool

/-- The outcome of a comparison of two readings. -/
inductive Verdict
  /-- The second is given up. -/
  | takeLeft
  | preferLeft
  | none
  | preferRight
  /-- The first is given up. -/
  | takeRight
  deriving DecidableEq

/-- The first costs so much less that the second is hopeless. -/
def Standing.outruns (a b : Standing) : Bool :=
  maxCostDifference < (b.cost - a.cost) * (1 + a.nodes)

/-- Compares two readings. -/
def Standing.weigh (a b : Standing) : Verdict :=
  if !a.inError && b.inError then if a.cost < b.cost then .takeLeft else .preferLeft
  else if a.inError && !b.inError then if b.cost < a.cost then .takeRight else .preferRight
  else if a.cost < b.cost then if a.outruns b then .takeLeft else .preferLeft
  else if b.cost < a.cost then if b.outruns a then .takeRight else .preferRight
  else if b.preference < a.preference then .preferLeft
  else if a.preference < b.preference then .preferRight
  else .none

/-- The standing of a reading whose base count has been lowered. -/
def standing (p : Parse) (v : Nat) : Standing :=
  let stuck := (p.stack.head v).isStuck
  { cost := p.stack.cost v + if stuck then Cost.skippedTree else 0
    nodes := p.stack.nodesSinceError v
    preference := (p.stack.top v).preference
    inError := stuck || p.state v = errorState }

/-- Some other reading that has come as far beats a standing. Base counts are lowered on the way. -/
def beatenBy (p : Parse) (v : Nat) (mine : Standing) : List Nat → Parse × Bool
  | [] => (p, false)
  | w :: ws =>
    if w = v || !(p.stack.head w).isActive || p.place w < p.place v then p.beatenBy v mine ws
    else
      let p := p.onStack (·.lowerBase w)
      match mine.weigh (p.standing w) with
      | .takeRight => (p, true)
      | .preferRight => if p.stack.canJoin w v then (p, true) else p.beatenBy v mine ws
      | _ => p.beatenBy v mine ws

/-- A reading is beaten if it has this cost. -/
def isBeaten (p : Parse) (v : Nat) (inError : Bool) (cost : Nat) : Parse × Bool :=
  if p.finished.any (·.cost ≤ cost) then (p, true)
  else
    let p := p.onStack (·.lowerBase v)
    let mine : Standing := { p.standing v with cost, inError }
    p.beatenBy v mine (List.range p.heads.length)

/-! ### Reductions -/

/-- The best tree of a symbol over the ways to one vertex, and the extra trees after it. -/
def bestOf (p : Parse) (symbol : Symbol) : List (List Subtree) → Subtree × List Subtree
  | [] => (Subtree.build p.automaton symbol [], [])
  | way :: ways =>
    let candidate (way : List Subtree) : Subtree × List Subtree :=
      let (trees, extras) := Subtree.splitExtras way
      (Subtree.build p.automaton symbol trees, extras)
    ways.foldl
      (fun best way =>
        let next := candidate way
        if best.1.isBetter next.1 then next else best)
      (candidate way)

/-- Puts the construct of a reduction on the popped readings, and joins them where that is
possible. `removed` counts the popped readings that are gone. -/
def reducePopped (v construct halted : Nat) : (removed : Nat) → List Stack.Popped → Parse → Parse
  | _, [], p => p
  | removed, x :: xs, p =>
    let w := x.head - removed
    if maxReadings + spareReadings + halted < w then
      reducePopped v construct halted (removed + 1) xs (p.onStack (·.remove w))
    else
      let (tree, extras) := p.bestOf (.construct construct) x.ways
      let next := p.automaton.nextState (p.state w) (.construct construct)
      let tree := tree.prefer (p.automaton.preference construct)
      let p := p.onStack fun s => (s.push w (some tree) next).pushAll w extras next
      match p.stack.joinFirst? w ((List.range w).filter (· ≠ v)) with
      | some s => reducePopped v construct halted (removed + 1) xs { p with stack := s }
      | none => reducePopped v construct halted removed xs p

/-- Makes a reduction on a reading. The results are new readings; the place of the first is given,
if there is one. -/
def reduce (p : Parse) (v : Nat) (r : Reduction) : Parse × Option Nat :=
  let initial := p.heads.length
  let (stack, popped) := p.stack.pop v r.count
  let halted := stack.heads.countP Head.isHalted
  let p := reducePopped v r.construct halted 0 popped { p with stack }
  (p, if initial < p.heads.length then some initial else none)

/-- The reductions that are made in a state, for one token or for any. -/
def reductionsFor (p : Parse) (state : Nat) (token : Option Nat) : List Reduction :=
  let tokens := token.elim p.automaton.properTokens ([·])
  let all := tokens.flatMap fun t => (p.automaton.tokenActions state t).reductions
  (all.filter (0 < ·.count)).foldl
    (fun found r =>
      if found.any fun x => x.construct = r.construct && x.count = r.count then found
      else found ++ [r])
    []

/-- The token, or some token, is taken in the state without a reduction. -/
def canTake (p : Parse) (state : Nat) (token : Option Nat) : Bool :=
  (token.elim p.automaton.properTokens ([·])).any fun t =>
    match p.automaton.move? state t with
    | some (.shift _) | some .recover => true
    | _ => false

/-- Makes all reductions on a reading and on those that come of it, as far as the token, or any,
allows. Gives whether one of them can take the token. `initial` is the number of readings before. -/
def reduceOn (token : Option Nat) (start initial : Nat) :
    (bound round v : Nat) → Bool → Parse → Parse × Bool
  | 0, _, _, can, p => (p, can)
  | bound + 1, round, v, can, p =>
    let count := p.heads.length
    if count ≤ v then (p, can)
    else
      match p.stack.joinFirst? v ((List.range v).drop initial) with
      | some s => reduceOn token start initial bound (round + 1) v can { p with stack := s }
      | none =>
        let state := p.state v
        let takes := p.canTake state token
        let (p, last) := (p.reductionsFor state token).foldl
          (fun (p, _) r => p.reduce v r) (p, none)
        let next := if v = start then count else v + 1
        if takes then reduceOn token start initial bound (round + 1) next true p
        else
          match last with
          | some w =>
            if round < maxReadings then
              reduceOn token start initial bound (round + 1) v can (p.onStack (·.replaceBy v w))
            else if token.isSome then
              reduceOn token start initial bound (round + 1) next can (p.onStack (·.remove v))
            else reduceOn token start initial bound (round + 1) next can p
          | none =>
            if token.isSome then
              reduceOn token start initial bound (round + 1) next can (p.onStack (·.remove v))
            else reduceOn token start initial bound (round + 1) next can p

/-- Makes all reductions on a reading. At the end of the text any token counts. -/
def reduceAll (p : Parse) (v token : Nat) : Parse × Bool :=
  let token := if token = endToken then none else some token
  reduceOn token v p.heads.length (64 * (p.stack.vertices.size + 16)) 0 v false p

/-! ### Whole trees -/

/-- The tree of a whole text: the last tree that is not extra, with all trees around it. -/
def rootOf (a : Automaton) (trees : List Subtree) : Option Subtree :=
  let (after, before) := trees.reverse.span Subtree.isExtra
  match before with
  | [] => none
  | t :: before =>
    some (Subtree.build a t.symbol (before.reverse ++ t.children ++ after.reverse))

/-- The parse with one more tree of the whole text. -/
def finish (p : Parse) (trees : List Subtree) : Parse :=
  let best :=
    match p.finished, rootOf p.automaton trees with
    | some t, some u => some (if t.isBetter u then u else t)
    | none, u => u
    | t, none => t
  { p with finished := best, accepted := p.accepted + 1 }

/-- Ends a reading at the end of the text. -/
def accept (p : Parse) (v : Nat) (lookahead : Subtree) : Parse :=
  let (stack, popped) := (p.stack.push v (some lookahead) firstState).popAll v
  let p := (popped.flatMap (·.ways)).foldl finish { p with stack }
  let p := popped.head?.elim p fun x => p.onStack (·.remove x.head)
  p.onStack (·.setActivity v .halted)

end Parse

end Testsmith.Parsing
