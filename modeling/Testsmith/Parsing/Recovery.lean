/-
# Recovery from errors

Where no reading can take the next token, the most promising one goes on in three ways. A token may
be supplied that the grammar allows there. The reading may return to a vertex below in whose state
the token fits, and what lies above becomes an error. Or the token is passed over, and the next one
is tried in the same way.

Key definitions: `Parse.supply`, `Parse.returnTo`, `Parse.recover`, `Parse.handleError`.
-/
import Testsmith.Parsing.Reading

namespace Testsmith.Parsing.Parse

/-! ### Returning -/

/-- The popped readings that come to the state become readings that go on there, with an error on
top of it. The others halt. -/
def resumeAt (goal : Nat) : (last : Option Nat) → List (Nat × List Subtree) → Parse →
    Parse × Option Nat
  | last, [], p => (p, last)
  | last, (w, trees) :: xs, p =>
    if last = some w then resumeAt goal last xs p
    else if p.state w ≠ goal then
      resumeAt goal last xs (p.onStack (·.setActivity w .halted))
    else
      let (stack, earlier) := p.stack.popError w
      let trees := earlier.elim trees fun e => e.children ++ trees
      let (trees, extras) := Subtree.splitExtras trees
      let stack :=
        if trees.isEmpty then stack
        else
          let error := (Subtree.build p.automaton .error trees).withExtra true
          stack.push w (some error) goal
      resumeAt goal (some w) xs { p with stack := stack.pushAll w extras goal }

/-- Returns to a vertex of the state so many trees below. Says whether there was one. -/
def returnTo (p : Parse) (v depth goal : Nat) : Parse × Bool :=
  let (stack, popped) := p.stack.pop v depth
  let ways := popped.flatMap fun x => x.ways.map (x.head, ·)
  let (p, last) := resumeAt goal none ways { p with stack }
  (p, last.isSome)

/-- One of the first `count` readings has come to the state at this place. -/
def isReached (p : Parse) (count state place : Nat) : Bool :=
  (List.range count).any fun w => p.state w = state && p.place w = place

/-- Returns to the first waypoint where the token fits, as long as that is no worse than what other
readings have. `count` is the number of readings at first. -/
def returnToFirst (v count cost nodes : Nat) (lookahead : Subtree) :
    List Waypoint → Parse → Parse × Bool
  | [], p => (p, false)
  | w :: ws, p =>
    let position := (p.stack.top v).position
    if w.state = errorState || w.position.bytes = position.bytes ||
        p.isReached count w.state position.bytes then
      returnToFirst v count cost nodes lookahead ws p
    else
      let distance : Extent :=
        { bytes := position.bytes - w.position.bytes, lines := position.lines - w.position.lines }
      let (p, beaten) := p.isBeaten v false (cost + w.depth * Cost.skippedTree + Cost.text distance)
      if beaten then (p, false)
      else if (p.automaton.actions w.state lookahead.symbol).isNone then
        returnToFirst v count cost nodes lookahead ws p
      else
        let (p, done) := p.returnTo v (if 0 < nodes then w.depth + 1 else w.depth) w.state
        if done then (p, true) else returnToFirst v count cost nodes lookahead ws p

/-! ### Passing over -/

/-- Drops the readings from a place on that have stopped. -/
def dropStopped (p : Parse) (start : Nat) : Parse :=
  p.onStack fun s =>
    { s with heads := s.heads.take start ++ (s.heads.drop start).filter Head.isActive }

/-- Passes over a token: it joins what has been passed over right before it. -/
def passOver (p : Parse) (v nodes : Nat) (lookahead : Subtree) : Parse :=
  let tree :=
    match (p.automaton.actions firstState lookahead.symbol).move with
    | some .keep => lookahead.withExtra true
    | _ => lookahead
  let skipped := Subtree.build p.automaton .skipped [tree]
  if nodes = 0 then p.onStack (·.push v (some skipped) errorState)
  else
    let (stack, popped) := p.stack.pop v 1
    match popped with
    | [] => { p with stack := stack.push v (some skipped) errorState }
    | x :: others =>
      let stack := if others.isEmpty && x.ways.length = 1 then stack else stack.truncate (x.head + 1)
      let way := x.ways.headD []
      let skipped := Subtree.build p.automaton .skipped (way ++ [skipped])
      { p with stack := (stack.replaceBy v x.head).push v (some skipped) errorState }

/-- Goes on in an error with the next token: returns to an earlier vertex, and passes over the token
as well unless another reading is better. -/
def recover (p : Parse) (v : Nat) (lookahead : Subtree) : Parse :=
  let count := p.heads.length
  let waypoints := ((p.stack.head v).waypoints).getD []
  let p := p.onStack (·.lowerBase v)
  let nodes := p.stack.nodesSinceError v
  let cost := p.stack.cost v
  let (p, returned) :=
    if lookahead.symbol = .error then (p, false)
    else returnToFirst v count cost nodes lookahead waypoints p
  let p := p.dropStopped count
  if returned && maxReadings < p.heads.length then p.onStack (·.setActivity v .halted)
  else if lookahead.symbol = .token endToken then
    let nothing := Subtree.build p.automaton .error []
    (p.onStack (·.push v (some nothing) firstState)).accept v lookahead
  else
    let (p, beaten) := p.isBeaten v false (cost + Cost.skippedTree + Cost.text lookahead.total)
    if beaten then p.onStack (·.setActivity v .halted)
    else p.passOver v nodes lookahead

/-! ### Supplying -/

/-- Supplies the first token after which a reduction allows the lookahead, on a copy of the
reading. -/
def supplyFirst (v : Nat) (lookahead : Nat) : List Nat → Parse → Parse × Bool
  | [], p => (p, false)
  | t :: ts, p =>
    let state := p.state v
    let next := p.automaton.nextState state (.token t)
    if next = errorState || next = state ||
        (p.automaton.tokenActions next lookahead).reductions.isEmpty then
      supplyFirst v lookahead ts p
    else
      let w := p.heads.length
      let missing := Subtree.missing p.automaton t
      let p := p.onStack fun s => (s.duplicate v).push w (some missing) next
      let (p, fits) := p.reduceAll w lookahead
      if fits then (p, true) else supplyFirst v lookahead ts p

/-- Supplies a token where that lets the reading go on. A stray stretch is never reached so. -/
def supply (p : Parse) (v : Nat) (lookahead : Symbol) : Parse × Bool :=
  match lookahead with
  | .token t => supplyFirst v t p.automaton.properTokens p
  | _ => (p, false)

/-- Breaks off the readings. A token is supplied to the first that can take one. -/
def breakOff (lookahead : Symbol) : List Nat → (supplied : Bool) → Parse → Parse
  | [], _, p => p
  | v :: vs, supplied, p =>
    let (p, supplied) := if supplied then (p, true) else p.supply v lookahead
    breakOff lookahead vs supplied (p.onStack (·.push v none errorState))

/-- Joins readings that were broken off into the first, as many as there are. -/
def joinBroken (v w : Nat) : (count : Nat) → Parse → Parse
  | 0, p => p
  | count + 1, p =>
    joinBroken v w count { p with stack := (p.stack.join? v w).getD p.stack }

/-- Begins an error at a token that a reading cannot take. All that the reading may be reduced to is
tried. -/
def handleError (p : Parse) (v : Nat) (lookahead : Subtree) : Parse :=
  let before := p.heads.length
  let (p, _) := p.reduceAll v endToken
  let after := p.heads.length
  let p := breakOff lookahead.symbol (v :: (List.range after).drop before) false p
  let p := joinBroken v before (after - before) p
  (p.onStack (·.recordWaypoints v)).recover v lookahead

end Testsmith.Parsing.Parse
