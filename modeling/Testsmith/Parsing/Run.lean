/-
# Parsing a text

The readings advance one after another, each until it has come further than the others, and are
weighed against one another after each round. The best tree counts once no reading can become
better. Every text gets a tree.

Key definitions: `Parse.advance`, `Parse.condense`, `parseText`.
-/
import Testsmith.Parsing.Recovery

namespace Testsmith.Parsing

namespace Parse

/-! ### Advancing -/

/-- The next token of a reading. -/
def readToken (p : Parse) (v : Nat) : Subtree :=
  let x := p.stack.top v
  let admits (keyword : Nat) : Bool := !(p.automaton.tokenActions x.state keyword).isNone
  Subtree.ofLexeme p.automaton
    (p.automaton.lexicon.read (p.automaton.modeOf x.state) admits (x.position.chars = 0) x.rest)

/-- The tree is a keyword. -/
def isKeyword (p : Parse) (t : Subtree) : Bool :=
  p.automaton.lexicon.keywords.any fun k => t.symbol = .token k.2

/-- Takes a token on a reading, after as many reductions as it allows. A keyword that does not fit
is taken for a word if one fits. -/
def take (v : Nat) : (bound : Nat) → Subtree → Parse → Parse
  | 0, _, p => p.onStack (·.setActivity v .halted)
  | bound + 1, lookahead, p =>
    let state := p.state v
    let actions := p.automaton.actions state lookahead.symbol
    let (p, last) := actions.reductions.foldl
      (fun (p, last) r =>
        let (p, first) := p.reduce v r
        (p, first.or last))
      (p, none)
    match actions.move with
    | some (.shift next) => p.onStack (·.push v (some (lookahead.withExtra false)) next)
    | some .keep => p.onStack (·.push v (some (lookahead.withExtra true)) state)
    | some .accept => p.accept v lookahead
    | some .recover => p.recover v lookahead
    | some (.shiftRepeat _) | none =>
      match last with
      | some w => take v bound lookahead (p.onStack (·.replaceBy v w))
      | none =>
        if !actions.reductions.isEmpty then p.onStack (·.setActivity v .halted)
        else
          let word := p.automaton.lexicon.word
          if p.isKeyword lookahead && !(p.automaton.tokenActions state word).isNone then
            take v bound (lookahead.withToken p.automaton word) p
          else if state = errorState then p.recover v lookahead
          else
            p.onStack fun s =>
              s.setHead v { s.head v with
                activity := .stuck lookahead
                baseCount := (s.top v).nodeCount }

/-- Reads one token on a reading. -/
def advance (p : Parse) (v : Nat) : Parse :=
  take v (64 * (p.stack.vertices.size + 16)) (p.readToken v) p

/-- Advances a reading until it has come further than all before it. `furthest` is how far these
have come. -/
def advanceUntil (v : Nat) : (bound furthest : Nat) → Parse → Parse × Nat
  | 0, furthest, p => (p, furthest)
  | bound + 1, furthest, p =>
    if p.heads.length ≤ v || !(p.stack.head v).isActive then (p, furthest)
    else
      let p := p.advance v
      if p.heads.length ≤ v then (p, furthest)
      else
        let place := p.place v
        if furthest < place || (0 < v && place = furthest) then (p, place)
        else advanceUntil v bound furthest p

/-- Advances all readings from `v` on, those included that come up on the way. -/
def advanceAll (length : Nat) : (bound v furthest : Nat) → Parse → Parse × Nat
  | 0, _, furthest, p => (p, furthest)
  | bound + 1, v, furthest, p =>
    if p.heads.length ≤ v then (p, furthest)
    else
      let (p, furthest) := advanceUntil v length furthest p
      advanceAll length bound (v + 1) furthest p

/-! ### Weighing -/

/-- Weighs a reading against those before it, from the one that lies `distance` before it on. Gives
where to go on, and the parse. -/
def settle (mine : Standing) : (distance v : Nat) → Parse → Nat × Parse
  | 0, v, p => (v + 1, p)
  | distance + 1, v, p =>
    let w := v - (distance + 1)
    let p := p.onStack (·.lowerBase w)
    match (p.standing w).weigh mine with
    | .takeLeft => (v, p.onStack (·.remove v))
    | .takeRight => settle mine distance (v - 1) (p.onStack (·.remove w))
    | .preferRight =>
      match p.stack.join? w v with
      | some s => (v, { p with stack := s })
      | none => settle mine distance v (p.onStack (·.swap w v))
    | _ =>
      match p.stack.join? w v with
      | some s => (v, { p with stack := s })
      | none => settle mine distance v p

/-- Weighs all readings from `v` on. Halted ones are dropped. Gives the least cost of one that is in
no error. -/
def settleAll : (bound v : Nat) → (least : Option Nat) → Parse → Option Nat × Parse
  | 0, _, least, p => (least, p)
  | bound + 1, v, least, p =>
    if p.heads.length ≤ v then (least, p)
    else if (p.stack.head v).isHalted then settleAll bound v least (p.onStack (·.remove v))
    else
      let p := p.onStack (·.lowerBase v)
      let mine := p.standing v
      let least :=
        if mine.inError then least else some (least.elim mine.cost (min mine.cost))
      let (next, p) := settle mine v v p
      settleAll bound next least p

/-- Lets the first stuck reading go on with an error, if no reading before it is active, and drops
the others that are stuck. `count` readings are looked at. -/
def wake : (bound v count : Nat) → (awake : Bool) → (least : Option Nat) → Parse →
    Option Nat × Parse
  | 0, _, _, _, least, p => (least, p)
  | bound + 1, v, count, awake, least, p =>
    if count ≤ v then (least, p)
    else
      match (p.stack.head v).activity with
      | .stuck lookahead =>
        if !awake && p.accepted < maxReadings then
          let least := some (p.stack.cost v)
          let p := (p.onStack (·.setActivity v .active)).handleError v lookahead
          wake bound (v + 1) count true least p
        else wake bound v (count - 1) awake least (p.onStack (·.remove v))
      | _ => wake bound (v + 1) count true least p

/-- Gives up the readings that are worse than others. Gives the least cost of one in no error. -/
def condense (p : Parse) : Option Nat × Parse :=
  let n := p.heads.length
  let (least, p) := settleAll (2 * n + 1) 0 none p
  let p := p.onStack (·.truncate maxReadings)
  let count := p.heads.length
  wake (count + 1) 0 count false least p

/-! ### The whole text -/

/-- Goes on until no reading is left or none can become better than the best whole tree. -/
def run (length : Nat) : (bound furthest : Nat) → Parse → Parse
  | 0, _, p => p
  | bound + 1, furthest, p =>
    let (p, furthest) := advanceAll length length 0 furthest p
    let count := p.heads.length
    let (least, p) := p.condense
    let settled := p.finished.any fun t => least.all (t.cost < ·)
    if settled || count = 0 then p else run length bound furthest p

end Parse

/-- The tree of a text. -/
def parseText (a : Automaton) (text : List Char) : Subtree :=
  let bound := 64 * (text.length + 16)
  ((Parse.ofText a text).run bound bound 0).finished.getD (Subtree.build a .error [])

end Testsmith.Parsing
