/-
# Automata that parse

The states of a shift-reduce parser as data. In each state the next token says what to do: to shift
it, or to reduce what has been read to a construct, or both, where the grammar leaves it open. There
are about as many states as a grammar needs, and most resemble others; their maps from tokens and
constructs to states are therefore given as revisions of earlier maps.

State 0 is the state after an error, state 1 the first one.

Key definitions: `Symbol`, `Row`, `Revision`, `Automaton`, `Automaton.actions`,
`Automaton.nextState`.
-/
import Testsmith.Parsing.Lexicon

namespace Testsmith.Parsing

/-- What a syntax tree is the tree of. -/
inductive Symbol
  | token (index : Nat)
  | construct (index : Nat)
  /-- Tokens passed over while an error lasts. -/
  | skipped
  /-- Text that fits nowhere. -/
  | error
  deriving DecidableEq, Repr, Inhabited

namespace Symbol

/-- Tokens come before constructs, and these before what is left over. -/
def rank : Symbol → Nat × Nat
  | token i => (0, i)
  | construct i => (1, i)
  | skipped => (2, 0)
  | error => (3, 0)

/-- The order of symbols. -/
def compare (a b : Symbol) : Ordering := compareLex (compareOn (·.1)) (compareOn (·.2)) a.rank b.rank

end Symbol

/-- The last `count` trees make a construct, if the next token is in the set of this index. -/
structure Reduction where
  construct : Nat
  count : Nat
  lookaheads : Nat
  deriving DecidableEq, Repr, Inhabited

/-- A state. -/
structure Row where
  /-- The index of the mode in which the next token is read. -/
  mode : Nat
  /-- The index of the map from tokens to states. -/
  shifts : Nat
  /-- The index of the map from constructs to states. -/
  gotos : Nat
  reductions : List Reduction
  /-- The index of the set of tokens that go on with a repetition. They are shifted only after a
  reduction. -/
  repeats : Nat
  deriving Repr, Inhabited

/-- A map that agrees with an earlier one except at some keys. The target 0 stands for none. -/
structure Revision where
  base : Nat
  changes : List (Nat × Nat)
  deriving Repr, Inhabited

/-- Data in chunks of 64. -/
structure Chunks (α : Type) where
  chunks : Array (Array α)

/-- The datum of an index. -/
def Chunks.get? {α : Type} (c : Chunks α) (i : Nat) : Option α :=
  match c.chunks[i / 64]? with
  | some chunk => chunk[i % 64]?
  | none => none

/-- What a map holds for a key. Map 0 is empty; no map is more than `depth` revisions away from
it. -/
def Chunks.lookup (maps : Chunks Revision) (key : Nat) : (depth map : Nat) → Option Nat
  | 0, _ => none
  | depth + 1, map =>
    if map = 0 then none
    else
      match maps.get? map with
      | none => none
      | some r =>
        match r.changes.lookup key with
        | some 0 => none
        | some target => some target
        | none => maps.lookup key depth r.base

/-- How many revisions a map may be away from the empty one. -/
def revisionDepth : Nat := 16

structure Automaton where
  lexicon : Lexicon
  /-- How many tokens there are. -/
  tokenCount : Nat
  rows : Chunks Row
  shiftMaps : Chunks Revision
  gotoMaps : Chunks Revision
  /-- Sets of tokens, as binary numbers. -/
  tokenSets : Chunks Nat
  /-- The state in which the text may end. -/
  acceptState : Nat
  /-- Tokens that may stand anywhere. -/
  extras : List Nat
  /-- Tokens that are not passed over in an error. -/
  unskippable : List Nat
  /-- Tokens that make no node of a tree. -/
  hiddenTokens : List Nat
  /-- The construct makes no node of a tree. -/
  isHidden : Nat → Bool
  /-- How much a construct is preferred where the grammar leaves two readings open. -/
  preference : Nat → Nat

/-- The state after an error. -/
def errorState : Nat := 0

def firstState : Nat := 1

/-- What is done with a token in a state. -/
inductive Move
  | shift (state : Nat)
  /-- The token goes on with a repetition, and is shifted only after a reduction. -/
  | shiftRepeat (state : Nat)
  /-- The token is kept, and the state stays. -/
  | keep
  | accept
  /-- The token is passed over, or ends the error. -/
  | recover
  deriving DecidableEq, Repr

/-- All that is done with a token in a state: the reductions first, then the move. -/
structure Actions where
  reductions : List Reduction
  move : Option Move
  deriving Repr

/-- Nothing can be done. -/
def Actions.isNone (a : Actions) : Bool := a.reductions.isEmpty && a.move.isNone

namespace Automaton

def row (a : Automaton) (state : Nat) : Row := (a.rows.get? state).getD ⟨0, 0, 0, [], 0⟩

/-- The token is in the set of this index. -/
def inSet (a : Automaton) (set token : Nat) : Bool := ((a.tokenSets.get? set).getD 0).testBit token

/-- The state after a token is shifted. -/
def shift? (a : Automaton) (state token : Nat) : Option Nat :=
  a.shiftMaps.lookup token revisionDepth (a.row state).shifts

/-- The state after a construct. -/
def goto? (a : Automaton) (state construct : Nat) : Option Nat :=
  a.gotoMaps.lookup construct revisionDepth (a.row state).gotos

/-- The move for a token. -/
def move? (a : Automaton) (state token : Nat) : Option Move :=
  if a.extras.contains token then some .keep
  else if state = errorState then
    if a.unskippable.contains token then none else some .recover
  else if token = endToken && state = a.acceptState then some .accept
  else
    (a.shift? state token).map fun next =>
      if a.inSet (a.row state).repeats token then .shiftRepeat next else .shift next

/-- What is done with a token in a state. -/
def tokenActions (a : Automaton) (state token : Nat) : Actions :=
  ⟨(a.row state).reductions.filter fun r => a.inSet r.lookaheads token, a.move? state token⟩

/-- What is done with the next symbol in a state. Only tokens come next. -/
def actions (a : Automaton) (state : Nat) : Symbol → Actions
  | .token t => a.tokenActions state t
  | _ => ⟨[], none⟩

/-- The state after a symbol; the error state if there is none. -/
def nextState (a : Automaton) (state : Nat) : Symbol → Nat
  | .token t =>
    match a.move? state t with
    | some (.shift next) | some (.shiftRepeat next) => next
    | some .keep => state
    | _ => errorState
  | .construct c => (a.goto? state c).getD errorState
  | _ => errorState

/-- Trees of the symbol are nodes of the tree that readers see. -/
def isVisible (a : Automaton) : Symbol → Bool
  | .token t => !a.hiddenTokens.contains t
  | .construct c => !a.isHidden c
  | .skipped => false
  | .error => true

/-- The mode in which the next token is read, none for the loose one. -/
def modeOf (a : Automaton) (state : Nat) : Option Mode :=
  if state = errorState then none else a.lexicon.modes[(a.row state).mode]?

/-- All tokens but the end of the text. -/
def properTokens (a : Automaton) : List Nat := (List.range a.tokenCount).drop 1

end Automaton

end Testsmith.Parsing
