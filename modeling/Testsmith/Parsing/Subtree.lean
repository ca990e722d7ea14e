/-
# Trees under construction

A parser builds trees whose nodes carry what the parser has to compare: how much text a tree covers,
what the errors in it cost, and how much it is preferred. An error costs by what it passes over:
tokens, characters and lines.

Key definitions: `Features`, `Subtree`, `Subtree.build`, `Subtree.isBetter`, `Cost`.
-/
import Testsmith.Parsing.Automaton
import Testsmith.Parsing.Extent

namespace Testsmith.Parsing

/-! ### What errors cost -/

namespace Cost

/-- A stretch of passed over text. -/
def error : Nat := 500

/-- A token or construct in it. -/
def skippedTree : Nat := 100

def skippedByte : Nat := 1

def skippedLine : Nat := 30

/-- A token that is supplied. -/
def missing : Nat := error + 110

/-- Text passed over. -/
def text (e : Extent) : Nat := skippedByte * e.bytes + skippedLine * e.lines

end Cost

/-! ### Trees -/

/-- What is known of a tree without looking into it. -/
structure Features where
  symbol : Symbol
  /-- The blanks before its first token. -/
  lead : Extent
  /-- The text from its first token to its last. -/
  size : Extent
  /-- The tree is a node that readers see. -/
  visible : Bool
  /-- The tree stands where the grammar does not expect it, as comments do. -/
  extra : Bool := false
  /-- What the errors in it cost. -/
  cost : Nat := 0
  preference : Nat := 0
  /-- How many visible trees are below it. -/
  visibleCount : Nat := 0
  /-- How many visible trees are below it with only hidden ones between. -/
  visibleChildren : Nat := 0
  deriving Repr, Inhabited

inductive Subtree where
  | leaf (features : Features) (lead text : List Char)
  | node (features : Features) (children : List Subtree)
  deriving Repr, Inhabited

namespace Subtree

def features : Subtree → Features
  | leaf f _ _ => f
  | node f _ => f

def children : Subtree → List Subtree
  | leaf .. => []
  | node _ children => children

def symbol (t : Subtree) : Symbol := t.features.symbol

def cost (t : Subtree) : Nat := t.features.cost

def isExtra (t : Subtree) : Bool := t.features.extra

/-- The blanks before the tree and its text. -/
def total (t : Subtree) : Extent := t.features.lead + t.features.size

/-- The tree, expected or not. -/
def withExtra (extra : Bool) : Subtree → Subtree
  | leaf f lead text => leaf { f with extra } lead text
  | node f children => node { f with extra } children

/-- The tree with a symbol of another token. -/
def withToken (a : Automaton) (token : Nat) : Subtree → Subtree
  | leaf f lead text =>
    leaf { f with symbol := .token token, visible := a.isVisible (.token token) } lead text
  | node f children => node f children

/-- How many nodes the tree stands for. -/
def nodeCount (t : Subtree) : Nat :=
  t.features.visibleCount + (if t.features.visible then 1 else 0) +
    if t.symbol = .skipped then 1 else 0

/-- The tree of a token that has been read. -/
def ofLexeme (a : Automaton) (x : Lexeme) : Subtree :=
  let symbol := x.token.elim .error .token
  leaf {
    symbol
    lead := .ofList x.lead
    size := .ofList x.text
    visible := a.isVisible symbol
    extra := x.token = some endToken } x.lead x.text

/-- The tree of a token that is supplied. -/
def missing (a : Automaton) (token : Nat) : Subtree :=
  leaf {
    symbol := .token token
    lead := {}
    size := {}
    visible := a.isVisible (.token token)
    cost := Cost.missing } [] []

/-- What a tree costs by being passed over, beside its text. -/
def skipCost (t : Subtree) : Nat :=
  let f := t.features
  if f.extra || (f.symbol = .error && t.children.isEmpty) then 0
  else if f.visible then Cost.skippedTree
  else Cost.skippedTree * f.visibleChildren

/-- The features of a tree with one more tree at its end. -/
def addChild (f : Features) (first : Bool) (t : Subtree) : Features :=
  let g := t.features
  let inError := f.symbol = .error || f.symbol = .skipped
  { f with
    lead := if first then g.lead else f.lead
    size := if first then g.size else f.size + t.total
    cost := f.cost + (if g.symbol = .skipped then 0 else g.cost) + if inError then t.skipCost else 0
    preference := f.preference + g.preference
    visibleCount := f.visibleCount + g.visibleCount + if g.visible then 1 else 0
    visibleChildren := f.visibleChildren + if g.visible then 1 else g.visibleChildren }

/-- The features of a tree of the given trees. -/
def addChildren (f : Features) (first : Bool) : List Subtree → Features
  | [] => f
  | t :: ts => addChildren (addChild f first t) false ts

/-- The tree of a symbol over the given trees. -/
def build (a : Automaton) (symbol : Symbol) (children : List Subtree) : Subtree :=
  let f := addChildren { symbol, lead := {}, size := {}, visible := a.isVisible symbol } true children
  let own := if symbol = .error || symbol = .skipped then Cost.error + Cost.text f.size else 0
  node { f with cost := f.cost + own } children

/-- The tree, preferred by so much more. -/
def prefer (n : Nat) : Subtree → Subtree
  | leaf f lead text => leaf { f with preference := f.preference + n } lead text
  | node f children => node { f with preference := f.preference + n } children

/-- The trees without the extra ones at their end, and these. -/
def splitExtras (ts : List Subtree) : List Subtree × List Subtree :=
  let (extras, kept) := ts.reverse.span isExtra
  (kept.reverse, extras.reverse)

/-! ### Choosing between trees -/

/-- The order of trees by their symbols, from the top down and from left to right. -/
def compare : Subtree → Subtree → Ordering
  | leaf f _ _, leaf g _ _ => f.symbol.compare g.symbol
  | leaf f _ _, node g cs => (f.symbol.compare g.symbol).then (Ord.compare 0 cs.length)
  | node f cs, leaf g _ _ => (f.symbol.compare g.symbol).then (Ord.compare cs.length 0)
  | node f cs, node g ds =>
    (f.symbol.compare g.symbol).then ((Ord.compare cs.length ds.length).then (compareAll cs ds))
where
  /-- The order of two rows of trees of one length. -/
  compareAll : List Subtree → List Subtree → Ordering
    | c :: cs, d :: ds => (compare c d).then (compareAll cs ds)
    | _, _ => .eq

/-- The second tree is the better reading of a text that both cover. -/
def isBetter (left right : Subtree) : Bool :=
  if right.cost ≠ left.cost then right.cost < left.cost
  else if right.features.preference ≠ left.features.preference then
    left.features.preference < right.features.preference
  else if left.cost > 0 then true
  else compare left right == .gt

/-- Both trees, if any, can stand for each other in what has been read. -/
def interchangeable : Option Subtree → Option Subtree → Bool
  | none, none => true
  | some l, some r =>
    l.symbol = r.symbol &&
      ((l.cost > 0 && r.cost > 0) ||
        (l.features.lead.bytes = r.features.lead.bytes &&
          l.features.size.bytes = r.features.size.bytes &&
          l.children.length = r.children.length && l.isExtra = r.isExtra))
  | _, _ => false

end Subtree

end Testsmith.Parsing
