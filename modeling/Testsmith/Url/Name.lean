/-
# Names of hosts

Names may go beyond ASCII. Their characters are mapped to plain small ones and composed, and each
label that is still beyond ASCII is written in ASCII with a mark before it. A label that comes with
the mark must be one that this could have written. No label begins with a mark of a letter, joiners
stand only where letters join, and where a label is written to the left, each label has to follow
the rules for that.

Key definitions: `Url.Label.isValid`, `Url.Label.directed`, `Url.nameText?`.
-/
import Testsmith.Text.Composition
import Testsmith.Text.Direction
import Testsmith.Text.Joining
import Testsmith.Url.Name.Mapping
import Testsmith.Url.Punycode

namespace Testsmith.Url

open Text (Direction)

/-- What stands before a label that is written in ASCII. -/
def codedMark : List Char := "xn--".toList

/-- A part of the name of a host. -/
abbrev Label := List Char

namespace Label

def isAscii (l : Label) : Bool := l.all (·.val < 128)

/-! ### Joiners -/

def nonJoiner : Char := '\u200c'

def joiner : Char := '\u200d'

/-- The class of the sign that takes a vowel away, after which joiners may stand. -/
def viramaClass : Nat := 9

/-- The joiners in the label may stand where they do. `before` is what precedes, backwards. -/
def joinersFit : (before : List Char) → Label → Bool
  | _, [] => true
  | before, c :: cs =>
    let afterVirama := before.head?.any fun b => Text.combiningClass b = viramaClass
    let between :=
      (before.dropWhile Text.isNonspacing).head?.any Text.joinsNext &&
        (cs.dropWhile Text.isNonspacing).head?.any Text.joinsPrevious
    let fits :=
      if c = joiner then afterVirama
      else if c = nonJoiner then afterVirama || between
      else true
    fits && joinersFit (c :: before) cs

/-- A label that is not all ASCII may be sent. -/
def isValid (l : Label) : Bool := !l.head?.any Text.isMark && joinersFit [] l

/-! ### Direction -/

/-- The label has letters or digits of a script that is written to the left. -/
def hasRightToLeft (l : Label) : Bool :=
  l.any fun c => (Text.direction c matches .rightToLeft | .arabicNumber)

/-- The direction at the end of the label, but for marks. -/
def lastDirection? (l : Label) : Option Direction :=
  (l.reverse.dropWhile fun c => Text.direction c = .mark).head?.map Text.direction

/-- The label follows the rules of its direction, which its first character states. -/
def directed (l : Label) : Bool :=
  let ds := l.map Text.direction
  match ds.head? with
  | none => true
  | some .rightToLeft =>
    !ds.contains .leftToRight && !(ds.contains .number && ds.contains .arabicNumber) &&
      l.lastDirection?.any fun d => (d matches .rightToLeft | .number | .arabicNumber)
  | some .leftToRight =>
    !ds.contains .rightToLeft && !ds.contains .arabicNumber &&
      l.lastDirection?.any fun d => (d matches .leftToRight | .number)
  | some _ => false

/-! ### Coding -/

/-- The label that is written in ASCII after the mark. -/
def decoded? (cs : List Char) : Option Label := do
  let l ← Punycode.decode? cs
  if isAscii l || !l.all (fun c => mapChar? c = some [c]) || Text.composed l ≠ l ||
      codedMark.isPrefixOf l then none
  else some l

/-- The label as it is read. -/
def read? (l : Label) : Option Label :=
  let read := if codedMark.isPrefixOf l then decoded? (l.drop codedMark.length) else some l
  read.filter fun l => isAscii l || isValid l

/-- The label as it is sent. -/
def ascii (l : Label) : Label := if isAscii l then l else codedMark ++ Punycode.encode l

end Label

/-- The labels of a name. -/
def labelsOf (cs : List Char) : List Label := cs.splitOn '.'

/-- The characters of a name, mapped and composed. -/
def mapName? (cs : List Char) : Option (List Char) :=
  (cs.mapM mapChar?).map fun parts => Text.composed parts.flatten

/-- The name of a host as it is sent. -/
def nameText? (cs : List Char) : Option (List Char) := do
  let name ← if cs.all (·.val < 128) then some (cs.map Char.toLower) else mapName? cs
  let labels ← (labelsOf name).mapM Label.read?
  if labels.any Label.hasRightToLeft && !labels.all Label.directed then none
  else return ['.'].intercalate (labels.map Label.ascii)

end Testsmith.Url
