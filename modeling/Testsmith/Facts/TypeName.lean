/-
# Simple names of types

The bare name in the text of a type: without type arguments, dots of a variable arity, array
brackets and package. The steps are taken in this order, each on the text the last one left.

Key definitions: `simpleTypeName`, `lastSegment`.
-/
import Testsmith.Text.Blank

namespace Testsmith

/-- What follows the last point of a text. -/
def lastSegmentList (cs : List Char) : List Char := (cs.reverse.takeWhile (· != '.')).reverse

/-- A name without points is part of what follows the last point. -/
theorem takeWhile_reverse_append {name : List Char} (h : '.' ∉ name) (cs : List Char) :
    (name.reverse ++ cs).takeWhile (· != '.') = name.reverse ++ cs.takeWhile (· != '.') := by
  refine List.takeWhile_append_of_pos fun c hc => ?_
  rw [bne_iff_ne]
  rintro rfl
  exact h (List.mem_reverse.mp hc)

/-- A name without points is what follows the last point before it. -/
theorem lastSegmentList_append (front : List Char) {name : List Char} (h : '.' ∉ name) :
    lastSegmentList (front ++ '.' :: name) = name := by
  have hlist : (front ++ '.' :: name).reverse = name.reverse ++ '.' :: front.reverse := by simp
  rw [lastSegmentList, hlist, takeWhile_reverse_append h, List.takeWhile_cons_of_neg (by decide),
    List.append_nil, List.reverse_reverse]

/-- In a text without points that is all of it. -/
theorem lastSegmentList_of_not_point {name : List Char} (h : '.' ∉ name) :
    lastSegmentList name = name := by
  rw [lastSegmentList, ← List.append_nil name.reverse, takeWhile_reverse_append h,
    List.takeWhile_nil, List.append_nil, List.reverse_reverse]

/-- What follows the last point of a text. -/
def lastSegment (s : String) : String := String.ofList (lastSegmentList s.toList)

/-- The text without the repetitions of `ending` at its end. Both are read backwards here. -/
def dropRepeated (ending : List Char) : (bound : Nat) → List Char → List Char
  | 0, cs => cs
  | bound + 1, cs =>
    if ending.isPrefixOf cs then dropRepeated ending bound (cs.drop ending.length) else cs

/-- The text without the repetitions of `ending` at its end. -/
def dropEndings (ending cs : List Char) : List Char :=
  (dropRepeated ending.reverse cs.length cs.reverse).reverse

/-- The simple name in the text of a type. -/
def simpleTypeNameList (cs : List Char) : List Char :=
  let outer := cs.takeWhile (· != '<')
  let element := dropEndings ['[', ']'] (dropEndings ['.', '.', '.'] outer)
  lastSegmentList (Text.trimList element)

/-- The simple name in the text of a type: for `java.util.List<Foo>` it is `List`. -/
def simpleTypeName (s : String) : String := String.ofList (simpleTypeNameList s.toList)

end Testsmith
