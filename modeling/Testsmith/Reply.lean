/-
# The code in a reply

A model likes to wrap code in a Markdown fence. The code in a reply is the text without the fence
around it: the opening line goes with all that stands on it, and one closing fence at the end.

Key definitions: `fence`, `stripFencesList`, `stripFences`.
-/
import Testsmith.Text.Lines

namespace Testsmith

/-- Three backticks. -/
def fence : List Char := List.replicate 3 '\x60'

/-- The text after the first line ending, or all of it if there is none. -/
def afterFirstLine (cs : List Char) : List Char :=
  if cs.contains '\n' then (cs.dropWhile (· != '\n')).drop 1 else cs

/-- The text without a fence around it and without blanks at its ends. -/
def stripFencesList (cs : List Char) : List Char :=
  match Text.afterStart? fence (Text.trimList cs) with
  | none => Text.trimList cs
  | some rest =>
    let body := Text.trimEndList (afterFirstLine rest)
    Text.trimList ((Text.beforeEnd? fence body).getD body)

/-- The text without a fence around it and without blanks at its ends. -/
def stripFences (s : String) : String := String.ofList (stripFencesList s.toList)

end Testsmith
