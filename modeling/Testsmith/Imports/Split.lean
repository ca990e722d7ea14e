/-
# Headers of generated code

Generated code may come with a package line and lines that import names. They are told by their
text, line by line: a line counts as a header when it begins with the keyword and a space and ends
with a semicolon, blanks around it aside. The imports are kept as targets, the rest is the body.

Key definitions: `HeaderLine`, `HeaderLine.of`, `splitGenerated`.
-/
import Testsmith.Text.Lines
import Testsmith.Text.StringSet

namespace Testsmith

/-- What a line of generated code is. -/
inductive HeaderLine
  | importOf (target : List Char)
  | package
  | body
  deriving DecidableEq, Repr

namespace HeaderLine

/-- What the target of a line that imports is, if it is one. Its blanks are normalized. -/
def importTarget? (trimmed : List Char) : Option (List Char) :=
  ((Text.afterStart? "import ".toList trimmed).bind (Text.beforeEnd? [';'])).map
    Text.normalizeBlanks

/-- The line states the package. -/
def isPackage (trimmed : List Char) : Bool :=
  (Text.afterStart? "package ".toList trimmed).isSome && trimmed.getLast? == some ';'

def of (line : List Char) : HeaderLine :=
  match importTarget? (Text.trimList line) with
  | some target => importOf target
  | none => if isPackage (Text.trimList line) then package else body

end HeaderLine

/-- The import targets that generated code declares, in order. -/
def declaredTargets (cs : List Char) : List (List Char) :=
  (Text.linesList cs).filterMap fun line =>
    match HeaderLine.of line with
    | .importOf target => some target
    | _ => none

/-- The generated code without its headers and without blanks at its ends. -/
def bodyList (cs : List Char) : List Char :=
  Text.trimList (['\n'].intercalate
    ((Text.linesList cs).filter fun line => HeaderLine.of line = .body))

/-- The import targets that generated code declares, and the rest of it. -/
def splitGenerated (text : String) : StringSet × String :=
  (.ofList ((declaredTargets text.toList).map String.ofList),
    String.ofList (bodyList text.toList))

end Testsmith
