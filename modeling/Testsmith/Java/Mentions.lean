/-
# Names that code mentions

Two scans of a syntax tree for names of types that may need an import. Both leave out declarations of
the package and of imports. Comments, strings and characters are no names; code embedded in a string
is read as any other.

Key definitions: `capitalizedNames`, `genericArguments`.
-/
import Testsmith.Java.Parser
import Testsmith.Text.StringSet

namespace Testsmith.Java

/-- A package or import declaration. -/
def Node.isHeader (n : Node) : Bool :=
  n.isKind .packageDeclaration || n.isKind .importDeclaration

/-- The text begins with a capital letter of ASCII. -/
def isCapitalized (s : String) : Bool := s.toList.head?.any Char.isUpper

/-- The capitalized names in a tree, in order and with repetitions. -/
def capitalizedIn : Node → List String
  | .leaf k _ text =>
    if (k == .identifier || k == .typeIdentifier) && isCapitalized text then [text] else []
  | .branch k children =>
    if k == .packageDeclaration || k == .importDeclaration then [] else capitalizedOf children
where
  /-- The capitalized names in all trees. -/
  capitalizedOf : List Node → List String
    | [] => []
    | n :: ns => capitalizedIn n ++ capitalizedOf ns

/-- The words in type position under type arguments, in order and with repetitions. `inside` says
that the tree stands in type arguments itself. -/
def argumentsIn (inside : Bool) : Node → List String
  | .leaf k _ text => if inside && k == .typeIdentifier then [text] else []
  | .branch k children =>
    if k == .packageDeclaration || k == .importDeclaration then []
    else argumentsOf (inside || k == .typeArguments) children
where
  /-- The words in all trees. -/
  argumentsOf (inside : Bool) : List Node → List String
    | [] => []
    | n :: ns => argumentsIn inside n ++ argumentsOf inside ns

/-- The capitalized names that a source text mentions. -/
def capitalizedNames (source : String) : StringSet :=
  .ofList (capitalizedIn (parse source).root)

/-- The types that a source text mentions in type arguments. -/
def genericArguments (source : String) : StringSet :=
  .ofList (argumentsIn false (parse source).root)

end Testsmith.Java
