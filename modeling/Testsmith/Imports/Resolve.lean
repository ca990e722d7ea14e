/-
# The imports of a test

Generated code is told apart into headers and body. The imports of the test are those the headers
declare, those every test gets, the class under test, what the keywords in the body call for, and
the types of the project that the body mentions.

Key definitions: `ResolvedImports`, `ResolvedImports.lines`, `fixedImports`, `builtInTypes`,
`resolveImports`.
-/
import Testsmith.Imports.Keyword
import Testsmith.Imports.Split
import Testsmith.Java.Mentions
import Testsmith.Reply
import Testsmith.Symbols

namespace Testsmith

/-- The imports every test gets. -/
def fixedImports : List String :=
  ["org.junit.jupiter.api.Test", "static org.junit.jupiter.api.Assertions.*", "java.util.*"]

/-- The types that are known without an import, even if the project declares one of that name. -/
def builtInTypes : List String :=
  ["ArithmeticException", "AssertionError", "Boolean", "Byte", "CharSequence", "Character", "Class",
   "ClassCastException", "Comparable", "Deprecated", "Double", "Enum", "Error", "Exception", "Float",
   "FunctionalInterface", "IllegalArgumentException", "IllegalStateException",
   "IndexOutOfBoundsException", "Integer", "Iterable", "Long", "Math", "NullPointerException",
   "Number", "NumberFormatException", "Object", "Override", "Record", "Runnable",
   "RuntimeException", "Short", "String", "StringBuilder", "SuppressWarnings", "System", "Thread",
   "Throwable", "UnsupportedOperationException", "Void"]

/-- The imports of a test, and the code they are for. -/
structure ResolvedImports where
  /-- What is imported, `static` included. -/
  imports : StringSet
  body : String
  deriving DecidableEq

/-- The imports as lines of code. -/
def ResolvedImports.lines (r : ResolvedImports) : List String :=
  r.imports.toList.map fun target => "import " ++ target ++ ";"

/-- The class under test, unless it is in the default package. -/
def subjectImport (package className : String) : List String :=
  if package.isEmpty then [] else [package ++ "." ++ className]

/-- What the keywords in the body call for. -/
def keywordTargets (body : String) : List String :=
  (keywordImports.filter fun (keyword, _) => containsKeyword body keyword).map (·.2)

/-- The types of the project that the body mentions. -/
def projectTargets (body className : String) (index : SymbolIndex) : List String :=
  let names := (Java.capitalizedNames body).union (Java.genericArguments body)
  (names.toList.filter fun name =>
    !(name == className || name == "Test" || builtInTypes.contains name)).filterMap index.resolve?

/-- The imports of a test from generated code. -/
def resolveImports (generated package className : String) (index : SymbolIndex) :
    ResolvedImports :=
  let (declared, body) := splitGenerated (stripFences generated)
  let targets := fixedImports ++ subjectImport package className ++ keywordTargets body ++
    projectTargets body className index
  ⟨targets.foldl (fun s x => s.insert x) declared, body⟩

end Testsmith
