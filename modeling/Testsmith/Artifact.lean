/-
# Test files

A test that is ready to be built or written, and the place of a test in a project.

Key definitions: `Artifact`, `Artifact.render`, `destination`.
-/
import Testsmith.Imports.Resolve

namespace Testsmith

/-- A test with its imports and its place. -/
structure Artifact where
  /-- The package, empty for the default one. -/
  package : String
  /-- The lines that import names. -/
  imports : List String
  body : String
  testClass : String
  path : Path
  deriving DecidableEq, Repr

namespace Artifact

def ofResolved (package testClass : String) (r : ResolvedImports) (path : Path) : Artifact :=
  ⟨package, r.lines, r.body, testClass, path⟩

/-- The text of the test file. -/
def render (a : Artifact) : String :=
  (if a.package.isEmpty then "" else "package " ++ a.package ++ ";\n\n") ++
    String.join (a.imports.map (· ++ "\n")) ++
    (if a.imports.isEmpty then "" else "\n") ++
    Text.trim a.body ++ "\n"

end Artifact

/-- The parts of a text between points. -/
def splitPoints : List Char → List (List Char)
  | [] => [[]]
  | c :: cs =>
    match c == '.', splitPoints cs with
    | true, parts => [] :: parts
    | false, [] => [[c]]
    | false, p :: ps => (c :: p) :: ps

/-- The parts of a package that are not empty. -/
def packageSegments (package : String) : List String :=
  ((splitPoints package.toList).filter fun s => !s.isEmpty).map String.ofList

/-- Where a test goes: under the test root, in a directory for each part of its package. -/
def destination (testRoot : Path) (package testClass : String) : Path :=
  ((packageSegments package).foldl Path.join testRoot).join (testClass ++ ".java")

end Testsmith
