/-
# Declared types

The name by which other files know the type of a file.

Key definitions: `TypeDeclaration`, `TypeDeclaration.qualifiedName`.
-/
import Testsmith.Facts.Basic

namespace Testsmith

/-- A declared type and its package. -/
structure TypeDeclaration where
  package : Option String
  name : String
  kind : DeclKind
  deriving DecidableEq, Repr

/-- The name with the package before it. -/
def TypeDeclaration.qualifiedName (d : TypeDeclaration) : String :=
  match d.package with
  | some p => p ++ "." ++ d.name
  | none => d.name

end Testsmith
