/-
# The type a file declares

Key definitions: `declarationOf?`, `scanDeclaration`.
-/
import Testsmith.Facts.Declaration
import Testsmith.Java.Facts

namespace Testsmith.Java

/-- The first type that a tree declares at its top level. -/
def declarationOf? (root : Node) : Option TypeDeclaration := do
  let (kind, decl) ← primaryType? root
  let name ← decl.name?
  return ⟨packageName? root, name.text, kind⟩

/-- The first type that a source text declares. -/
def scanDeclaration (source : String) : Option TypeDeclaration := declarationOf? (parse source).root

end Testsmith.Java
