/-
# The symbol index

Which full name a simple type name stands for in a project. Declarations are taken in the order of
their files; a later one replaces an earlier one of the same simple name, or is refused, as the
policy says. Types of the default package cannot be imported and are left out.

Key definitions: `CollisionPolicy`, `SymbolIndex`, `SymbolIndex.ofDeclarations`,
`SymbolIndex.resolve?`.
-/
import Testsmith.Error
import Testsmith.Facts.Declaration
import Testsmith.Path
import Testsmith.Text.StringMap

namespace Testsmith

/-- What is done when two files declare the same simple name. -/
inductive CollisionPolicy
  | lastWins | error
  deriving DecidableEq, Repr

/-- The entry of a simple name. -/
structure SymbolEntry where
  qualifiedName : String
  file : Path
  deriving DecidableEq, Repr

/-- All declarations of one simple name, in order. -/
structure Collision where
  simpleName : String
  qualifiedNames : List String
  files : List Path
  deriving DecidableEq, Repr

structure SymbolIndex where
  entries : StringMap SymbolEntry
  /-- The names declared more than once. -/
  collisionMap : StringMap Collision

namespace SymbolIndex

def empty : SymbolIndex := ⟨∅, ∅⟩

instance : Inhabited SymbolIndex := ⟨empty⟩

/-- The collisions in the order of the names. -/
def collisions (i : SymbolIndex) : List Collision := i.collisionMap.values

/-- The full name for a simple one. -/
def resolve? (i : SymbolIndex) (name : String) : Option String :=
  (i.entries.get? name).map (·.qualifiedName)

def size (i : SymbolIndex) : Nat := i.entries.size

/-- Simple and full names, in the order of the simple ones. -/
def pairs (i : SymbolIndex) : List (String × String) :=
  i.entries.toList.map fun (name, e) => (name, e.qualifiedName)

/-- The collision of a name after one more declaration of it. -/
def extendCollision (known : Option Collision) (name : String) (previous next : SymbolEntry) :
    Collision :=
  let c := known.getD ⟨name, [previous.qualifiedName], [previous.file]⟩
  { c with
    qualifiedNames := c.qualifiedNames ++ [next.qualifiedName]
    files := c.files ++ [next.file] }

/-- The index with one more declaration. -/
def add (policy : CollisionPolicy) (i : SymbolIndex) (file : Path) (d : TypeDeclaration) :
    Except ConfigError SymbolIndex :=
  if d.package.isNone then .ok i
  else
    let next : SymbolEntry := ⟨d.qualifiedName, file⟩
    let entries := i.entries.insert d.name next
    match i.entries.get? d.name, policy with
    | none, _ => .ok { i with entries }
    | some previous, .error =>
      .error (.invalid ("type name " ++ d.name ++ " is declared by both " ++ previous.file.text ++
        " and " ++ file.text))
    | some previous, .lastWins =>
      let c := extendCollision (i.collisionMap.get? d.name) d.name previous next
      .ok { entries, collisionMap := i.collisionMap.insert d.name c }

/-- The index of declarations, taken in order. -/
def ofDeclarations (policy : CollisionPolicy) (ds : List (Path × TypeDeclaration)) :
    Except ConfigError SymbolIndex :=
  ds.foldlM (fun i (file, d) => i.add policy file d) empty

end SymbolIndex

end Testsmith
