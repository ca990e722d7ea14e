/-
# What is known about a source file

The facts about a Java file from which a test strategy is chosen and a prompt is written: the type it
declares, the methods and fields of that type, and its role in the program.

Key definitions: `DeclKind`, `Visibility`, `Stereotype`, `Method`, `Field`, `SourceFacts`.
-/
import Testsmith.Text.Uppercase

namespace Testsmith

/-- What a type declaration declares. -/
inductive DeclKind
  | plainClass | interface | enum | record
  deriving DecidableEq, Repr

namespace DeclKind

/-- The name of a kind in reports. -/
def label : DeclKind → String
  | .plainClass => "class"
  | .interface => "interface"
  | .enum => "enum"
  | .record => "record"

end DeclKind

/-- Who may use a field. -/
inductive Visibility
  | everywhere
  /-- The package and the subtypes. -/
  | inherited
  /-- The type alone. -/
  | hidden
  | package
  deriving DecidableEq, Repr

namespace Visibility

/-- The name of a visibility in reports. -/
def label : Visibility → String
  | .everywhere => "public"
  | .inherited => "protected"
  | .hidden => "private"
  | .package => "package"

end Visibility

/-- The role of a type in a program. -/
inductive Stereotype
  /-- The place where the program starts. -/
  | entryPoint
  /-- An object that answers web requests. -/
  | controller
  /-- An object that keeps data. -/
  | repository
  /-- An object with business rules. -/
  | service
  /-- A holder of data. -/
  | model
  | plain
  deriving DecidableEq, Repr

namespace Stereotype

/-- The name of a role in reports. -/
def label : Stereotype → String
  | .entryPoint => "entry_point"
  | .controller => "controller"
  | .repository => "repository"
  | .service => "service"
  | .model => "model"
  | .plain => "plain"

/-- Entry points and controllers get no tests. -/
def isExcluded : Stereotype → Bool
  | .entryPoint | .controller => true
  | _ => false

end Stereotype

/-- A method: its name and the texts of its types. -/
structure Method where
  name : String
  returnType : String
  parameterTypes : List String
  deriving DecidableEq, Repr

/-- The name is the verb, followed by a capital. -/
def isAccessorName (verb name : String) : Bool :=
  match name.toList.drop verb.length with
  | c :: _ => name.startsWith verb && Text.isUppercase c
  | [] => false

namespace Method

/-- Takes nothing, and is named and typed as the reader of a property. -/
def isGetter (m : Method) : Bool :=
  m.parameterTypes.isEmpty &&
    if isAccessorName "get" m.name then m.returnType != "void"
    else isAccessorName "is" m.name && ["boolean", "Boolean"].contains m.returnType

/-- Takes one value, and is named as the writer of a property. -/
def isSetter (m : Method) : Bool :=
  isAccessorName "set" m.name && m.parameterTypes.length == 1

/-- Has the name of a method that every object has. -/
def isObjectMethod (m : Method) : Bool :=
  ["toString", "equals", "hashCode"].contains m.name

/-- Belongs to a mere holder of data. -/
def isAccessorShaped (m : Method) : Bool := m.isGetter || m.isSetter || m.isObjectMethod

end Method

/-- A field that every object of the type has. -/
structure Field where
  name : String
  typeName : String
  visibility : Visibility
  deriving DecidableEq, Repr

/-- The facts about a source file. -/
structure SourceFacts where
  /-- The declared package, empty for none. -/
  package : String := ""
  /-- The name of the first type the file declares. -/
  className : Option String := none
  kind : Option DeclKind := none
  /-- The public methods of that type, one of each name. -/
  methods : List Method := []
  fields : List Field := []
  stereotype : Stereotype := .plain
  /-- The file speaks to a database. -/
  persistenceAccess : Bool := false
  warnings : List String := []
  deriving DecidableEq, Repr

end Testsmith
