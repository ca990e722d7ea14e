/-
# How a file is to be tested

One strategy for every file, chosen from its facts: no test, a test of a data holder, a test with the
dependencies replaced by mocks, or a plain test.

Key definitions: `SkipReason`, `MockTarget`, `Strategy`, `isValueType`, `classify`.
-/
import Testsmith.Facts.Basic
import Testsmith.Facts.TypeName

namespace Testsmith

/-- Why a file gets no test. -/
inductive SkipReason
  | controller | entryPoint | repository
  deriving DecidableEq, Repr

namespace SkipReason

/-- The reason in words. -/
def text : SkipReason → String
  | controller => "controller"
  | entryPoint => "entry point"
  | repository => "repository"

/-- The reason as a key in reports. -/
def label : SkipReason → String
  | controller => "controller"
  | entryPoint => "entry_point"
  | repository => "repository"

end SkipReason

/-- A field to be replaced by a mock. -/
structure MockTarget where
  name : String
  typeName : String
  deriving DecidableEq, Repr

inductive Strategy
  | skip (reason : SkipReason)
  /-- Construction, getters and setters are tested, without mocks. -/
  | model
  /-- The targets are replaced by mocks; a service may have none. -/
  | mock (targets : List MockTarget)
  | plain
  deriving DecidableEq, Repr

namespace Strategy

def usesMocking : Strategy → Bool
  | mock _ => true
  | _ => false

def isSkip : Strategy → Bool
  | skip _ => true
  | _ => false

def mockTargets : Strategy → List MockTarget
  | mock targets => targets
  | _ => []

/-- The name of a strategy in reports. -/
def label : Strategy → String
  | skip _ => "skip"
  | model => "model"
  | mock _ => "mock"
  | plain => "plain"

end Strategy

/-- The simple names of primitive types, their wrappers and texts. -/
def valueTypes : List String :=
  ["byte", "short", "int", "long", "float", "double", "boolean", "char",
   "Byte", "Short", "Integer", "Long", "Float", "Double", "Boolean", "Character",
   "String", "CharSequence"]

/-- The type in the text holds plain values, which are never mocked. -/
def isValueType (typeName : String) : Bool := valueTypes.contains (simpleTypeName typeName)

/-- The fields to be replaced by mocks: all that hold no plain values. -/
def mockTargetsOf (facts : SourceFacts) : List MockTarget :=
  (facts.fields.filter fun f => !isValueType f.typeName).map fun f => ⟨f.name, f.typeName⟩

/-- The strategy for a file. -/
def classify (facts : SourceFacts) : Strategy :=
  match facts.stereotype with
  | .controller => .skip .controller
  | .entryPoint => .skip .entryPoint
  | .repository => .skip .repository
  | .model => .model
  | .service => .mock (mockTargetsOf facts)
  | .plain =>
    if !(mockTargetsOf facts).isEmpty || facts.persistenceAccess then .mock (mockTargetsOf facts)
    else .plain

end Testsmith
