/-
# Prompts

The text that asks for a test: rules, the methods that may be used, the dependencies to mock, the
source, and after these the log of every earlier build that failed, oldest first.

Key definitions: `TestRequest`, `methodLines`, `repairSection`, `TestRequest.prompt`.
-/
import Testsmith.Strategy
import Testsmith.Text.Blank

namespace Testsmith

/-- What stays the same in all attempts at the test of one file. -/
structure TestRequest where
  strategy : Strategy
  facts : SourceFacts
  /-- The name of the class under test. -/
  className : String
  /-- The name the test class has to have. -/
  testClass : String
  source : String
  deriving DecidableEq, Repr

/-- One line for each method that may be used. -/
def methodLines (facts : SourceFacts) : List String :=
  facts.methods.map fun m => "- " ++ m.name ++ " -> " ++ m.returnType

/-- The heading over the log of an earlier build. -/
def repairHeading : String := "Fix compilation errors:"

/-- The rule on mocks and exceptions, which depends on the strategy. -/
def strategyRule (s : Strategy) : String :=
  match s with
  | .model =>
    "7. Do NOT create negative tests expecting exceptions (like NullPointerException). " ++
      "Test getters/setters only with valid values."
  | .mock _ =>
    "7. Mock only service/repository/other object dependencies, " ++
      "not fields of primitive/wrapper types."
  | _ => "7. Do not use any mocking framework; call the class directly."

/-- The lines that name the dependencies to mock. -/
def targetLines (targets : List MockTarget) : List String :=
  if targets.isEmpty then ["None"] else targets.map fun t => t.name ++ ": " ++ t.typeName

/-- The lines put together, each with an ending. -/
def unlines (ls : List String) : String := String.join (ls.map (· ++ "\n"))

/-- The part of a prompt for the log of an earlier build. The log stands there as it is, with a line
ending where it has none. -/
def repairSection (log : String) : String :=
  "\n" ++ repairHeading ++ "\n" ++ log ++ if log.endsWith "\n" then "" else "\n"

namespace TestRequest

/-- The prompt of the first attempt. -/
def basePrompt (r : TestRequest) : String :=
  unlines ([
      "Write a FULLY COMPILABLE JUnit 5 test class named " ++ r.testClass ++
        " for the following Java class " ++ r.className ++ ".",
      "STRICT RULES:",
      "1. Use ONLY the methods listed here:"] ++
    methodLines r.facts ++ [
      "2. Mockito usage allowed: " ++ toString r.strategy.usesMocking,
      "3. Instantiate POJO fields normally; mock only real object dependencies.",
      "4. For Optional<T>, always check isPresent() before calling get().",
      "5. For List/Iterable, always check iterator().hasNext().",
      "6. Generate positive test cases for all methods.",
      strategyRule r.strategy,
      "Dependencies to mock:"] ++
    targetLines r.strategy.mockTargets ++ [
      "===== SOURCE =====",
      Text.trimEnd r.source,
      "===== END SOURCE =====",
      "Write only valid Java code (class body). Do not include package or import lines."])

/-- The prompt of an attempt after builds that failed with the given logs. -/
def prompt (r : TestRequest) (failures : List String) : String :=
  r.basePrompt ++ String.join (failures.map repairSection)

end TestRequest

end Testsmith
