/-
# Configuration

What a project may set, with the values that hold where it sets nothing.

Key definitions: `Config`, `Config.default`, `Config.validate`, `Config.apiKey?`.
-/
import Testsmith.Decimal.Layout
import Testsmith.Repair

namespace Testsmith

namespace Config

/-- Where sources are and tests go. Both roots are relative to the project. -/
structure Project where
  sourceRoot : Path := ⟨"src/main/java"⟩
  testRoot : Path := ⟨"src/test/java"⟩
  /-- What the name of a test class adds to the name of the class under test. -/
  testSuffix : String := "Test"
  /-- A source file matches one of these. -/
  includePatterns : List String := ["**/*.java"]
  /-- And none of these. -/
  excludePatterns : List String := ["**/package-info.java", "**/module-info.java"]
  deriving DecidableEq, Repr

/-- The model that writes tests. -/
structure Llm where
  provider : String := "groq"
  model : String := "llama-3.1-8b-instant"
  /-- The environment variable that holds the key. -/
  apiKeyEnv : String := "GROQ_API_KEY"
  /-- The address of the provider, if it is not the usual one. -/
  baseUrl : Option String := none
  temperature : Float := 0.1
  maxOutputTokens : UInt32 := 4096
  timeoutSecs : UInt64 := 120
  deriving Repr

/-- How often a test is tried. -/
structure Repair where
  maxAttempts : UInt32 := 5
  deriving DecidableEq, Repr

/-- How a test is built and run. -/
structure Verify where
  /-- The command, in which the name of the test class has a placeholder. -/
  command : List String := ["mvn", "-q", "-Dtest=\x7btest\x7d", "test"]
  /-- A text that the output of a success has to hold. -/
  successMarker : Option String := none
  timeoutSecs : UInt64 := 600
  deriving DecidableEq, Repr

/-- How types of the same name are treated. -/
structure Symbols where
  collision : CollisionPolicy := .lastWins
  deriving DecidableEq, Repr

end Config

/-- The configuration of a project. -/
structure Config where
  project : Config.Project := {}
  llm : Config.Llm := {}
  repair : Config.Repair := {}
  verify : Config.Verify := {}
  symbols : Config.Symbols := {}
  deriving Repr

namespace Config

instance : Inhabited Config := ⟨{}⟩

/-- The directory for the files of this program, in a project. -/
def directoryName : String := ".scribe"

/-- The place of the configuration of a project. -/
def pathFor (root : Path) : Path := (root.join directoryName).join "config.toml"

/-- Refuses values that make a run meaningless. -/
def validate (c : Config) : Except ConfigError Unit :=
  if c.repair.maxAttempts = 0 then .error (.invalid "repair.max_attempts must be at least 1")
  else if c.verify.command.isEmpty then .error (.invalid "verify.command must not be empty")
  else if !(0 ≤ c.llm.temperature && c.llm.temperature ≤ 2) then
    .error (.invalid ("llm.temperature must be within 0.0..=2.0, got " ++
      FloatLayout.plain.write c.llm.temperature))
  else if c.project.includePatterns.isEmpty then
    .error (.invalid "project.include_patterns must not be empty")
  else .ok ()

/-- The key for the provider. One that is missing or blank is an error. -/
def Llm.apiKey (l : Llm) (env : String → Option String) : Except ConfigError String :=
  match ((env l.apiKeyEnv).map Text.trim).filter (!·.isEmpty) with
  | some key => .ok key
  | none => .error (.credentialMissing l.apiKeyEnv)

/-- What is sent along with a prompt. -/
def Llm.options (l : Llm) : GenerationOptions := ⟨l.temperature, l.maxOutputTokens.toNat⟩

/-- Where a project keeps its sources. -/
def sourceRoot (c : Config) (root : Path) : Path := root.push c.project.sourceRoot

/-- Where a project keeps its tests. -/
def testRoot (c : Config) (root : Path) : Path := root.push c.project.testRoot

end Config

end Testsmith
