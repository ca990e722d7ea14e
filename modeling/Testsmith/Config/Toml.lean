/-
# Configuration as a document

A configuration is written as a TOML document with one table for each section. Read back, keys that
are not there keep their usual values and unknown ones are left out. A section may also be stated as
an array: its members are then the values of the keys, in order.

Key definitions: `Config.ofToml`, `Config.toToml`.
-/
import Testsmith.Config.Basic
import Testsmith.Toml.Reader

namespace Testsmith.Config

open Toml (Value Entries)

/-! ### Reading -/

/-- The values a section gives its keys. -/
def fieldsOf? (keys : List String) : Value → Option (List (Option Value))
  | .table _ es => some (keys.map fun k => es.lookup k)
  | .array vs => some ((List.range keys.length).map fun i => vs[i]?)
  | .tables ms => some ((List.range keys.length).map fun i => (ms[i]?).map (.table .header))
  | .moment => some (keys.map fun _ => none)
  | _ => none

/-- The value of a key: the usual one if there is none, and nothing if it cannot be read. -/
def fieldOr {α : Type} (read : Value → Option α) (usual : α) (v : Option Value) : Option α :=
  match v with
  | none => some usual
  | some v => read v

def text? : Value → Option String
  | .text s => some s
  | _ => none

def path? (v : Value) : Option Path := (text? v).map Path.mk

/-- A natural number below a limit. -/
def natBelow? (limit : Nat) : Value → Option Nat
  | .integer n => if 0 ≤ n && n < limit then some n.toNat else none
  | _ => none

def word? (v : Value) : Option UInt32 := (natBelow? UInt32.size v).map UInt32.ofNat

def longWord? (v : Value) : Option UInt64 := (natBelow? UInt64.size v).map UInt64.ofNat

/-- A number, whole or not. -/
def number? : Value → Option Float
  | .float x => some x
  | .integer n =>
    let size := floatOfDecimal ⟨n.natAbs, 0⟩
    some (if n < 0 then -size else size)
  | _ => none

def texts? : Value → Option (List String)
  | .array vs => vs.mapM text?
  | .tables [] => some []
  | _ => none

def policyNamed? : String → Option CollisionPolicy
  | "last-wins" => some .lastWins
  | "error" => some .error
  | _ => none

/-- The value holds nothing. -/
def isEmpty : Value → Bool
  | .array vs => vs.isEmpty
  | .table _ es => es.isEmpty
  | _ => false

/-- A policy: its name, or a table with its name alone and nothing under it. -/
def policy? : Value → Option CollisionPolicy
  | .text s => policyNamed? s
  | .table _ [(name, v)] => if isEmpty v then policyNamed? name else none
  | _ => none

def Project.keys : List String :=
  ["source_root", "test_root", "test_suffix", "include_patterns", "exclude_patterns"]

def Project.of? (v : Value) : Option Project := do
  let usual : Project := {}
  let [sources, tests, suffix, included, excluded] ← fieldsOf? keys v | none
  return {
    sourceRoot := ← fieldOr path? usual.sourceRoot sources
    testRoot := ← fieldOr path? usual.testRoot tests
    testSuffix := ← fieldOr text? usual.testSuffix suffix
    includePatterns := ← fieldOr texts? usual.includePatterns included
    excludePatterns := ← fieldOr texts? usual.excludePatterns excluded }

def Llm.keys : List String :=
  ["provider", "model", "api_key_env", "base_url", "temperature", "max_output_tokens",
   "timeout_secs"]

def Llm.of? (v : Value) : Option Llm := do
  let usual : Llm := {}
  let [provider, model, keyName, url, temperature, tokens, timeout] ← fieldsOf? keys v | none
  return {
    provider := ← fieldOr text? usual.provider provider
    model := ← fieldOr text? usual.model model
    apiKeyEnv := ← fieldOr text? usual.apiKeyEnv keyName
    baseUrl := ← fieldOr (fun v => (text? v).map some) usual.baseUrl url
    temperature := ← fieldOr number? usual.temperature temperature
    maxOutputTokens := ← fieldOr word? usual.maxOutputTokens tokens
    timeoutSecs := ← fieldOr longWord? usual.timeoutSecs timeout }

def Repair.keys : List String := ["max_attempts"]

def Repair.of? (v : Value) : Option Repair := do
  let usual : Repair := {}
  let [attempts] ← fieldsOf? keys v | none
  return { maxAttempts := ← fieldOr word? usual.maxAttempts attempts }

def Verify.keys : List String := ["command", "success_marker", "timeout_secs"]

def Verify.of? (v : Value) : Option Verify := do
  let usual : Verify := {}
  let [command, marker, timeout] ← fieldsOf? keys v | none
  return {
    command := ← fieldOr texts? usual.command command
    successMarker := ← fieldOr (fun v => (text? v).map some) usual.successMarker marker
    timeoutSecs := ← fieldOr longWord? usual.timeoutSecs timeout }

def Symbols.keys : List String := ["collision"]

def Symbols.of? (v : Value) : Option Symbols := do
  let usual : Symbols := {}
  let [collision] ← fieldsOf? keys v | none
  return { collision := ← fieldOr policy? usual.collision collision }

/-- The configuration a document states. -/
def ofEntries? (es : Entries) : Option Config := do
  return {
    project := ← fieldOr Project.of? {} (es.lookup "project")
    llm := ← fieldOr Llm.of? {} (es.lookup "llm")
    repair := ← fieldOr Repair.of? {} (es.lookup "repair")
    verify := ← fieldOr Verify.of? {} (es.lookup "verify")
    symbols := ← fieldOr Symbols.of? {} (es.lookup "symbols") }

/-- The configuration in a text. -/
def ofToml (text : String) : Except ConfigError Config :=
  match (Toml.parse? text).bind ofEntries? with
  | some c => .ok c
  | none => .error (.unreadable "TOML parse error")

/-! ### Writing -/

/-- A text in its written form. -/
def writeText (s : String) : String := String.ofList (Toml.write s.toList)

/-- A list of texts: two or more stand on lines of their own. -/
def writeTexts : List String → String
  | [] => "[]"
  | [s] => "[" ++ writeText s ++ "]"
  | ss => "[\n" ++ String.join (ss.map fun s => "    " ++ writeText s ++ ",\n") ++ "]"

def writePolicy : CollisionPolicy → String
  | .lastWins => writeText "last-wins"
  | .error => writeText "error"

/-- A section: its header and a line for every key that has a value. -/
def writeSection (name : String) (entries : List (String × Option String)) : String :=
  "[" ++ name ++ "]\n" ++ String.join (entries.filterMap fun (key, v) =>
    v.map fun v => key ++ " = " ++ v ++ "\n")

/-- The keys of a section with their values, written. -/
def Project.entries (p : Project) : List (String × Option String) :=
  keys.zip [some (writeText p.sourceRoot.text), some (writeText p.testRoot.text),
    some (writeText p.testSuffix), some (writeTexts p.includePatterns),
    some (writeTexts p.excludePatterns)]

def Llm.entries (l : Llm) : List (String × Option String) :=
  keys.zip [some (writeText l.provider), some (writeText l.model), some (writeText l.apiKeyEnv),
    l.baseUrl.map writeText, some (FloatLayout.pointed.write l.temperature),
    some (toString l.maxOutputTokens.toNat), some (toString l.timeoutSecs.toNat)]

def Repair.entries (r : Repair) : List (String × Option String) :=
  keys.zip [some (toString r.maxAttempts.toNat)]

def Verify.entries (v : Verify) : List (String × Option String) :=
  keys.zip [some (writeTexts v.command), v.successMarker.map writeText,
    some (toString v.timeoutSecs.toNat)]

def Symbols.entries (s : Symbols) : List (String × Option String) :=
  keys.zip [some (writePolicy s.collision)]

/-- The number can be stated in a document. -/
def isStatable (n : UInt64) : Bool := n.toNat < 1 <<< 63

/-- The document that states a configuration. Documents have no place for numbers from `2 ^ 63`. -/
def toToml (c : Config) : Except ConfigError String :=
  if isStatable c.llm.timeoutSecs && isStatable c.verify.timeoutSecs then
    .ok ("\n".intercalate [writeSection "project" c.project.entries,
      writeSection "llm" c.llm.entries, writeSection "repair" c.repair.entries,
      writeSection "verify" c.verify.entries, writeSection "symbols" c.symbols.entries])
  else .error (.unreadable "number too large")

end Testsmith.Config
