/-
# A configuration survives being written and read

The document that states a configuration is read as that configuration, whatever its texts are and
with or without the keys that need no value. What is assumed is that the one floating-point number
in it is printed to a text that is read as it (`RoundTrips`). Documents have no place for numbers
above `maxInteger`: a configuration with such a time limit cannot be written.

Key definitions: `Config.sections`.
Key theorems: `Config.ofEntries?_tables`, `Config.ofToml_toToml`.
-/
import Testsmith.Proofs.Config.Sections

namespace Testsmith.Config

open Toml

/-! ### The keys of the sections -/

/-- The keys of a section; for each that has a value what is written, and the value. -/
def Project.fields (p : Project) : Fields :=
  keys.zip [some (writeText p.sourceRoot.text, .text p.sourceRoot.text),
    some (writeText p.testRoot.text, .text p.testRoot.text),
    some (writeText p.testSuffix, .text p.testSuffix),
    some (writeTexts p.includePatterns, .array (p.includePatterns.map .text)),
    some (writeTexts p.excludePatterns, .array (p.excludePatterns.map .text))]

def Llm.fields (l : Llm) : Fields :=
  keys.zip [some (writeText l.provider, .text l.provider), some (writeText l.model, .text l.model),
    some (writeText l.apiKeyEnv, .text l.apiKeyEnv),
    l.baseUrl.map fun url => (writeText url, .text url),
    some (FloatLayout.pointed.write l.temperature, .float l.temperature),
    some (toString l.maxOutputTokens.toNat, .integer l.maxOutputTokens.toNat),
    some (toString l.timeoutSecs.toNat, .integer l.timeoutSecs.toNat)]

def Repair.fields (r : Repair) : Fields :=
  keys.zip [some (toString r.maxAttempts.toNat, .integer r.maxAttempts.toNat)]

def Verify.fields (v : Verify) : Fields :=
  keys.zip [some (writeTexts v.command, .array (v.command.map .text)),
    v.successMarker.map fun marker => (writeText marker, .text marker),
    some (toString v.timeoutSecs.toNat, .integer v.timeoutSecs.toNat)]

/-- The name of a policy. -/
def policyName : CollisionPolicy → String
  | .lastWins => "last-wins"
  | .error => "error"

def Symbols.fields (s : Symbols) : Fields :=
  keys.zip [some (writeText (policyName s.collision), .text (policyName s.collision))]

theorem Project.written_fields (p : Project) : written p.fields = p.entries := rfl

theorem Llm.written_fields (l : Llm) : written l.fields = l.entries := by
  obtain ⟨_, _, _, url, _, _, _⟩ := l
  cases url <;> rfl

theorem Repair.written_fields (r : Repair) : written r.fields = r.entries := rfl

theorem Verify.written_fields (v : Verify) : written v.fields = v.entries := by
  obtain ⟨_, marker, _⟩ := v
  cases marker <;> rfl

theorem Symbols.written_fields (s : Symbols) : written s.fields = s.entries := by
  obtain ⟨collision⟩ := s
  cases collision <;> rfl

/-! ### What is written states the values -/

theorem fieldStates_some {text : String} {v : Value} (h : States (depthLimit - 1) text v) :
    FieldStates (some (text, v)) := by
  intro x hx
  obtain rfl := Option.mem_some_iff.mp hx
  exact h

theorem fieldStates_text (s : String) : FieldStates (some (writeText s, .text s)) :=
  fieldStates_some (states_text _ s)

theorem fieldStates_text? (s : Option String) :
    FieldStates (s.map fun s => (writeText s, .text s)) := by
  cases s with
  | none =>
    intro x hx
    cases hx
  | some s => exact fieldStates_text s

theorem fieldStates_texts (ss : List String) :
    FieldStates (some (writeTexts ss, .array (ss.map .text))) :=
  fieldStates_some (states_texts _ ss)

theorem fieldStates_nat {n : Nat} (h : n ≤ maxInteger) :
    FieldStates (some (toString n, .integer n)) :=
  fieldStates_some (states_nat h _)

theorem fieldStates_word (n : UInt32) :
    FieldStates (some (toString n.toNat, .integer n.toNat)) :=
  fieldStates_nat (Nat.le_of_lt (Nat.lt_trans n.toNat_lt (by decide)))

theorem Project.stated (p : Project) : Stated p.fields :=
  stated_zip (by decide) (by decide) rfl (List.forall_iff_forall_mem.mp
    ⟨fieldStates_text _, fieldStates_text _, fieldStates_text _, fieldStates_texts _,
      fieldStates_texts _⟩)

theorem Llm.stated {l : Llm} (htemperature : RoundTrips l.temperature)
    (htimeout : l.timeoutSecs.toNat ≤ maxInteger) : Stated l.fields :=
  stated_zip (by decide) (by decide) rfl (List.forall_iff_forall_mem.mp
    ⟨fieldStates_text _, fieldStates_text _, fieldStates_text _, fieldStates_text? _,
      fieldStates_some (states_float htemperature _), fieldStates_word _,
      fieldStates_nat htimeout⟩)

theorem Repair.stated (r : Repair) : Stated r.fields :=
  stated_zip (by decide) (by decide) rfl (List.forall_iff_forall_mem.mp (fieldStates_word _))

theorem Verify.stated {v : Verify} (htimeout : v.timeoutSecs.toNat ≤ maxInteger) :
    Stated v.fields :=
  stated_zip (by decide) (by decide) rfl (List.forall_iff_forall_mem.mp
    ⟨fieldStates_texts _, fieldStates_text? _, fieldStates_nat htimeout⟩)

theorem Symbols.stated (s : Symbols) : Stated s.fields :=
  stated_zip (by decide) (by decide) rfl (List.forall_iff_forall_mem.mp (fieldStates_text _))

/-! ### The values are read -/

theorem fieldOr_path (usual p : Path) : fieldOr path? usual (some (.text p.text)) = some p := rfl

theorem fieldOr_text (usual s : String) : fieldOr text? usual (some (.text s)) = some s := rfl

theorem fieldOr_text? (s : Option String) :
    fieldOr (fun v => (text? v).map some) none
      ((s.map fun s => (writeText s, Value.text s)).map (·.2)) = some s := by
  cases s <;> rfl

theorem fieldOr_texts (usual ss : List String) :
    fieldOr texts? usual (some (.array (ss.map .text))) = some ss := by
  have hread : (ss.map Value.text).mapM text? = some ss := by
    induction ss with
    | nil => rfl
    | cons s ss ih =>
      rw [List.map_cons, List.mapM_cons, ih]
      rfl
  exact hread

theorem natBelow?_integer {limit n : Nat} (h : n < limit) :
    natBelow? limit (.integer n) = some n := by
  rw [natBelow?, if_pos (by simpa using h), Int.toNat_natCast]

theorem fieldOr_word (usual n : UInt32) :
    fieldOr word? usual (some (.integer n.toNat)) = some n := by
  rw [fieldOr, word?, natBelow?_integer n.toNat_lt_size, Option.map_some, UInt32.ofNat_toNat]

theorem fieldOr_longWord (usual n : UInt64) :
    fieldOr longWord? usual (some (.integer n.toNat)) = some n := by
  rw [fieldOr, longWord?, natBelow?_integer n.toNat_lt_size, Option.map_some, UInt64.ofNat_toNat]

theorem fieldOr_number (usual x : Float) : fieldOr number? usual (some (.float x)) = some x := rfl

theorem fieldOr_policy (usual p : CollisionPolicy) :
    fieldOr policy? usual (some (.text (policyName p))) = some p := by
  cases p <;> rfl

theorem Project.of?_fields (p : Project) :
    Project.of? (.table .header (values p.fields)) = some p := by
  rw [Project.of?, Project.fields, fieldsOf?_zip (by decide) rfl]
  simp [fieldOr_path, fieldOr_text, fieldOr_texts]

-- The sections with numbers are first read from any values that state their fields. With the
-- numbers in place, the kernel would count down from the limit to compare them.

theorem Llm.of?_of_fieldsOf? {v : Value} {l : Llm}
    {provider model keyName url temperature tokens timeout : Option Value}
    (hread : fieldsOf? keys v =
      some [provider, model, keyName, url, temperature, tokens, timeout])
    (hprovider : fieldOr text? ({} : Llm).provider provider = some l.provider)
    (hmodel : fieldOr text? ({} : Llm).model model = some l.model)
    (hkeyName : fieldOr text? ({} : Llm).apiKeyEnv keyName = some l.apiKeyEnv)
    (hurl : fieldOr (fun v => (text? v).map some) ({} : Llm).baseUrl url = some l.baseUrl)
    (htemperature : fieldOr number? ({} : Llm).temperature temperature = some l.temperature)
    (htokens : fieldOr word? ({} : Llm).maxOutputTokens tokens = some l.maxOutputTokens)
    (htimeout : fieldOr longWord? ({} : Llm).timeoutSecs timeout = some l.timeoutSecs) :
    Llm.of? v = some l := by
  rw [Llm.of?, hread]
  simp only [Option.bind_eq_bind, Option.bind_some, hprovider, hmodel, hkeyName, hurl, htemperature,
    htokens, htimeout]
  rfl

theorem Llm.of?_fields (l : Llm) : Llm.of? (.table .header (values l.fields)) = some l :=
  Llm.of?_of_fieldsOf? (fieldsOf?_zip (by decide) rfl _) (fieldOr_text _ _) (fieldOr_text _ _)
    (fieldOr_text _ _) (fieldOr_text? _) (fieldOr_number _ _) (fieldOr_word _ _)
    (fieldOr_longWord _ _)

theorem Repair.of?_of_fieldsOf? {v : Value} {r : Repair} {attempts : Option Value}
    (hread : fieldsOf? keys v = some [attempts])
    (hattempts : fieldOr word? ({} : Repair).maxAttempts attempts = some r.maxAttempts) :
    Repair.of? v = some r := by
  rw [Repair.of?, hread]
  simp only [Option.bind_eq_bind, Option.bind_some, hattempts]
  rfl

theorem Repair.of?_fields (r : Repair) :
    Repair.of? (.table .header (values r.fields)) = some r :=
  Repair.of?_of_fieldsOf? (fieldsOf?_zip (by decide) rfl _) (fieldOr_word _ _)

theorem Verify.of?_of_fieldsOf? {v : Value} {w : Verify} {command marker timeout : Option Value}
    (hread : fieldsOf? keys v = some [command, marker, timeout])
    (hcommand : fieldOr texts? ({} : Verify).command command = some w.command)
    (hmarker : fieldOr (fun v => (text? v).map some) ({} : Verify).successMarker marker =
      some w.successMarker)
    (htimeout : fieldOr longWord? ({} : Verify).timeoutSecs timeout = some w.timeoutSecs) :
    Verify.of? v = some w := by
  rw [Verify.of?, hread]
  simp only [Option.bind_eq_bind, Option.bind_some, hcommand, hmarker, htimeout]
  rfl

theorem Verify.of?_fields (v : Verify) :
    Verify.of? (.table .header (values v.fields)) = some v :=
  Verify.of?_of_fieldsOf? (fieldsOf?_zip (by decide) rfl _) (fieldOr_texts _ _) (fieldOr_text? _)
    (fieldOr_longWord _ _)

theorem Symbols.of?_fields (s : Symbols) :
    Symbols.of? (.table .header (values s.fields)) = some s := by
  rw [Symbols.of?, Symbols.fields, fieldsOf?_zip (by decide) rfl]
  simp [fieldOr_policy]

/-! ### Configurations -/

/-- The sections of a configuration. -/
def sections (c : Config) : List (String × Fields) :=
  [("project", c.project.fields), ("llm", c.llm.fields), ("repair", c.repair.fields),
    ("verify", c.verify.fields), ("symbols", c.symbols.fields)]

theorem ofEntries?_of_sections {es : Entries} {c : Config}
    (hproject : fieldOr Project.of? {} (es.lookup "project") = some c.project)
    (hllm : fieldOr Llm.of? {} (es.lookup "llm") = some c.llm)
    (hrepair : fieldOr Repair.of? {} (es.lookup "repair") = some c.repair)
    (hverify : fieldOr Verify.of? {} (es.lookup "verify") = some c.verify)
    (hsymbols : fieldOr Symbols.of? {} (es.lookup "symbols") = some c.symbols) :
    ofEntries? es = some c := by
  rw [ofEntries?, hproject, hllm, hrepair, hverify, hsymbols]
  rfl

theorem fieldOr_lookup {α : Type} {read : Value → Option α} {usual x : α} {key : String}
    {es : Entries} {v : Value} (hv : es.lookup key = some v) (hread : read v = some x) :
    fieldOr read usual (es.lookup key) = some x := by
  rw [hv]
  exact hread

/-- The sections of a configuration state it. -/
theorem ofEntries?_tables (c : Config) : ofEntries? (tables (sections c)) = some c :=
  ofEntries?_of_sections (fieldOr_lookup rfl (Project.of?_fields _))
    (fieldOr_lookup rfl (Llm.of?_fields _)) (fieldOr_lookup rfl (Repair.of?_fields _))
    (fieldOr_lookup rfl (Verify.of?_fields _)) (fieldOr_lookup rfl (Symbols.of?_fields _))

theorem textOf_sections (c : Config) :
    textOf (sections c) = "\n".intercalate [writeSection "project" c.project.entries,
      writeSection "llm" c.llm.entries, writeSection "repair" c.repair.entries,
      writeSection "verify" c.verify.entries, writeSection "symbols" c.symbols.entries] := by
  rw [textOf, sections]
  simp only [List.map_cons, List.map_nil, Project.written_fields, Llm.written_fields,
    Repair.written_fields, Verify.written_fields, Symbols.written_fields]

theorem isStatable_iff {n : UInt64} : isStatable n = true ↔ n.toNat ≤ maxInteger := by
  rw [isStatable, decide_eq_true_eq, maxInteger]
  omega

section Statable

variable {c : Config} (hllm : c.llm.timeoutSecs.toNat ≤ maxInteger)
  (hverify : c.verify.timeoutSecs.toNat ≤ maxInteger)

include hllm hverify

theorem toToml_of_le : c.toToml = .ok (textOf (sections c)) := by
  rw [toToml, isStatable_iff.mpr hllm, isStatable_iff.mpr hverify, textOf_sections]
  rfl

variable (htemperature : RoundTrips c.llm.temperature)

include htemperature

theorem sections_stated : ∀ s ∈ sections c, IsKey s.1 ∧ Stated s.2 := by
  have hnames : IsKey "project" ∧ IsKey "llm" ∧ IsKey "repair" ∧ IsKey "verify" ∧
    IsKey "symbols" := by decide
  obtain ⟨h1, h2, h3, h4, h5⟩ := hnames
  exact List.forall_iff_forall_mem.mp ⟨⟨h1, Project.stated _⟩,
    ⟨h2, Llm.stated htemperature hllm⟩, ⟨h3, Repair.stated _⟩, ⟨h4, Verify.stated hverify⟩,
    ⟨h5, Symbols.stated _⟩⟩

/-- What is written is read as the configuration. -/
theorem ofToml_textOf : ofToml (textOf (sections c)) = .ok c := by
  have hnames : ((sections c).map (·.1)).Nodup := by
    show ["project", "llm", "repair", "verify", "symbols"].Nodup
    decide
  have hread : Toml.parse? (textOf (sections c)) = some (tables (sections c)) :=
    parse?_sections (sections_stated hllm hverify htemperature) hnames
  rw [ofToml, hread, Option.bind_some, ofEntries?_tables]

end Statable

/-- **What is written for a configuration is read as it**, and a time limit without a place in
documents is an error. -/
theorem ofToml_toToml (c : Config) :
    (c.llm.timeoutSecs.toNat ≤ maxInteger → c.verify.timeoutSecs.toNat ≤ maxInteger →
      RoundTrips c.llm.temperature → ∃ text, c.toToml = .ok text ∧ ofToml text = .ok c) ∧
    (maxInteger < c.llm.timeoutSecs.toNat ∨ maxInteger < c.verify.timeoutSecs.toNat →
      ∃ what, c.toToml = .error (.unreadable what)) := by
  refine ⟨fun hllm hverify htemperature => ?_, fun hlarge => ?_⟩
  · exact ⟨textOf (sections c), toToml_of_le hllm hverify, ofToml_textOf hllm hverify htemperature⟩
  · refine ⟨"number too large", if_neg ?_⟩
    rw [Bool.and_eq_true, isStatable_iff, isStatable_iff]
    omega

/-- Texts with quotes of both kinds, line feeds and control characters, empty ones, lists of none,
one and several. -/
def quoted : Config where
  project := { sourceRoot := ⟨"a \"b\" 'c' \\"⟩, testSuffix := "",
               includePatterns := ["\"\"\"'''\n\x00"], excludePatterns := ["", "é\r\n\x7f"] }
  llm := { baseUrl := some "'\"", timeoutSecs := 9223372036854775807 }
  verify := { command := [], successMarker := some "\n" }

/-- The texts of `quoted` survive, and one second more cannot be written. -/
theorem ofToml_toToml_quoted :
    (quoted.llm.timeoutSecs.toNat ≤ maxInteger ∧ quoted.verify.timeoutSecs.toNat ≤ maxInteger ∧
      RoundTrips quoted.llm.temperature ∧
      ∃ text, quoted.toToml = .ok text ∧ ofToml text = .ok quoted) ∧
    ∃ what, toToml { quoted with llm := { timeoutSecs := 9223372036854775808 } } =
      .error (.unreadable what) := by
  have hllm : quoted.llm.timeoutSecs.toNat ≤ maxInteger := by decide
  have hverify : quoted.verify.timeoutSecs.toNat ≤ maxInteger := by decide
  have htemperature : RoundTrips quoted.llm.temperature := by decide +kernel
  exact ⟨⟨hllm, hverify, htemperature, (ofToml_toToml quoted).1 hllm hverify htemperature⟩,
    (ofToml_toToml _).2 (.inl (by decide))⟩

end Testsmith.Config
