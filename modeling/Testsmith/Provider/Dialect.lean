/-
# The two ways to talk to a model

Both take one message of the user and answer with texts and counts of tokens. They differ in the path,
in the headers that carry the key, and in the answer.

Key definitions: `Dialect`, `Dialect.requestBody`, `Dialect.headers`, `Dialect.readReply?`.
-/
import Testsmith.Json.Reader
import Testsmith.Repair

namespace Testsmith

/-- What a provider understands. -/
inductive Dialect
  /-- A chat is completed. -/
  | chat
  /-- A message is answered. -/
  | messages
  deriving DecidableEq, Repr

namespace Dialect

/-- Where requests go, under the address of the provider. -/
def path : Dialect → String
  | chat => "/v1/chat/completions"
  | messages => "/v1/messages"

/-- The temperature that is asked for: messages know none above 1. -/
def temperature (d : Dialect) (t : Float) : Float :=
  match d with
  | chat => t
  | messages => if t ≤ 1 then t else 1

/-- The text of a request. -/
def requestBody (d : Dialect) (model prompt : String) (options : GenerationOptions) : String :=
  (Json.object [
    ("model", .text model),
    ("max_tokens", .natural options.maxOutputTokens),
    ("temperature", .float (d.temperature options.temperature)),
    ("messages", .array [.object [("role", .text "user"), ("content", .text prompt)]])]).compact

/-- The headers of a request, with the key. -/
def headers (d : Dialect) (key : String) : List (String × String) :=
  (match d with
    | chat => [("authorization", "Bearer " ++ key)]
    | messages => [("x-api-key", key), ("anthropic-version", "2023-06-01")]) ++
  [("content-type", "application/json")]

/-! ### Answers -/

/-- A count of at most 64 bits. -/
def readCount? : Option Json → Option Nat
  | some (.integer (.ofNat n)) => if n < UInt64.size then some n else none
  | _ => none

/-- Two counts under the given keys. -/
def readUsage? (input output : String) (v : Json) : Option TokenUsage :=
  match v.fields? [input, output] with
  | some [i, o] => do return ⟨← readCount? i, ← readCount? o⟩
  | _ => none

/-- The text of one choice. It may be missing. -/
def readChoice? (v : Json) : Option String :=
  match v.fields? ["message"] with
  | some [some message] =>
    match message.fields? ["content"] with
    | some [some (.text s)] => some s
    | some [some .null] | some [none] => some ""
    | _ => none
  | _ => none

/-- A completed chat: the first choice counts. The usage may be missing. -/
def readChat? (v : Json) : Option Reply :=
  match v.fields? ["choices", "usage"] with
  | some [some (.array choices), usage] => do
    let texts ← choices.mapM readChoice?
    let usage ←
      match usage with
      | none | some .null => some .zero
      | some u => readUsage? "prompt_tokens" "completion_tokens" u
    return ⟨texts.head?.getD "", usage⟩
  | _ => none

/-- One piece of an answer. A piece that is no text adds nothing. -/
def readPiece? (v : Json) : Option String :=
  match v.fields? ["text"] with
  | some [some (.text s)] => some s
  | some [none] => some ""
  | _ => none

/-- An answered message: all its pieces count. -/
def readMessage? (v : Json) : Option Reply :=
  match v.fields? ["content", "usage"] with
  | some [some (.array pieces), some usage] => do
    return ⟨String.join (← pieces.mapM readPiece?), ← readUsage? "input_tokens" "output_tokens" usage⟩
  | _ => none

/-- The reply in the body of a response. -/
def readReply? (d : Dialect) (body : ByteArray) : Option Reply := do
  let v ← Json.parse? (← String.fromUTF8? body)
  match d with
  | chat => readChat? v
  | messages => readMessage? v

end Dialect

end Testsmith
