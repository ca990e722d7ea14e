/-
# Providers

Who writes the code: a model behind an address, with the key that opens it. Three providers are known
by name, and any address may be given under a fourth.

Key definitions: `Provider`, `Provider.create`, `Provider.request`, `Provider.generate`.
-/
import Testsmith.Http
import Testsmith.Provider.Dialect
import Testsmith.Text.Utf8

namespace Testsmith

structure Provider where
  name : String
  dialect : Dialect
  /-- The address, without slashes at its end. -/
  baseUrl : String
  model : String
  key : String
  deriving DecidableEq, Repr

namespace Provider

/-- The dialect and the usual address of a provider. -/
def known? (name : String) : Option (Dialect × Option String) :=
  if name == "groq" then some (.chat, some "https://api.groq.com/openai")
  else if name == "openai" then some (.chat, some "https://api.openai.com")
  else if name == "anthropic" then some (.messages, some "https://api.anthropic.com")
  else if name == "custom" then some (.chat, none)
  else none

def withoutSlashes (url : String) : String :=
  String.ofList (url.toList.reverse.dropWhile (· = '/')).reverse

/-- The provider of a name. An address that is given goes before the usual one. -/
def create (name model key : String) (baseUrl : Option String) : Except GenerationError Provider :=
  match known? name with
  | none => .error (.config ("Unknown provider: " ++ name ++ ". Use: groq, openai, anthropic, custom"))
  | some (dialect, usual) =>
    match (baseUrl.map withoutSlashes).or usual with
    | some url => .ok ⟨name, dialect, url, model, key⟩
    | none => .error (.config ("provider \"" ++ name ++ "\" requires llm.base_url"))

/-- The request for a prompt. -/
def request (p : Provider) (options : GenerationOptions) (prompt : String) :
    Except Http.Fault Http.Request :=
  Http.Request.create (p.baseUrl ++ p.dialect.path) (p.dialect.headers p.key)
    (p.dialect.requestBody p.model prompt options)

/-- The reply in a response. -/
def readResponse (p : Provider) (r : Http.Response) : Except GenerationError Reply :=
  if r.isSuccess then
    match p.dialect.readReply? r.body with
    | some reply => .ok reply
    | none => .error (.unreadable "error decoding response body")
  else .error (.api r.status (Text.decodeLossy r.body))

variable {σ : Type}

/-- Asks the provider over a transport. -/
def generate (p : Provider) (transport : Http.Transport σ) (options : GenerationOptions)
    (prompt : String) (s : σ) : Except GenerationError Reply × σ :=
  match Http.send transport (p.request options prompt) s with
  | (.error e, s) => (.error (.network e.message), s)
  | (.ok response, s) => (p.readResponse response, s)

end Provider

end Testsmith
