/-
# Requests over a network

A request is put together first, which fails for an address or a header that cannot be sent, and then
given to a transport. A transport may keep a state of its own, so that it stands for every server,
also for one that does not answer.

Key definitions: `Http.Request`, `Http.Response`, `Http.Transport`, `Http.Fault`,
`Http.Request.create`, `Http.send`.
-/
import Testsmith.Url.Basic

namespace Testsmith.Http

/-- A request that sends a text. -/
structure Request where
  url : Url
  headers : List (String × String)
  body : String
  deriving DecidableEq, Repr

/-- The line that opens a request. -/
def Request.line (r : Request) : String := "POST " ++ r.url.target ++ " HTTP/1.1"

structure Response where
  status : Nat
  body : ByteArray

/-- The request was done. -/
def Response.isSuccess (r : Response) : Bool := 200 ≤ r.status && r.status < 300

/-- What carries a request and brings the response, or nothing if nobody answers. -/
abbrev Transport (σ : Type) := Request → σ → Option Response × σ

/-- Why there is no response. -/
inductive Fault
  /-- The address is none, or a header holds what no header may hold. -/
  | malformed
  /-- No request can be sent to the address. -/
  | unusable (url : Url)
  /-- Nobody answers. -/
  | unanswered (url : Url)
  deriving DecidableEq, Repr

def Fault.message : Fault → String
  | malformed => "builder error"
  | unusable url => "builder error for url (" ++ url.text ++ ")"
  | unanswered url => "error sending request for url (" ++ url.text ++ ")"

/-- A header may hold the character: no control character but the tab. -/
def isHeaderChar (c : Char) : Bool := (' ' ≤ c && c != '\x7f') || c = '\t'

/-- A request to an address. -/
def Request.create (address : String) (headers : List (String × String)) (body : String) :
    Except Fault Request :=
  match Url.parse? address with
  | none => .error .malformed
  | some url =>
    if !url.hasHost then .error (.unusable url)
    else if !headers.all fun h => h.2.toList.all isHeaderChar then .error .malformed
    else if !url.isWeb then .error (.unusable url)
    else .ok ⟨url, headers, body⟩

variable {σ : Type}

/-- The response to a request. -/
def send (transport : Transport σ) (request : Except Fault Request) (s : σ) :
    Except Fault Response × σ :=
  match request with
  | .error e => (.error e, s)
  | .ok r =>
    match transport r s with
    | (some response, s) => (.ok response, s)
    | (none, s) => (.error (.unanswered r.url), s)

/-- The transport that reaches nobody. -/
def unreachable : Transport σ := fun _ s => (none, s)

end Testsmith.Http
