/-
# Addresses

Addresses as browsers read them: blanks around one do not count, steps in its path are resolved, what
may not stand in it is escaped. An address is complete in itself; one that needs another to start
from is none.

Key definitions: `Url`, `Url.parse?`, `Url.text`, `Url.hasHost`, `Url.isWeb`.
-/
import Testsmith.Url.Host

namespace Testsmith

structure Url where
  scheme : String
  /-- The user and password. -/
  user : Option String := none
  host : Option Url.Host := none
  /-- The port, unless it is the usual one. -/
  port : Option Nat := none
  path : String
  query : Option String := none
  fragment : Option String := none
  deriving DecidableEq, Repr

namespace Url

/-- The port of a scheme of the web. -/
def usualPort? (scheme : String) : Option Nat :=
  if scheme == "http" || scheme == "ws" then some 80
  else if scheme == "https" || scheme == "wss" then some 443
  else if scheme == "ftp" then some 21
  else none

/-- In these schemes a backslash is a slash. -/
def isSpecial (scheme : String) : Bool := (usualPort? scheme).isSome || scheme == "file"

def isSeparator (special : Bool) (c : Char) : Bool := c = '/' || special && c = '\\'

/-- Where the authority ends. -/
def endsAuthority (special : Bool) (c : Char) : Bool :=
  isSeparator special c || c = '?' || c = '#'

/-- The scheme, in lower case, and what follows its colon. -/
def splitScheme? (cs : List Char) : Option (String × List Char) :=
  let inScheme (c : Char) := c.isAlphanum || c = '+' || c = '-' || c = '.'
  match cs, cs.dropWhile inScheme with
  | c :: _, ':' :: rest =>
    if c.isAlpha then some (String.ofList ((cs.takeWhile inScheme).map Char.toLower), rest) else none
  | _, _ => none

/-- The text before the last one of a character, if there is one, and after it. -/
def splitLast (c : Char) (cs : List Char) : Option (List Char) × List Char :=
  let back := (cs.reverse.takeWhile (· != c)).reverse
  if back.length = cs.length then (none, cs) else (some (cs.take (cs.length - back.length - 1)), back)

/-- The host and the port after it. A colon in brackets belongs to the host. -/
def splitPort (cs : List Char) : List Char × List Char :=
  match splitLast ':' cs with
  | (none, host) => (host, [])
  | (some host, port) => if port.contains ']' then (cs, []) else (host, port)

/-- The port in a text, unless it is the usual one. -/
def port? (scheme : String) (cs : List Char) : Option (Option Nat) :=
  if cs.isEmpty then some none
  else if !cs.all Char.isDigit then none
  else
    match numberIn? 10 cs with
    | some n =>
      if 65535 < n then none else some (if usualPort? scheme = some n then none else some n)
    | none => none

/-! ### Paths -/

/-- The steps through a path. The last one ends it and is no directory. -/
def steps (special : Bool) (cs : List Char) : List (List Char) :=
  pieces '/' (if special then cs.map fun c => if c = '\\' then '/' else c else cs)

/-- A point may be escaped. -/
def unescapeStep (step : List Char) : String :=
  (String.ofList (step.map Char.toLower)).replace "%2e" "."

/-- The steps taken one after another, `done` being those before, last first. -/
def resolveSteps : (done : List (List Char)) → List (List Char) → List (List Char)
  | done, [] => done.reverse
  | done, step :: more =>
    let plain := unescapeStep step
    if plain == ".." then
      resolveSteps (if more.isEmpty then [] :: done.drop 1 else done.drop 1) more
    else if plain == "." then resolveSteps (if more.isEmpty then [] :: done else done) more
    else resolveSteps (escape .path step :: done) more

/-- The text of a path that starts with a separator. -/
def pathText (special : Bool) (cs : List Char) : String :=
  String.ofList ((resolveSteps [] (steps special (cs.drop 1))).flatMap ('/' :: ·))

/-! ### Addresses -/

/-- The query and the fragment that begin a text. -/
def readEnd (scheme : String) (u : Url) (cs : List Char) : Url :=
  let (front, fragment) :=
    (cs.takeWhile (· != '#'), (cs.dropWhile (· != '#')))
  { u with
    query := if front.isEmpty then none else
      some (String.ofList (escape (if isSpecial scheme then .webQuery else .query) (front.drop 1)))
    fragment := if fragment.isEmpty then none else
      some (String.ofList (escape .fragment (fragment.drop 1))) }

/-- The path, the query and the fragment after the rest. -/
def readPath (u : Url) (cs : List Char) : Url :=
  let special := isSpecial u.scheme
  let inPath (c : Char) := c != '?' && c != '#'
  let path := cs.takeWhile inPath
  let text := if path.isEmpty && !special then "" else
    pathText special (match path with
      | c :: _ => if isSeparator special c then path else '/' :: path
      | [] => ['/'])
  readEnd u.scheme { u with path := text } (cs.dropWhile inPath)

/-- An address with an authority. -/
def readAuthority? (scheme : String) (cs : List Char) : Option Url := do
  let special := isSpecial scheme
  let authority := cs.takeWhile fun c => !endsAuthority special c
  let (user, address) := splitLast '@' authority
  let (host, port) := splitPort address
  let port ← port? scheme port
  let host ← if special then Host.parse? host else Host.parseOther? host
  return readPath
    { scheme, user := user.map String.ofList, host := some host, port, path := "" }
    (cs.dropWhile fun c => !endsAuthority special c)

/-- An address of a file. -/
def readFile? (cs : List Char) : Option Url :=
  match cs with
  | a :: b :: rest =>
    if isSeparator true a && isSeparator true b then do
      let authority := rest.takeWhile fun c => !endsAuthority true c
      let after := rest.dropWhile fun c => !endsAuthority true c
      if authority.isEmpty then return readPath { scheme := "file", path := "" } after
      else
        let host ← Host.parse? authority
        let host := if host = .name "localhost" then none else some host
        return readPath { scheme := "file", host, path := "" } after
    else some (readPath { scheme := "file", path := "" } cs)
  | _ => some (readPath { scheme := "file", path := "" } cs)

/-- An address without an authority, of a scheme of which nothing is known. -/
def readOther (scheme : String) (cs : List Char) : Url :=
  match cs with
  | '/' :: _ => readPath { scheme, path := "" } cs
  | _ =>
    let inPath (c : Char) := c != '?' && c != '#'
    readEnd scheme { scheme, path := String.ofList (escape .opaquePath (cs.takeWhile inPath)) }
      (cs.dropWhile inPath)

/-- The text without what does not count in an address. -/
def clean (cs : List Char) : List Char :=
  let blank (c : Char) := c ≤ ' '
  (((cs.dropWhile blank).reverse.dropWhile blank).reverse).filter
    fun c => c != '\t' && c != '\n' && c != '\r'

/-- The address in a text. -/
def parse? (s : String) : Option Url := do
  let (scheme, rest) ← splitScheme? (clean s.toList)
  if scheme == "file" then readFile? rest
  else if isSpecial scheme then readAuthority? scheme (rest.dropWhile (isSeparator true))
  else
    match rest with
    | '/' :: '/' :: rest => readAuthority? scheme rest
    | rest => return readOther scheme rest

/-- The text of an address. Users and passwords are not shown. -/
def text (u : Url) : String :=
  let authority :=
    match u.host with
    | some host => "//" ++ host.text ++ (u.port.map fun n => ":" ++ toString n).getD ""
    | none => if u.scheme == "file" then "//" else ""
  u.scheme ++ ":" ++ authority ++ u.path ++ (u.query.map ("?" ++ ·)).getD "" ++
    (u.fragment.map ("#" ++ ·)).getD ""

/-- The address names a host. -/
def hasHost (u : Url) : Bool :=
  match u.host with
  | some (.name s) => !s.isEmpty
  | some _ => true
  | none => false

/-- Requests can be sent there. -/
def isWeb (u : Url) : Bool := u.scheme == "http" || u.scheme == "https"

/-- What a request asks for there. -/
def target (u : Url) : String := u.path ++ (u.query.map ("?" ++ ·)).getD ""

end Url

end Testsmith
