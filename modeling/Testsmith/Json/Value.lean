/-
# JSON

Values, and their texts in one line or indented. Objects keep the order of their entries.

Key definitions: `Json`, `Json.compact`, `Json.pretty`.
-/
import Testsmith.Decimal.Layout
import Testsmith.Text.Hex

namespace Testsmith

inductive Json
  | null
  | boolean (b : Bool)
  | integer (n : Int)
  | float (x : Float)
  | text (s : String)
  | array (elements : List Json)
  | object (entries : List (String × Json))

namespace Json

instance : Inhabited Json := ⟨null⟩

def texts (ss : List String) : Json := array (ss.map text)

def natural (n : Nat) : Json := integer n

/-- The value in an option, or null. -/
def ofOption {α : Type} (f : α → Json) (o : Option α) : Json := (o.map f).getD null

/-- A character inside a text. -/
def escapeChar (c : Char) : List Char :=
  if c = '"' then ['\\', '"']
  else if c = '\\' then ['\\', '\\']
  else if c = '\n' then ['\\', 'n']
  else if c = '\r' then ['\\', 'r']
  else if c = '\t' then ['\\', 't']
  else if c = '\x08' then ['\\', 'b']
  else if c = '\x0c' then ['\\', 'f']
  else if c < ' ' then ['\\', 'u', '0', '0', Text.hexDigit (c.toNat / 16), Text.hexDigit c.toNat]
  else [c]

/-- A text in quotes. -/
def quote (s : String) : String := "\"" ++ String.ofList (s.toList.flatMap escapeChar) ++ "\""

/-- A number with a point or an exponent. What is no number is null. -/
def number (x : Float) : String :=
  match FloatParts.of x with
  | .finite .. => FloatLayout.scientific.write x
  | _ => "null"

/-- Values in brackets, with commas between. -/
def bracket (opening closing : String) (members : List String) : String :=
  opening ++ ",".intercalate members ++ closing

mutual

/-- The text of a value, without spaces. -/
def compact : Json → String
  | null => "null"
  | boolean b => if b then "true" else "false"
  | integer n => toString n
  | float x => number x
  | text s => quote s
  | array vs => bracket "[" "]" (compactAll vs)
  | object es => bracket "\x7b" "\x7d" (compactEntries es)

def compactAll : List Json → List String
  | [] => []
  | v :: vs => v.compact :: compactAll vs

def compactEntries : List (String × Json) → List String
  | [] => []
  | (k, v) :: es => (quote k ++ ":" ++ v.compact) :: compactEntries es

end

/-- Values in brackets, each in a line of its own. `indent` is the line ending with the indentation of
the brackets. -/
def bracketLines (indent opening closing : String) (members : List String) : String :=
  if members.isEmpty then opening ++ closing
  else opening ++ indent ++ "  " ++ ("," ++ indent ++ "  ").intercalate members ++ indent ++ closing

mutual

/-- The text of a value over several lines. -/
def prettyAt (indent : String) : Json → String
  | array vs => bracketLines indent "[" "]" (prettyAll (indent ++ "  ") vs)
  | object es => bracketLines indent "\x7b" "\x7d" (prettyEntries (indent ++ "  ") es)
  | v => v.compact

def prettyAll (indent : String) : List Json → List String
  | [] => []
  | v :: vs => v.prettyAt indent :: prettyAll indent vs

def prettyEntries (indent : String) : List (String × Json) → List String
  | [] => []
  | (k, v) :: es => (quote k ++ ": " ++ v.prettyAt indent) :: prettyEntries indent es

end

/-- The text of a value over several lines, indented by two spaces a level. -/
def pretty (v : Json) : String := v.prettyAt "\n"

end Json

end Testsmith
