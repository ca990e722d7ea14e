/-
# TOML documents

Values as a document states them. A table remembers how it came to be, since that decides whether
later parts of the document may add to it.

Key definitions: `Toml.TableForm`, `Toml.Value`, `Toml.Entries`, `Toml.insertAt`, `Toml.openTable`,
`Toml.appendTable`.
-/

namespace Testsmith.Toml

/-- How a table came to be. -/
inductive TableForm
  /-- Written in braces: nothing may be added. -/
  | inline
  /-- Opened by a header of its own. -/
  | header
  /-- Stands on the path of a header, and has none of its own yet. -/
  | implied
  /-- Stands on the path of a key with points. -/
  | dotted
  deriving DecidableEq, Repr

inductive Value
  | text (s : String)
  | integer (n : Int)
  | float (x : Float)
  | boolean (b : Bool)
  /-- A date or a time of day, or both. -/
  | moment
  | array (elements : List Value)
  | table (form : TableForm) (entries : List (String × Value))
  /-- The tables opened by headers in double brackets. -/
  | tables (members : List (List (String × Value)))

/-- The entries of a table, in order. -/
abbrev Entries := List (String × Value)

/-- The entries with the value for the key, in its old place if it had one. -/
def assign (key : String) (value : Value) : Entries → Entries
  | [] => [(key, value)]
  | e :: es => if e.1 = key then (key, value) :: es else e :: assign key value es

/-- Changes the table that a path leads to. Missing tables on the path are made with the form `fresh`.
A path of points (`fresh` is `dotted`) leads through no table that has a header or braces; another
path leads through the last of the tables of a name. -/
def changeAt (fresh : TableForm) (change : TableForm → Entries → Option Entries) :
    (path : List String) → TableForm → Entries → Option Entries
  | [], form, es => change form es
  | key :: path, _, es =>
    match es.lookup key with
    | none => do
      let inner ← changeAt fresh change path fresh []
      return assign key (.table fresh inner) es
    | some (.table form inner) =>
      if form = .inline || (fresh = .dotted && form = .header) then none
      else do
        let inner ← changeAt fresh change path form inner
        return assign key (.table form inner) es
    | some (.tables members) => do
      let last ← members.getLast?
      let inner ← changeAt fresh change path .header last
      return assign key (.tables (members.dropLast ++ [inner])) es
    | some _ => none

/-- Adds a key with points to a table. A table that is reached by points must have come to be so, and
no key is stated twice. -/
def insertAt (path : List String) (key : String) (value : Value) (es : Entries) : Option Entries :=
  changeAt .dotted (fun form es =>
    if path.isEmpty == (form == .dotted) then none
    else if (es.lookup key).isSome then none
    else some (es ++ [(key, value)])) path .header es

/-- The document with a table opened by a header. -/
def openTable (path : List String) (key : String) (root : Entries) : Option Entries :=
  changeAt .implied (fun _ es =>
    match es.lookup key with
    | none => some (es ++ [(key, .table .header [])])
    | some (.table .implied inner) => some (assign key (.table .header inner) es)
    | some _ => none) path .header root

/-- The document with a table opened by a header in double brackets. -/
def appendTable (path : List String) (key : String) (root : Entries) : Option Entries :=
  changeAt .implied (fun _ es =>
    match es.lookup key with
    | none => some (es ++ [(key, .tables [[]])])
    | some (.tables members) => some (assign key (.tables (members ++ [[]])) es)
    | some _ => none) path .header root

/-- Adds a key to the table that a header opened. -/
def insertUnder (header path : List String) (key : String) (value : Value) (root : Entries) :
    Option Entries :=
  changeAt .implied (fun _ es => insertAt path key value es) header .header root

end Testsmith.Toml
