/-
# Choosing lines and files

Lines are chosen by expressions, and files by their names and kinds.

Key definitions: `Shell.selectLines`, `Shell.walk`, `Shell.findFiles`.
-/
import Testsmith.Shell.Regex
import Testsmith.Shell.Source

namespace Testsmith.Shell

/-! ### Files -/

/-- What is at a location and below it, each with the text of its path and its depth. A directory is
before what is in it. -/
def walk (t : FileTree) : (bound : Nat) → (depth : Nat) → (path : String) → Location →
    List (String × Location × Nat)
  | 0, _, _, _ => []
  | bound + 1, depth, path, l =>
    let front := if path.endsWith "/" then path else path ++ "/"
    (path, l, depth) :: (t.childNames l).flatMap fun name =>
      walk t bound (depth + 1) (front ++ name) (l ++ [name])

/-- What is at a path and below it. -/
def walkFrom (s : State) (path : String) : List (String × Location × Nat) :=
  match s.tree.find (s.path path) with
  | .ok (l, _) => walk s.tree (s.tree.entries.length + 1) 0 path l
  | .error _ => []

/-- The last name in a path. -/
def nameIn (path : String) : String := (path.splitOn "/").getLast?.getD path

def fitsText (pattern text : String) : Bool :=
  fits (pattern.toList.map (⟨·, false⟩)) text.toList

/-- The conditions on a file: all have to hold. -/
def admits (t : FileTree) (bound : Nat) (path : String) (l : Location) (depth : Nat) :
    List String → Except String Bool :=
  go bound
where
  go : (bound : Nat) → List String → Except String Bool
    | 0, _ | _, [] => .ok true
    | bound + 1, "!" :: rest | bound + 1, "-not" :: rest => do
      let one ← go bound (rest.take 2)
      return !one && (← go bound (rest.drop 2))
    | bound + 1, "-print" :: rest => go bound rest
    | bound + 1, "-empty" :: rest => do
      let isEmpty :=
        match t.node? l with
        | some (.file content) => content.size = 0
        | _ => (t.childNames l).isEmpty
      return isEmpty && (← go bound rest)
    | bound + 1, op :: value :: rest => do
      let here ←
        match op with
        | "-name" => .ok (fitsText value (nameIn path))
        | "-iname" => .ok (fitsText value.toLower (nameIn path).toLower)
        | "-path" => .ok (fitsText value path)
        | "-type" => .ok ((value = "d") = ((t.node? l).any (· == .directory)))
        | "-maxdepth" => .ok (depth ≤ value.toNat?.getD 0)
        | "-mindepth" => .ok (value.toNat?.getD 0 ≤ depth)
        | _ => .error ("find: unknown predicate '" ++ op ++ "'")
      return here && (← go bound rest)
    | _, [op] => .error ("find: missing argument to '" ++ op ++ "'")

/-- Writes the paths of the files that meet some conditions. -/
def findFiles : Utility := fun args s =>
  let starts := args.takeWhile fun a => !a.startsWith "-" && a ≠ "!" && a ≠ "("
  let conditions := args.drop starts.length
  let starts := if starts.isEmpty then ["."] else starts
  let complaints := starts.filterMap fun start =>
    match s.tree.find (s.path start) with
    | .ok _ => none
    | .error e => some ("find: '" ++ start ++ "': " ++ e.reason)
  let deleting := conditions.contains "-delete"
  let conditions := conditions.filter (· ≠ "-delete")
  let chosen : Except String (List (String × Location × Nat)) :=
    (starts.flatMap (walkFrom s)).filterM fun (path, l, depth) =>
      admits s.tree (conditions.length + 1) path l depth conditions
  match chosen with
  | .error text => s.complain 1 text
  | .ok found =>
    if deleting then
      let tree := ((found.map (·.2.1)).filter (!·.isEmpty)).foldl FileTree.prune s.tree
      { s with tree }.answer .empty 1 complaints
    else s.answer (unlines (found.map (·.1))) 1 complaints

/-! ### Lines -/

def isWordChar (c : Char) : Bool := c.isAlphanum || c = '_'

/-- An expression for a text that stands for itself. -/
def literalRegex (text : String) : Regex :=
  text.toList.foldr (fun c e => .seq (.literal c) e) .empty

/-- What the options of a call search for. -/
def searchOf? (c : Call) (patterns : List String) : Option Search := do
  let texts := patterns.flatMap (·.splitOn "\n")
  let expressions ←
    if c.has 'F' then pure (texts.map literalRegex) else texts.mapM (Regex.read? (c.has 'E'))
  let counts (before : List Char) (p : Regex.Place) : Bool :=
    if c.has 'x' then before.isEmpty && p.rest.isEmpty
    else if c.has 'w' then
      !before.head?.any isWordChar && !p.rest.head?.any isWordChar
    else true
  return { expressions, fold := if c.has 'i' || c.has 'y' then Char.toLower else id, counts }

/-- What is written of one file, and whether lines were chosen. -/
def chosenFrom (c : Call) (q : Search) (headed : Bool) (f : Source) : List String × Bool :=
  let name := if f.name = "-" then "(standard input)" else f.name
  let chosen := (f.lines.mapIdx fun i l => (i + 1, l)).filter fun (_, l) =>
    q.isIn l.toList != c.has 'v'
  let chosen :=
    match (c.value? 'm').bind String.toNat? with
    | some most => chosen.take most
    | none => chosen
  let front := if headed then name ++ ":" else ""
  let row (n : Nat) (text : String) : String :=
    front ++ (if c.has 'n' then toString n ++ ":" else "") ++ text
  let any := !chosen.isEmpty
  if c.has 'q' then ([], any)
  else if c.has 'l' then (if any then [name] else [], any)
  else if c.has 'L' then (if any then [] else [name], any)
  else if c.has 'c' then ([front ++ toString chosen.length], any)
  else if c.has 'o' then
    (if c.has 'v' then []
      else chosen.flatMap fun (n, l) =>
        (q.allIn (l.length + 1) [] l.toList).map fun found => row n (String.ofList found), any)
  else (chosen.map fun (n, l) => row n l, any)

/-- Writes the lines that have a match. `extra` is an option that is always set. -/
def selectLines (extra : Option Char) : Utility := fun args s =>
  let c := Call.ofArguments "emABC" args true
  let c := extra.elim c (c.withOption · "")
  let (patterns, operands) :=
    match c.values 'e' with
    | [] => (c.operands.take 1, c.operands.drop 1)
    | patterns => (patterns, c.operands)
  if patterns.isEmpty then 
    s.complain 2
      "Usage: grep [OPTION]... PATTERNS [FILE]...\nTry 'grep --help' for more information."
  else
    match searchOf? c patterns with
    | none => s.complain 2 "grep: Invalid regular expression"
    | some q =>
      let deep := c.has 'r' || c.has 'R'
      let shown (path : String) : String :=
        if operands.isEmpty then String.ofList (path.toList.drop 2) else path
      let files :=
        if deep then
          (if operands.isEmpty then ["."] else operands).flatMap fun name =>
            if s.tree.hasDirectory (s.path name) then
              ((walkFrom s name).filter fun (_, l, _) => s.tree.node? l != some .directory).map
                fun (path, _, _) => shown path
            else [name]
        else operands
      let headed := (files.length > 1 || deep || c.has 'H') && !c.has 'h'
      let (found, complaints, s) :=
        if deep && files.isEmpty then ([], [], s)
        else
          readSources (fun name reason => "grep: " ++ name ++ ": " ++ reason) files s
      let complaints := if c.has 's' then [] else complaints
      let parts := found.map (chosenFrom c q headed)
      let any := parts.any (·.2)
      let status := if any && (c.has 'q' || complaints.isEmpty) then 0
        else if !complaints.isEmpty || found.length < files.length then 2 else 1
      let e := s.answer (unlines (parts.flatMap (·.1))) 2 complaints
      { e with state := { e.state with status } }

/-- The programs that choose lines or files. -/
def selection? : String → Option Utility
  | "grep" => some (selectLines none)
  | "egrep" => some (selectLines (some 'E'))
  | "fgrep" => some (selectLines (some 'F'))
  | "find" => some findFiles
  | _ => none

end Testsmith.Shell
