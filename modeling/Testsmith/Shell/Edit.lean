/-
# Editing lines

A program of rules is applied to each line: a rule has an address, which says for which lines it
counts, and an action.

Key definitions: `Shell.Address`, `Shell.Action`, `Shell.Rule`, `Shell.Rule.readAll?`,
`Shell.Rule.applyAll`, `Shell.editLines`.
-/
import Testsmith.Shell.Regex
import Testsmith.Shell.Source

namespace Testsmith.Shell

/-- The lines that a rule counts for. -/
inductive Address
  | line (n : Nat)
  | last
  | search (q : Search)

inductive Action
  /-- Matches are replaced from one on, all of them or one, and the line may be written. -/
  | substitute (q : Search) (text : List Char) (first : Nat) (every shown : Bool)
  | delete
  | print
  | quit
  | lineNumber
  /-- Characters take the places of others. -/
  | transliterate (pairs : List (Char × Char))
  | append (text : String)
  | insert (text : String)
  | change (text : String)

structure Rule where
  start : Option Address
  /-- The rule counts from its start to this. -/
  stop : Option Address
  negated : Bool
  action : Action

/-! ### Reading -/

/-- The text up to a mark, in which a backslash before the mark is left out, and what follows. -/
def readUpTo (mark : Char) : List Char → Option (List Char × List Char)
  | [] => none
  | '\\' :: c :: cs =>
    (readUpTo mark cs).map fun (text, rest) => ((if c = mark then [c] else ['\\', c]) ++ text, rest)
  | c :: cs => if c = mark then some ([], cs) else (readUpTo mark cs).map fun (t, r) => (c :: t, r)

/-- The search for an expression. -/
def searchFor? (extended folded : Bool) (text : List Char) : Option Search :=
  (Regex.read? extended (String.ofList text)).map fun e =>
    { expressions := [e], fold := if folded then Char.toLower else id }

def isBlankChar (c : Char) : Bool := c = ' ' || c = '\t'

/-- An address, if there is one, and what follows. -/
def readAddress (extended : Bool) (cs : List Char) : Option (Option Address × List Char) :=
  match cs with
  | '$' :: cs => some (some .last, cs)
  | '/' :: cs => withMark '/' cs
  | '\\' :: c :: cs => withMark c cs
  | cs =>
    let digits := cs.takeWhile Char.isDigit
    some ((String.ofList digits).toNat?.map .line, cs.drop digits.length)
where
  withMark (mark : Char) (cs : List Char) : Option (Option Address × List Char) := do
    let (text, rest) ← readUpTo mark cs
    let folded := rest.head? = some 'I'
    let q ← searchFor? extended folded text
    return (some (.search q), if folded then rest.drop 1 else rest)

/-- The rest of a substitution, after its mark. -/
def readSubstitution (extended : Bool) (mark : Char) (cs : List Char) :
    Option (Action × List Char) := do
  let (pattern, cs) ← readUpTo mark cs
  let (text, cs) ← readUpTo mark cs
  let flags := cs.takeWhile fun c => c.isDigit || ['g', 'p', 'i', 'I'].contains c
  let q ← searchFor? extended (flags.contains 'i' || flags.contains 'I') pattern
  let first := (String.ofList (flags.filter Char.isDigit)).toNat?.getD 1
  return (.substitute q text first (flags.contains 'g') (flags.contains 'p'), cs.drop flags.length)

/-- The text of an action, to the end of its line. -/
def readRestOfLine (cs : List Char) : String × List Char :=
  let cs := cs.dropWhile isBlankChar
  let cs :=
    match cs with
    | '\\' :: '\n' :: cs => cs
    | '\\' :: cs => cs
    | cs => cs
  (String.ofList (cs.takeWhile (· != '\n')), cs.dropWhile (· != '\n'))

/-- An action, and what follows. -/
def readAction (extended : Bool) : List Char → Option (Action × List Char)
  | 's' :: mark :: cs => readSubstitution extended mark cs
  | 'y' :: mark :: cs => do
    let (a, cs) ← readUpTo mark cs
    let (b, cs) ← readUpTo mark cs
    if a.length = b.length then some (.transliterate (a.zip b), cs) else none
  | 'd' :: cs => some (.delete, cs)
  | 'p' :: cs => some (.print, cs)
  | 'q' :: cs => some (.quit, cs)
  | '=' :: cs => some (.lineNumber, cs)
  | 'a' :: cs => let (text, cs) := readRestOfLine cs; some (.append text, cs)
  | 'i' :: cs => let (text, cs) := readRestOfLine cs; some (.insert text, cs)
  | 'c' :: cs => let (text, cs) := readRestOfLine cs; some (.change text, cs)
  | _ => none

namespace Rule

/-- The rules of a program. -/
def readAll? (extended : Bool) : (bound : Nat) → List Char → Option (List Rule)
  | 0, _ => none
  | bound + 1, cs =>
    match cs.dropWhile fun c => isBlankChar c || c = ';' || c = '\n' with
    | [] => some []
    | '#' :: cs => readAll? extended bound (cs.dropWhile (· != '\n'))
    | cs => do
      let (start, cs) ← readAddress extended cs
      let (stop, cs) ←
        match cs with
        | ',' :: cs => readAddress extended (cs.dropWhile isBlankChar)
        | cs => some (none, cs)
      let marks := cs.takeWhile fun c => isBlankChar c || c = '!'
      let (action, rest) ← readAction extended (cs.drop marks.length)
      let rule : Rule := ⟨start, stop, marks.contains '!', action⟩
      match rest.dropWhile isBlankChar with
      | [] => return [rule]
      | c :: rest =>
        if c = ';' || c = '\n' || c = '#' then
          return rule :: (← readAll? extended bound (c :: rest))
        else none

/-! ### Applying -/

/-- A line that rules are applied to. -/
structure Cycle where
  space : List Char
  /-- What is written before the line. -/
  written : List String := []
  /-- What is written after the line. -/
  appended : List String := []
  deleted : Bool := false
  stopped : Bool := false

/-- The address is that of a line. -/
def isAt (n : Nat) (isLast : Bool) (space : List Char) : Address → Bool
  | .line m => m = n
  | .last => isLast
  | .search q => q.isIn space

/-- A rule counts for a line; and whether it also counts for the next one. -/
def counts (r : Rule) (active : Bool) (n : Nat) (isLast : Bool) (space : List Char) : Bool × Bool :=
  let (hit, active) :=
    match r.start, r.stop with
    | none, _ => (true, false)
    | some a, none => (isAt n isLast space a, false)
    | some a, some b =>
      let ends :=
        match b with
        | .line m => m ≤ n
        | b => isAt n isLast space b
      if active then (true, !ends)
      else if isAt n isLast space a then
        (true, match b with
          | .line m => n < m
          | _ => true)
      else (false, false)
  (hit != r.negated, active)

/-- Applies an action. The last line of a range is where a change is written. -/
def act (n : Nat) (goesOn : Bool) (c : Cycle) : Action → Cycle
  | .substitute q text first every shown =>
    if q.isIn c.space then
      let space := q.replaceIn every text (2 * c.space.length + 2) first false [] c.space
      { c with space, written := c.written ++ if shown then [String.ofList space] else [] }
    else c
  | .delete => { c with deleted := true }
  | .print => { c with written := c.written ++ [String.ofList c.space] }
  | .quit => { c with stopped := true }
  | .lineNumber => { c with written := c.written ++ [toString n] }
  | .transliterate pairs => { c with space := c.space.map fun d => (pairs.lookup d).getD d }
  | .append text => { c with appended := c.appended ++ [text] }
  | .insert text => { c with written := c.written ++ [text] }
  | .change text =>
    { c with deleted := true, written := c.written ++ if goesOn then [] else [text] }

/-- Applies rules to a line. With each rule goes whether it counts since an earlier line. -/
def applyAll (n : Nat) (isLast : Bool) : List (Rule × Bool) → Cycle → List (Rule × Bool) × Cycle
  | [], c => ([], c)
  | (r, active) :: rs, c =>
    if c.deleted || c.stopped then ((r, active) :: rs, c)
    else
      let (hit, active) := r.counts active n isLast c.space
      let (rs, c) := applyAll n isLast rs (if hit then act n active c r.action else c)
      ((r, active) :: rs, c)

/-- What is written for some lines. -/
def edit (quiet : Bool) : (n : Nat) → List (Rule × Bool) → List String → List String
  | _, _, [] => []
  | n, rs, l :: ls =>
    let (rs, c) := applyAll n ls.isEmpty rs { space := l.toList }
    let shown := if quiet || c.deleted then [] else [String.ofList c.space]
    c.written ++ shown ++ c.appended ++ if c.stopped then [] else edit quiet (n + 1) rs ls

end Rule

/-- Edits the lines of files, in what is written or in the files themselves. -/
def editLines : Utility := fun args s =>
  let c := Call.ofArguments "ef" (args.map fun a => if a.startsWith "-i" then "-i" else a) true
  let (program, operands) :=
    match c.values 'e' with
    | [] => (c.operands.head?, c.operands.drop 1)
    | texts => (some ("\n".intercalate texts), c.operands)
  match program with
  | none =>
    s.complain 1
      "Usage: sed [OPTION]... \x7bscript-only-if-no-other-script\x7d [input-file]..."
  | some text =>
    match Rule.readAll? (c.has 'E' || c.has 'r') (text.length + 1) text.toList with
    | none =>
      let place := "sed: -e expression #1, char "
      s.complain 1 (
        if text.startsWith "s" then
          place ++ toString text.length ++ ": unterminated \x60s' command"
        else place ++ "1: unknown command: \x60" ++ String.ofList (text.toList.take 1) ++ "'")
    | some rules =>
      let edited (content : ByteArray) : ByteArray :=
        let text := unlines (Rule.edit (c.has 'n') 1 (rules.map (·, false)) (textLines content))
        if content.toList.getLast?.any (· ≠ 10) then text.extract 0 (text.size - 1) else text
      let (found, complaints, s) :=
        readSources (fun name reason =>
          if reason = "Is a directory" then "sed: couldn't edit " ++ name ++ ": not a regular file"
          else "sed: can't read " ++ name ++ ": " ++ reason) operands s
      if c.has 'i' then
        let tree := found.foldl (fun t f =>
          (t.write (s.path f.name) (edited f.content)).toOption.getD t) s.tree
        { s with tree }.answer .empty 2 complaints
      else
        s.answer (edited (found.foldl (fun bs f => bs ++ f.content) .empty)) 2 complaints

end Testsmith.Shell
