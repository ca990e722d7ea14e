/-
# Differences of files

What has to be changed in the lines of one file to get those of another: as few lines as possible are
taken out and put in.

Key definitions: `Shell.Difference.Change`, `Shell.Difference.changes`, `Shell.compareLines`.
-/
import Testsmith.Shell.Source

namespace Testsmith.Shell.Difference

/-- The lengths of the longest common parts of a list and each end of another, the whole one first. -/
def row (a : String) (bs : List String) (below : List Nat) : List Nat :=
  match bs, below with
  | b :: bs, here :: rest =>
    let right := row a bs rest
    let diagonal := rest.head?.getD 0
    (if a = b then diagonal + 1 else max here (right.head?.getD 0)) :: right
  | _, _ => [0]

/-- The rows for each end of a list, the whole one first. -/
def table (bs : List String) : List String → List (List Nat)
  | [] => [List.replicate (bs.length + 1) 0]
  | a :: as =>
    let rows := table bs as
    row a bs (rows.head?.getD []) :: rows

/-- What becomes of a line. -/
inductive Edit
  | keep
  | drop (line : String)
  | add (line : String)

/-- What becomes of the lines of two files, given the rows of the table from here on. Where it makes
no difference, lines are dropped first. -/
def edits : (bound : Nat) → (rows : List (List Nat)) → (as bs : List String) → List Edit
  | bound + 1, rows, a :: as, b :: bs =>
    if a = b then .keep :: edits bound ((rows.drop 1).map (·.drop 1)) as bs
    else
      let down := ((rows.drop 1).head?.bind (·.head?)).getD 0
      let right := (rows.head?.bind (·[1]?)).getD 0
      if right ≤ down then .drop a :: edits bound (rows.drop 1) as (b :: bs)
      else .add b :: edits bound (rows.map (·.drop 1)) (a :: as) bs
  | _, _, as, bs => as.map .drop ++ bs.map .add

/-- Lines that are taken out and put in at one place, with the numbers of the lines before them. -/
structure Change where
  before : Nat
  dropped : List String := []
  beforeNew : Nat
  added : List String := []

/-- The changes in a list of edits, after some lines of each file. -/
def gather (m n : Nat) (open? : Option Change) : List Edit → List Change
  | [] => open?.toList
  | .keep :: es => open?.toList ++ gather (m + 1) (n + 1) none es
  | .drop l :: es =>
    let c : Change := open?.getD { before := m, beforeNew := n }
    gather (m + 1) n (some { c with dropped := c.dropped ++ [l] }) es
  | .add l :: es =>
    let c : Change := open?.getD { before := m, beforeNew := n }
    gather m (n + 1) (some { c with added := c.added ++ [l] }) es

/-- The changes that make the lines of one file those of another. -/
def changes (as bs : List String) : List Change :=
  gather 0 0 none (edits (as.length + bs.length) (table bs as) as bs)

/-- The numbers of the lines after some. -/
def range (before : Nat) (lines : List String) : String :=
  match lines.length with
  | 0 => toString before
  | 1 => toString (before + 1)
  | n => toString (before + 1) ++ "," ++ toString (before + n)

/-- A change as it is written. -/
def Change.lines (c : Change) : List String :=
  let letter := if c.dropped.isEmpty then "a" else if c.added.isEmpty then "d" else "c"
  (range c.before c.dropped ++ letter ++ range c.beforeNew c.added) ::
    c.dropped.map ("< " ++ ·) ++ (if letter = "c" then ["---"] else []) ++ c.added.map ("> " ++ ·)

end Testsmith.Shell.Difference

namespace Testsmith.Shell

/-- Writes the differences of two files. -/
def compareLines : Utility := fun args s =>
  let c := Call.ofArguments "" args true
  match readSources (fun name reason => "diff: " ++ name ++ ": " ++ reason) c.operands s with
  | ([a, b], [], s) =>
    let text :=
      if a.content = b.content then []
      else if c.has 'q' then ["Files " ++ a.name ++ " and " ++ b.name ++ " differ"]
      else (Difference.changes a.lines b.lines).flatMap (·.lines)
    { state := { s with status := if a.content = b.content then 0 else 1 }
      written := [(.output, unlines text)] }
  | (_, [], s) =>
    s.misuse 2 "diff" ("missing operand after " ++ quoted (c.operands.getLast?.getD "diff"))
  | (_, complaints, s) => s.answer .empty 2 complaints

end Testsmith.Shell
