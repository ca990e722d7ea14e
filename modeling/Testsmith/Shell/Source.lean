/-
# What programs are called with

The options among the arguments of a program, and what the files say that its other arguments name.
Where no file is named, the input is read.

Key definitions: `Shell.Call`, `Shell.Call.ofArguments`, `Shell.Source`, `Shell.readSources`.
-/
import Testsmith.Shell.State

namespace Testsmith.Shell

/-- The text in single quotes. -/
def quoted (s : String) : String := "'" ++ s ++ "'"

/-- A number with blanks before it. -/
def padded (width : Nat) (n : Nat) : String :=
  let digits := toString n
  String.ofList (List.replicate (width - digits.length) ' ') ++ digits

/-! ### Options -/

/-- The options of a call, each with its value, and its other arguments. -/
structure Call where
  options : List (Char × String) := []
  operands : List String := []

namespace Call

/-- The call with one more option at the front. -/
def withOption (c : Call) (letter : Char) (value : String) : Call :=
  { c with options := (letter, value) :: c.options }

/-- The letters of one argument: the first with a value takes the rest of it, or the next one. -/
def readLetters (valued : List Char) (next : List String → Call) : List Char → List String → Call
  | [], args => next args
  | c :: cs, args =>
    if valued.contains c then
      if cs.isEmpty then (next (args.drop 1)).withOption c (args.head?.getD "")
      else (next args).withOption c (String.ofList cs)
    else (readLetters valued next cs args).withOption c ""

/-- The options and operands among some arguments. An option that is a word counts as its first
letter. After `--` there are operands only, and after the first operand too unless options may stand
`anywhere`. -/
def read (valued : List Char) (anywhere : Bool) : (bound : Nat) → List String → Call
  | 0, args => { operands := args }
  | _, [] => {}
  | _, "--" :: args => { operands := args }
  | bound + 1, a :: args =>
    let next := read valued anywhere bound
    if a.length < 2 || !a.startsWith "-" then
      if anywhere then
        let c := next args
        { c with operands := a :: c.operands }
      else { operands := a :: args }
    else if a.startsWith "--" then
      let word := a.toList.drop 2
      let value := (word.dropWhile (· != '=')).drop 1
      (next args).withOption (word.head?.getD '-') (String.ofList value)
    else readLetters valued next (a.toList.drop 1) args

/-- The options and operands among some arguments, of which options with the letters `valued` have
values. -/
def ofArguments (valued : String) (args : List String) (anywhere : Bool) : Call :=
  read valued.toList anywhere (args.length + 1) args

def has (c : Call) (letter : Char) : Bool := c.options.any (·.1 = letter)

/-- The value of an option; of several the last. -/
def value? (c : Call) (letter : Char) : Option String := c.options.reverse.lookup letter

/-- The values of an option. -/
def values (c : Call) (letter : Char) : List String :=
  (c.options.filter (·.1 = letter)).map (·.2)

end Call

/-! ### Files -/

/-- A file that is read. -/
structure Source where
  name : String
  content : ByteArray

/-- The lines of a source; what is no text is replaced. -/
def textLines (content : ByteArray) : List String :=
  let parts := (Text.decodeLossy content).splitOn "\n"
  if parts.getLast? = some "" then parts.dropLast else parts

def Source.lines (f : Source) : List String := textLines f.content

/-- Lines, each with its end. -/
def unlines (ls : List String) : ByteArray := (String.join (ls.map (· ++ "\n"))).toUTF8

/-- What the files say that operands name, and a complaint for each that cannot be read. -/
def readSources (complaint : String → String → String) (operands : List String) (s : State) :
    List Source × List String × State :=
  let names := if operands.isEmpty then ["-"] else operands
  names.foldl (fun (found, complaints, s) name =>
    if name = "-" then (found ++ [⟨name, s.input.bytes⟩], complaints, s.withoutInput)
    else
      match s.tree.read (s.path name) with
      | .ok content => (found ++ [⟨name, content⟩], complaints, s)
      | .error e => (found, complaints ++ [complaint name e.reason], s)) ([], [], s)

/-- A program writes, complains, and fails with a status if it has complained. -/
def State.answer (s : State) (text : ByteArray) (status : Nat) (complaints : List String) : Effect :=
  { state := { s with status := if complaints.isEmpty then 0 else status }
    written := (.output, text) :: complaints.map fun text => (.errors, (text ++ "\n").toUTF8) }

/-- A program that writes what a function makes of each of its sources. -/
def perSource (complaint : String → String → String) (operands : List String)
    (f : Source → ByteArray) : State → Effect := fun s =>
  let (found, complaints, s) := readSources complaint operands s
  s.answer (found.foldl (fun bs source => bs ++ f source) .empty) 1 complaints

end Testsmith.Shell
