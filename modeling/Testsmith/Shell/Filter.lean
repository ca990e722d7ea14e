/-
# Filters

Programs that read files or the input and write some of what they have read: its counts, its first or
last lines, its lines in order or without repetitions, its characters with others in their places.

Key definitions: `Shell.count`, `Shell.firstLines`, `Shell.lastLines`, `Shell.sort`, `Shell.distinct`,
`Shell.translate`, `Shell.cut`, `Shell.filter?`.
-/
import Testsmith.Shell.Format
import Testsmith.Shell.Pattern
import Testsmith.Shell.Source

namespace Testsmith.Shell

/-- The complaint of a program about a file that cannot be read. -/
def complaintOf (program : String) (name reason : String) : String :=
  program ++ ": " ++ name ++ ": " ++ reason

/-- The complaint of a program about a file that cannot be opened. -/
def openComplaint (program : String) (name reason : String) : String :=
  if reason = "Is a directory" then
    program ++ ": error reading " ++ quoted name ++ ": " ++ reason
  else program ++ ": cannot open " ++ quoted name ++ " for reading: " ++ reason

/-! ### Counts -/

def isSpaceByte (b : UInt8) : Bool := b = 32 || (9 ≤ b && b ≤ 13)

/-- The number of words in some bytes. `inside` says that a word has begun. -/
def wordCount : (inside : Bool) → List UInt8 → Nat
  | _, [] => 0
  | inside, b :: bs =>
    if isSpaceByte b then wordCount false bs
    else (if inside then 0 else 1) + wordCount true bs

/-- The numbers of lines, words and bytes. -/
def counts (content : ByteArray) : List Nat :=
  [content.toList.countP (· = 10), wordCount false content.toList, content.size]

/-- Writes the numbers of lines, words and bytes of each file, and of all. Numbers of more than one
kind or file are as wide as the number of all bytes; of an input that is no file, seven wide. -/
def count : Utility := fun args s =>
  let c := Call.ofArguments "" args true
  let wanted := [c.has 'l', c.has 'w', c.has 'c' || c.has 'm']
  let wanted := if wanted.any id then wanted else [true, true, true]
  let (found, complaints, t) := readSources (complaintOf "wc") c.operands s
  let all := found.map fun f => (f.name, counts f.content)
  let total := all.foldl (fun sums (_, ns) => (sums.zip ns).map fun (a, b) => a + b) [0, 0, 0]
  let size := (found.map (·.content.size)).foldl (· + ·) 0
  let least := if found.any (fun f => f.name = "-") && !s.input.isFile then 7 else 1
  let width :=
    if c.operands.length ≤ 1 && wanted.countP id = 1 then 1 else max least (toString size).length
  let row (name : String) (ns : List Nat) : String :=
    let shown := ((wanted.zip ns).filter (·.1)).map fun (_, n) => padded width n
    " ".intercalate (shown ++ if name.isEmpty then [] else [name])
  let rows := all.map fun (name, ns) => row (if c.operands.isEmpty then "" else name) ns
  t.answer (unlines (rows ++ if c.operands.length > 1 then [row "total" total] else [])) 1 complaints

/-! ### Parts of files -/

/-- The bytes in pieces that each end with a line. -/
def pieces (bs : List UInt8) : List (List UInt8) :=
  bs.foldr (fun b ps =>
    if b = 10 then [b] :: ps
    else
      match ps with
      | [] => [[b]]
      | p :: ps => (b :: p) :: ps) []

/-- The option that a number after a minus sign stands for. -/
def withNumber : List String → List String
  | [] => []
  | a :: args =>
    match a.toList with
    | '-' :: d :: ds =>
      if (d :: ds).all Char.isDigit then "-n" :: String.ofList (d :: ds) :: args else a :: args
    | '+' :: d :: ds => if (d :: ds).all Char.isDigit then "-n" :: a :: args else a :: args
    | _ => a :: args

/-- Writes a part of each file, with a heading if there is more than one. -/
def partly (program : String) (part : {α : Type} → (sign : Option Char) → Nat → List α → List α) :
    Utility := fun args s =>
  let c := Call.ofArguments "nc" (withNumber args) true
  let size := ((c.value? 'c').or (c.value? 'n')).getD "10"
  let (sign, digits) : Option Char × List Char :=
    match size.toList with
    | '-' :: ds => (some '-', ds)
    | '+' :: ds => (some '+', ds)
    | ds => (none, ds)
  match (String.ofList digits).toNat? with
  | none =>
    let unit := if (c.value? 'c').isSome then "bytes" else "lines"
    s.complain 1 (program ++ ": invalid number of " ++ unit ++ ": " ++ quoted size)
  | some n =>
    let (found, complaints, s) := readSources (openComplaint program) c.operands s
    let bodies := found.map fun f =>
      let bs := f.content.toList
      (f.name, if (c.value? 'c').isSome then part sign n bs else (part sign n (pieces bs)).flatten)
    let headed := (c.operands.length > 1 || c.has 'v') && !c.has 'q'
    let texts := bodies.mapIdx fun i (name, bs) =>
      let name := if name = "-" then "standard input" else name
      let heading := (if i = 0 then "" else "\n") ++ "==> " ++ name ++ " <==\n"
      if headed then heading.toUTF8.toList ++ bs else bs
    s.answer (toBytes texts.flatten) 1 complaints

/-- Writes the first lines, or all but the last. -/
def firstLines : Utility :=
  partly "head" fun sign n xs => if sign = some '-' then xs.take (xs.length - n) else xs.take n

/-- Writes the last lines, or those from one on. -/
def lastLines : Utility :=
  partly "tail" fun sign n xs => if sign = some '+' then xs.drop (n - 1) else xs.drop (xs.length - n)

/-- Writes the lines from the last to the first. -/
def reverseLines : Utility := fun args s =>
  perSource (fun name reason => "tac: failed to open " ++ quoted name ++ " for reading: " ++ reason)
    args (fun f => toBytes (pieces f.content.toList).reverse.flatten) s

/-- Writes each line from its end to its start. -/
def reverseEach : Utility := fun args s =>
  perSource (fun name reason => "rev: cannot open " ++ name ++ ": " ++ reason)
    args (fun f => unlines (f.lines.map fun l => String.ofList l.toList.reverse)) s

/-! ### Lines in order -/

/-- The number at the start of a line, in thousandths. -/
def leadingNumber (line : String) : Int :=
  let cs := line.toList.dropWhile fun c => c = ' ' || c = '\t'
  let (sign, cs) : Int × List Char :=
    match cs with
    | '-' :: cs => (-1, cs)
    | cs => (1, cs)
  let whole := cs.takeWhile Char.isDigit
  let part : List Char :=
    match cs.drop whole.length with
    | '.' :: cs => cs.takeWhile Char.isDigit
    | _ => []
  let digits := whole ++ (part ++ ['0', '0', '0']).take 3
  sign * ((String.ofList digits).toNat?.getD 0 : Nat)

/-- The key by which a line is sorted: the fields from one to another, or the whole line. -/
def sortKey (separator : Option Char) (fields : Option (Nat × Option Nat)) (line : String) :
    String :=
  match fields with
  | none => line
  | some (first, last) =>
    let parts : List String :=
      match separator with
      | some c => line.splitOn (String.singleton c)
      | none => blankFields [] line.toList
    let parts := match last with
      | some n => parts.take n
      | none => parts
    (match separator with
      | some c => String.singleton c
      | none => "").intercalate (parts.drop (first - 1))
where
  /-- The fields of a line, each with the blanks before it. -/
  blankFields (current : List Char) : List Char → List String
    | [] => [String.ofList current.reverse]
    | c :: cs =>
      let starts := (c = ' ' || c = '\t') &&
        current.head?.any fun d => d ≠ ' ' && d ≠ '\t'
      if starts then String.ofList current.reverse :: blankFields [c] cs
      else blankFields (c :: current) cs

/-- The fields that an option for a key names. -/
def keyFields (value : String) : Nat × Option Nat :=
  let number (cs : List Char) : Option Nat := (String.ofList (cs.takeWhile Char.isDigit)).toNat?
  let cs := value.toList
  ((number cs).getD 1, number ((cs.dropWhile (· != ',')).drop 1))

/-- Sorts lines, by their keys and then as a whole. -/
def sort : Utility := fun args s =>
  let c := Call.ofArguments "kto" args true
  let separator := (c.value? 't').bind (·.toList.head?)
  let keyOption := (c.options.find? (·.1 = 'k')).map (·.2)
  let marks := (keyOption.getD "").toList
  let numeric := c.has 'n' || marks.contains 'n'
  let folded := c.has 'f' || marks.contains 'f'
  let backwards := c.has 'r' || marks.contains 'r'
  let key (line : String) : String :=
    let k := sortKey separator (keyOption.map keyFields) line
    let k := if c.has 'b' then String.ofList (k.toList.dropWhile (· = ' ')) else k
    if folded then k.toUpper else k
  let compareKeys (a b : String) : Ordering :=
    if numeric then compare (leadingNumber (key a)) (leadingNumber (key b))
    else compare (key a) (key b)
  let flipped (o : Ordering) (backwards : Bool) : Ordering := if backwards then o.swap else o
  let order (a b : String) : Ordering :=
    let whole := if c.has 'u' || c.has 's' then .eq else flipped (compare a b) (c.has 'r')
    (flipped (compareKeys a b) backwards).then whole
  let (found, complaints, s) :=
    readSources (fun name reason => "sort: cannot read: " ++ name ++ ": " ++ reason) c.operands s
  let sorted := (found.flatMap (·.lines)).mergeSort fun a b => order a b != .gt
  let kept :=
    if c.has 'u' then
      sorted.foldr (fun l ls =>
        match ls with
        | m :: rest => if compareKeys l m = .eq then l :: rest else l :: ls
        | [] => [l]) []
    else sorted
  if complaints.isEmpty then
    match c.value? 'o' with
    | some target =>
      match s.tree.write (s.path target) (unlines kept) with
      | .ok tree => { s with tree }.finish 0
      | .error e => s.complain 2 ("sort: open failed: " ++ target ++ ": " ++ e.reason)
    | none => s.answer (unlines kept) 2 []
  else s.answer .empty 2 complaints

/-- The runs of lines that are alike: how long each is, and its first line. -/
def runs (alike : String → String → Bool) : List String → List (Nat × String)
  | [] => []
  | l :: ls =>
    match runs alike ls with
    | (n, m) :: rest => if alike l m then (n + 1, l) :: rest else (1, l) :: (n, m) :: rest
    | [] => [(1, l)]

/-- Writes one of each run of lines that are alike. -/
def distinct : Utility := fun args s =>
  let c := Call.ofArguments "fsw" args true
  let alike (a b : String) : Bool := if c.has 'i' then a.toLower == b.toLower else a == b
  let (found, complaints, s) := readSources (complaintOf "uniq") (c.operands.take 1) s
  let kept := (runs alike (found.flatMap (·.lines))).filter fun (n, _) =>
    (!c.has 'd' || n > 1) && (!c.has 'u' || n = 1)
  s.answer (unlines (kept.map fun (n, l) => if c.has 'c' then padded 7 n ++ " " ++ l else l)) 1
    complaints

/-! ### Characters -/

/-- Bytes as characters, one for each. -/
def byteChars (bs : ByteArray) : List Char := bs.toList.map fun b => Char.ofNat b.toNat

def bytesOfChars (cs : List Char) : ByteArray := toBytes (cs.map fun c => UInt8.ofNat c.toNat)

/-- The characters that a set lists: ranges, classes and escapes. -/
def setOf : (bound : Nat) → List Char → List Char
  | 0, _ | _, [] => []
  | bound + 1, '[' :: ':' :: cs =>
    let name := cs.takeWhile (· != ':')
    match cs.drop name.length with
    | ':' :: ']' :: rest =>
      (namedClass (String.ofList name)).flatMap (fun r => between r.1 r.2) ++ setOf bound rest
    | _ => '[' :: setOf bound (':' :: cs)
  | bound + 1, '\\' :: cs =>
    match readEscape cs with
    | some (b, cs) => Char.ofNat b.toNat :: setOf bound cs
    | none =>
      match cs with
      | [] => ['\\']
      | c :: cs => c :: setOf bound cs
  | bound + 1, a :: '-' :: b :: cs =>
    if a ≤ b then between a b ++ setOf bound cs else a :: '-' :: setOf bound (b :: cs)
  | bound + 1, c :: cs => c :: setOf bound cs
where
  between (a b : Char) : List Char :=
    (List.range (b.toNat + 1 - a.toNat)).map fun i => Char.ofNat (a.toNat + i)

/-- Characters of which one in the set that follows another like it is left out. -/
def squeeze (inSet : Char → Bool) : List Char → List Char
  | a :: b :: cs => if a = b && inSet a then squeeze inSet (b :: cs) else a :: squeeze inSet (b :: cs)
  | cs => cs

/-- Puts characters in the places of others, or takes characters out. -/
def translate : Utility := fun args s =>
  let c := Call.ofArguments "" args false
  let sets := c.operands.map fun a => setOf a.utf8ByteSize (byteChars a.toUTF8)
  let first := sets.head?.getD []
  let second? := sets[1]?
  let inFirst (d : Char) : Bool := first.contains d != (c.has 'c' || c.has 'C')
  let text := byteChars s.input.bytes
  let put (second : List Char) (d : Char) : Char :=
    if !inFirst d then d
    else if c.has 'c' || c.has 'C' then (second.getLast?).getD d
    else ((second[(first.findIdx? (· = d)).getD 0]?).or second.getLast?).getD d
  match sets, c.has 'd', second? with
  | [], _, _ => s.misuse 1 "tr" "missing operand"
  | _, true, _ =>
    let kept := text.filter fun d => !inFirst d
    let kept := if c.has 's' then squeeze ((second?.getD []).contains ·) kept else kept
    s.withoutInput.print (bytesOfChars kept)
  | _, false, some second =>
    let changed := text.map (put second)
    let changed := if c.has 's' then squeeze second.contains changed else changed
    s.withoutInput.print (bytesOfChars changed)
  | _, false, none =>
    if c.has 's' then s.withoutInput.print (bytesOfChars (squeeze inFirst text))
    else s.complain 1 ("tr: missing operand after " ++ quoted (args.getLast?.getD ""))

/-- The position is in a list such as `1,3-5`. -/
def isListed (ranges : String) (n : Nat) : Bool :=
  (ranges.splitOn ",").any fun r =>
    match r.splitOn "-" with
    | [a] => a.toNat? = some n
    | [a, b] => (a.toNat?.getD 1) ≤ n && n ≤ (b.toNat?.getD n)
    | _ => false

/-- Writes fields or characters of each line. -/
def cut : Utility := fun args s =>
  let c := Call.ofArguments "fcbd" args true
  let separator := ((c.value? 'd').filter (!·.isEmpty)).getD "\t"
  let select {α : Type} (ranges : String) (xs : List α) : List α :=
    ((xs.mapIdx fun i x => (i + 1, x)).filter fun (n, _) => isListed ranges n).map (·.2)
  let part (line : String) : Option ByteArray :=
    match c.value? 'f', (c.value? 'c').or (c.value? 'b') with
    | some ranges, _ =>
      let fields := line.splitOn separator
      if fields.length = 1 then if c.has 's' then none else some line.toUTF8
      else some (separator.intercalate (select ranges fields)).toUTF8
    | none, some ranges => some (toBytes (select ranges line.toUTF8.toList))
    | none, none => none
  if (c.value? 'f').isNone && (c.value? 'c').isNone && (c.value? 'b').isNone then
    s.misuse 1 "cut" "you must specify a list of bytes, characters, or fields"
  else perSource (complaintOf "cut") c.operands (fun f =>
    (f.lines.filterMap part).foldl (fun text line => (text ++ line).push 10) .empty) s

/-! ### Names, numbers and copies -/

/-- Writes what it reads, and keeps it in files too. -/
def tee : Utility := fun args s =>
  let c := Call.ofArguments "" args true
  let text := s.input.bytes
  let (tree, complaints) := c.operands.foldl (fun (tree, complaints) name =>
    let front := if c.has 'a' then (tree.read (s.path name)).toOption.getD .empty else .empty
    match tree.write (s.path name) (front ++ text) with
    | .ok tree => (tree, complaints)
    | .error e => (tree, complaints ++ [complaintOf "tee" name e.reason])) (s.tree, [])
  { s.withoutInput with tree }.answer text 1 complaints

/-- A path without slashes at its end. -/
def withoutEndSlashes (path : String) : String :=
  let cs := path.toList.reverse.dropWhile (· = '/')
  if cs.isEmpty && !path.isEmpty then "/" else String.ofList cs.reverse

/-- Writes the last name of a path, without an ending. -/
def lastName : Utility := fun args s =>
  match args with
  | [] => s.misuse 1 "basename" "missing operand"
  | _ :: _ :: extra :: _ => s.misuse 1 "basename" ("extra operand " ++ quoted extra)
  | path :: rest =>
    let path := withoutEndSlashes path
    let name := if path = "/" then path else (path.splitOn "/").getLast?.getD path
    let ending := rest.head?.getD ""
    let name := if name.endsWith ending && name ≠ ending then
      String.ofList (name.toList.take (name.length - ending.length)) else name
    s.print (name ++ "\n").toUTF8

/-- Writes paths without their last names. -/
def directoryName : Utility := fun args s =>
  let above (path : String) : String :=
    let front := ((withoutEndSlashes path).toList.reverse.dropWhile (· != '/'))
    if front.isEmpty then "." else withoutEndSlashes (String.ofList front.reverse)
  if args.isEmpty then s.misuse 1 "dirname" "missing operand" else s.print (unlines (args.map above))

/-- Writes numbers from one to another. -/
def sequence : Utility := fun args s =>
  let c := Call.ofArguments "s" args false
  let numbers (first step last : Int) : List Int :=
    let n : Int := if step = 0 then 0 else (last - first) / step + 1
    (List.range n.toNat).map fun (i : Nat) => first + step * (i : Int)
  let separator := (c.value? 's').getD "\n"
  let write (ns : List Int) : Effect :=
    s.print (if ns.isEmpty then "" else separator.intercalate (ns.map toString) ++ "\n").toUTF8
  match c.operands.find? fun a => a.toInt?.isNone with
  | some a => s.misuse 1 "seq" ("invalid floating point argument: " ++ quoted a)
  | none =>
  match c.operands.map String.toInt? with
  | [some last] => write (numbers 1 1 last)
  | [some first, some last] => write (numbers first 1 last)
  | [some first, some step, some last] => write (numbers first step last)
  | [] => s.misuse 1 "seq" "missing operand"
  | _ => s.misuse 1 "seq" ("extra operand " ++ quoted (c.operands[3]?.getD ""))

/-- Compares two files. -/
def compareFiles : Utility := fun args s =>
  let c := Call.ofArguments "" args true
  match readSources (complaintOf "cmp") c.operands s with
  | ([a, b], [], s) =>
    let same := ((a.content.toList.zip b.content.toList).takeWhile fun (x, y) => x = y).length
    let line := (a.content.toList.take same).countP (· = 10) + 1
    if a.content = b.content then s.finish 0
    else if c.has 's' then s.finish 1
    else if same = a.content.size || same = b.content.size then
      let short := if same = a.content.size then a.name else b.name
      if same = 0 then s.complain 1 ("cmp: EOF on " ++ quoted short ++ " which is empty")
      else s.complain 1 ("cmp: EOF on " ++ quoted short ++ " after byte " ++ toString same ++ ", " ++
        (if (a.content.toList.take same).getLast? = some 10 then "line " ++ toString (line - 1)
        else "in line " ++ toString line))
    else
      let text := a.name ++ " " ++ b.name ++ " differ: char " ++ toString (same + 1) ++ ", line " ++
        toString line ++ "\n"
      { state := { s with status := 1 }, written := [(.output, text.toUTF8)] }
  | (_, [], s) => s.complain 2 "cmp: missing operand"
  | (_, complaints, s) => s.answer .empty 2 complaints

/-- The programs that write parts of what they read. -/
def filter? : String → Option Utility
  | "wc" => some count
  | "head" => some firstLines
  | "tail" => some lastLines
  | "tac" => some reverseLines
  | "rev" => some reverseEach
  | "sort" => some sort
  | "uniq" => some distinct
  | "tr" => some translate
  | "cut" => some cut
  | "tee" => some tee
  | "basename" => some lastName
  | "dirname" => some directoryName
  | "seq" => some sequence
  | "cmp" => some compareFiles
  | _ => none

end Testsmith.Shell
