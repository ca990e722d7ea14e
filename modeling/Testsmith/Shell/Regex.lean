/-
# Regular expressions

The expressions by which lines are chosen and changed, in the basic spelling, where `\(`, `\|` and
`\+` are operators, and in the extended one, where they are so without the backslash. What is found
starts as early as possible, and repetitions take as much as they can.

Key definitions: `Shell.Regex`, `Shell.Regex.read?`, `Shell.Regex.ways`, `Shell.Search`,
`Shell.Search.first?`, `Shell.Search.replaceIn`.
-/
import Testsmith.Shell.Pattern

namespace Testsmith.Shell

inductive Regex
  | empty
  | literal (c : Char)
  | anyChar
  | oneOf (negated : Bool) (ranges : List (Char × Char))
  | lineStart
  | lineEnd
  | seq (a b : Regex)
  | either (a b : Regex)
  | repeated (a : Regex) (least : Nat) (most : Option Nat)
  /-- A numbered group. -/
  | group (number : Nat) (a : Regex)
  /-- The text of a group again. -/
  | again (number : Nat)
  deriving Repr

namespace Regex

/-! ### Reading -/

/-- A mark of an expression. -/
inductive Token
  | char (c : Char)
  | anyChar
  | oneOf (negated : Bool) (ranges : List (Char × Char))
  | opening
  | closing
  | bar
  | lineStart
  | lineEnd
  | times (least : Nat) (most : Option Nat)
  | again (number : Nat)
  deriving Repr

/-- The bounds in braces, up to the closing mark. -/
def readBounds (close : List Char) (cs : List Char) : Option (Token × List Char) :=
  let digits := cs.takeWhile Char.isDigit
  let rest := cs.drop digits.length
  let least := (String.ofList digits).toNat?.getD 0
  match rest with
  | ',' :: rest =>
    let more := rest.takeWhile Char.isDigit
    let rest := rest.drop more.length
    if close.isPrefixOf rest then
      some (.times least (String.ofList more).toNat?, rest.drop close.length)
    else none
  | rest =>
    if close.isPrefixOf rest then some (.times least (some least), rest.drop close.length) else none

/-- The marks of an expression. `start` says that nothing that can be repeated is before. -/
def tokens? (extended : Bool) : (bound : Nat) → (start : Bool) → List Char → Option (List Token)
  | 0, _, _ | _, _, [] => some []
  | bound + 1, start, c :: cs =>
    let go (t : Token) (start : Bool) (cs : List Char) : Option (List Token) :=
      (tokens? extended bound start cs).map (t :: ·)
    match c, cs with
    | '\\', d :: rest =>
      if d.isDigit && d ≠ '0' then go (.again (d.toNat - '0'.toNat)) false rest
      else if d = 'n' then go (.char '\n') false rest
      else if d = 't' then go (.char '\t') false rest
      else if d = 's' then go (.oneOf false (namedClass "space")) false rest
      else if d = 'S' then go (.oneOf true (namedClass "space")) false rest
      else if d = 'w' then go (.oneOf false (('_', '_') :: namedClass "alnum")) false rest
      else if extended then go (.char d) false rest
      else if d = '(' then go .opening true rest
      else if d = ')' then go .closing false rest
      else if d = '|' then go .bar true rest
      else if d = '+' then go (.times 1 none) false rest
      else if d = '?' then go (.times 0 (some 1)) false rest
      else if d = '\x7b' then
        match readBounds ['\\', '\x7d'] rest with
        | some (t, rest) => go t false rest
        | none => none
      else go (.char d) false rest
    | '\\', [] => none
    | '.', rest => go .anyChar false rest
    | '[', rest =>
      let (negated, body) :=
        match rest with
        | '^' :: body => (true, body)
        | body => (false, body)
      match readRanges (body.length + 1) true (body.map (⟨·, false⟩)) with
      | some (ranges, rest) => go (.oneOf negated ranges) false (rest.map (·.char))
      | none => none
    | '*', rest => if start then go (.char '*') false rest else go (.times 0 none) false rest
    | '^', rest => if start || extended then go .lineStart true rest else go (.char '^') false rest
    | '$', rest =>
      let last := rest.isEmpty || ['\\', ')'].isPrefixOf rest || ['\\', '|'].isPrefixOf rest
      if last || extended then go .lineEnd false rest else go (.char '$') false rest
    | c, rest =>
      if !extended then go (.char c) false rest
      else if c = '(' then go .opening true rest
      else if c = ')' then go .closing false rest
      else if c = '|' then go .bar true rest
      else if c = '+' then go (.times 1 none) false rest
      else if c = '?' then go (.times 0 (some 1)) false rest
      else if c = '\x7b' then
        match readBounds ['\x7d'] rest with
        | some (t, rest) => go t false rest
        | none => go (.char c) false rest
      else go (.char c) false rest

/-- The repetitions after an expression. -/
def readTimes (e : Regex) : List Token → Regex × List Token
  | .times least most :: ts => readTimes (.repeated e least most) ts
  | ts => (e, ts)

/-- The alternatives up to a closing mark or the end. `groups` counts the groups before. -/
def readAlternatives : (bound groups : Nat) → List Token → Option (Regex × Nat × List Token)
  | 0, _, _ => none
  | bound + 1, groups, ts => readFrom bound groups .empty ts
where
  /-- Goes on with an alternative. -/
  readFrom : (bound groups : Nat) → Regex → List Token → Option (Regex × Nat × List Token)
    | 0, _, _, _ => none
    | _, groups, e, [] => some (e, groups, [])
    | bound + 1, groups, e, t :: ts =>
      let add (a : Regex) (groups : Nat) (ts : List Token) :
          Option (Regex × Nat × List Token) :=
        let (a, ts) := readTimes a ts
        readFrom bound groups (.seq e a) ts
      match t with
      | .closing => some (e, groups, .closing :: ts)
      | .bar => do
        let (f, groups, ts) ← readFrom bound groups .empty ts
        return (.either e f, groups, ts)
      | .opening => do
        let number := groups + 1
        let (a, groups, ts) ← readFrom bound number .empty ts
        match ts with
        | .closing :: ts => add (.group number a) groups ts
        | _ => none
      | .char c => add (.literal c) groups ts
      | .anyChar => add .anyChar groups ts
      | .oneOf negated ranges => add (.oneOf negated ranges) groups ts
      | .lineStart => add .lineStart groups ts
      | .lineEnd => add .lineEnd groups ts
      | .again n => add (.again n) groups ts
      | .times .. => none

/-- The expression in a text. -/
def read? (extended : Bool) (text : String) : Option Regex := do
  let cs := text.toList
  let ts ← tokens? extended cs.length true cs
  match ← readAlternatives (ts.length + 2) 0 ts with
  | (e, _, []) => some e
  | _ => none

/-! ### Matching -/

/-- How far a match has come: what was before, backwards, what is left, and the texts of the
groups. -/
structure Place where
  before : List Char
  rest : List Char
  groups : List (Nat × List Char)

/-- All ways to match, those that take more first. `fold` is applied to both sides of a
comparison. -/
def ways (fold : Char → Char) : Regex → Place → List Place
  | empty, p => [p]
  | literal c, p => one (fun d => fold c = fold d) p
  | anyChar, p => one (fun _ => true) p
  | oneOf negated ranges, p =>
    one (fun d => (inOneOf ranges d || inOneOf ranges (fold d)) != negated) p
  | lineStart, p => if p.before.isEmpty then [p] else []
  | lineEnd, p => if p.rest.isEmpty then [p] else []
  | seq a b, p => (ways fold a p).flatMap (ways fold b)
  | either a b, p => ways fold a p ++ ways fold b p
  | repeated a least most, p => more (ways fold a) least most (p.rest.length + least + 1) 0 p
  | group n a, p =>
    (ways fold a p).map fun q =>
      { q with groups := (n, p.rest.take (p.rest.length - q.rest.length)) :: q.groups }
  | again n, p =>
    let text := (p.groups.lookup n).getD []
    if text.isPrefixOf p.rest then
      [{ p with before := text.reverse ++ p.before, rest := p.rest.drop text.length }]
    else []
where
  /-- One character with a property. -/
  one (admits : Char → Bool) (p : Place) : List Place :=
    match p.rest with
    | c :: cs => if admits c then [{ p with before := c :: p.before, rest := cs }] else []
    | [] => []
  /-- A match that has been repeated `count` times goes on. -/
  more (step : Place → List Place) (least : Nat) (most : Option Nat) :
      (bound count : Nat) → Place → List Place
    | 0, _, p => [p]
    | bound + 1, count, p =>
      let next :=
        if most.any (· ≤ count) then []
        else ((step p).filter fun q => q.rest.length < p.rest.length || count < least).flatMap
          (more step least most bound (count + 1))
      next ++ if least ≤ count then [p] else []

/-- The longest of the ways to match at a place. -/
def longest (ps : List Place) : Option Place :=
  ps.foldl (fun best p =>
    match best with
    | none => some p
    | some b => if p.rest.length < b.rest.length then some p else best) none

end Regex

/-! ### Searching -/

/-- What is searched for: expressions, how characters are compared, and which matches count. -/
structure Search where
  expressions : List Regex
  fold : Char → Char := id
  /-- A match counts, which begins after some characters, backwards. -/
  counts : List Char → Regex.Place → Bool := fun _ _ => true

namespace Search

/-- The longest match that counts at a place. -/
def at? (q : Search) (before rest : List Char) : Option Regex.Place :=
  Regex.longest ((q.expressions.flatMap fun e => e.ways q.fold ⟨before, rest, []⟩).filter
    (q.counts before))

/-- The first match in a text: what is before it, backwards, and how it ends. -/
def first? (q : Search) : (before rest : List Char) → Option (List Char × Regex.Place)
  | before, [] => (q.at? before []).map (before, ·)
  | before, c :: cs =>
    match q.at? before (c :: cs) with
    | some p => some (before, p)
    | none => q.first? (c :: before) cs

/-- The text has a match. -/
def isIn (q : Search) (line : List Char) : Bool := (q.first? [] line).isSome

/-- The matches in a text, one after another, but for empty ones. -/
def allIn (q : Search) : (bound : Nat) → (before rest : List Char) → List (List Char)
  | 0, _, _ => []
  | bound + 1, before, rest =>
    match q.first? before rest with
    | none => []
    | some (start, p) =>
      let tail := rest.drop (start.length - before.length)
      let found := tail.take (tail.length - p.rest.length)
      match found, p.rest with
      | [], c :: cs => q.allIn bound (c :: p.before) cs
      | [], [] => []
      | found, rest => found :: q.allIn bound p.before rest

/-- The text that takes the place of a match: `&` is the match, and a digit after a backslash a
group. -/
def replacementFor (found : List Char) (groups : List (Nat × List Char)) : List Char → List Char
  | [] => []
  | '&' :: cs => found ++ replacementFor found groups cs
  | '\\' :: 'n' :: cs => '\n' :: replacementFor found groups cs
  | '\\' :: 't' :: cs => '\t' :: replacementFor found groups cs
  | '\\' :: c :: cs =>
    (if c.isDigit then (((0, found) :: groups).lookup (c.toNat - '0'.toNat)).getD [] else [c]) ++
      replacementFor found groups cs
  | c :: cs => c :: replacementFor found groups cs

/-- The text with matches replaced: all from the `first` on, or that one alone. An empty match right
after another one does not count. -/
def replaceIn (q : Search) (every : Bool) (text : List Char) :
    (bound first : Nat) → (after : Bool) → (before rest : List Char) → List Char
  | 0, _, _, _, rest => rest
  | bound + 1, first, after, before, rest =>
    match q.first? before rest with
    | none => rest
    | some (start, p) =>
      if after && start.length = before.length && p.rest.length = rest.length then
        match rest with
        | c :: cs => c :: q.replaceIn every text bound first false (c :: before) cs
        | [] => []
      else
      let skipped := rest.take (start.length - before.length)
      let tail := rest.drop skipped.length
      let found := tail.take (tail.length - p.rest.length)
      let put := if first ≤ 1 then replacementFor found p.groups text else found
      let after : List Char :=
        if first ≤ 1 && !every then p.rest
        else
          match found, p.rest with
          | [], c :: cs => c :: q.replaceIn every text bound (first - 1) false (c :: p.before) cs
          | [], [] => []
          | _, rest => q.replaceIn every text bound (first - 1) true p.before rest
      skipped ++ put ++ after

end Search

end Testsmith.Shell
