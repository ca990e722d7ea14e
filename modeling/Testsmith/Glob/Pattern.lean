/-
# Glob patterns

A pattern for texts. `?` matches any character and `*` any characters, slashes included; brackets
match one character of a class, or with `!` one that is not in it. `**` stands for whole components
of a path and has to be one itself.

Key definitions: `Glob.Token`, `Glob.Pattern`, `Glob.Pattern.parse`, `Glob.matchesFrom`,
`Glob.Pattern.isMatch`, `Glob.escape`.
-/
import Testsmith.Path

namespace Testsmith.Glob

/-- A part of a class of characters. -/
inductive Member
  | one (c : Char)
  | range (first last : Char)
  deriving DecidableEq, Repr

def Member.holds (c : Char) : Member → Bool
  | one d => c == d
  | range first last => first ≤ c && c ≤ last

inductive Token
  | char (c : Char)
  /-- Any character. -/
  | any
  /-- Any characters. -/
  | sequence
  /-- Any components of a path. -/
  | components
  /-- A character of a class, or one outside of it. -/
  | oneOf (members : List Member) (inside : Bool)
  deriving DecidableEq, Repr

/-- What a single character has to be. -/
def Token.accepts (c : Char) : Token → Bool
  | char d => c == d
  | any => true
  | oneOf members inside => members.any (·.holds c) == inside
  | sequence | components => false

/-- The character the token stands for, if it stands for one. -/
def Token.literal? : Token → Option Char
  | char c => some c
  | _ => none

structure Pattern where
  tokens : List Token
  deriving DecidableEq, Repr

/-- Why a text is no pattern. -/
inductive Fault
  | tooManyStars | starsInComponent | badClass
  deriving DecidableEq, Repr

/-- A fault and its place. -/
structure PatternError where
  position : Nat
  fault : Fault
  deriving DecidableEq, Repr

def Fault.text : Fault → String
  | tooManyStars => "wildcards are either regular \x60*\x60 or recursive \x60**\x60"
  | starsInComponent => "recursive wildcards must form a single path component"
  | badClass => "invalid range pattern"

def PatternError.message (e : PatternError) : String :=
  "Pattern syntax error near position " ++ toString e.position ++ ": " ++ e.fault.text

/-! ### Reading patterns -/

/-- The members of a class. -/
def members : List Char → List Member
  | a :: '-' :: b :: cs => .range a b :: members cs
  | a :: cs => .one a :: members cs
  | [] => []

/-- A class, after its opening bracket: its token, its length with both brackets, and what follows. Its
first character may be a closing bracket. -/
def readClass (cs : List Char) : Option (Token × Nat × List Char) :=
  let (inside, front, cs) :=
    match cs with
    | '!' :: cs => (false, 2, cs)
    | cs => (true, 1, cs)
  match cs with
  | [] => none
  | first :: rest =>
    let more := rest.takeWhile (· != ']')
    match rest.dropWhile (· != ']') with
    | [] => none
    | _ :: after => some (.oneOf (members (first :: more)) inside, front + more.length + 2, after)

/-- Reads the tokens of a pattern from a place on. `componentStart` says that the place begins a
component, and `tokens` come before it. -/
def readTokens : (bound : Nat) → (position : Nat) → (componentStart : Bool) → (tokens : List Token) →
    List Char → Except PatternError (List Token)
  | 0, _, _, tokens, _ => .ok tokens
  | _, _, _, tokens, [] => .ok tokens
  | bound + 1, position, componentStart, tokens, c :: cs =>
    match c with
    | '?' => readTokens bound (position + 1) false (tokens ++ [.any]) cs
    | '*' =>
      let stars := 1 + (cs.takeWhile (· == '*')).length
      let rest := cs.dropWhile (· == '*')
      if stars = 1 then readTokens bound (position + 1) false (tokens ++ [.sequence]) cs
      else if 2 < stars then .error ⟨position + 2, .tooManyStars⟩
      else if !componentStart then .error ⟨position - 1, .starsInComponent⟩
      else
        let longer :=
          if 1 < tokens.length && tokens.getLast? == some .components then tokens
          else tokens ++ [.components]
        match rest with
        | [] => .ok longer
        | '/' :: rest => readTokens bound (position + 3) true longer rest
        | _ => .error ⟨position + 2, .starsInComponent⟩
    | '[' =>
      match readClass cs with
      | some (token, length, rest) =>
        readTokens bound (position + length) false (tokens ++ [token]) rest
      | none => .error ⟨position, .badClass⟩
    | c => readTokens bound (position + 1) (c == '/') (tokens ++ [.char c]) cs

/-- The pattern in a text. -/
def Pattern.parse (text : String) : Except PatternError Pattern :=
  (readTokens text.length 0 true [] text.toList).map Pattern.mk

/-! ### Matching -/

/-- The test holds for what follows some character. It is told whether that is a slash. -/
def afterSome (p : Bool → List Char → Bool) : List Char → Bool
  | [] => false
  | c :: cs => p (c == '/') cs || afterSome p cs

/-- The test holds for what follows some slash, or for nothing. -/
def afterSlash (p : Bool → List Char → Bool) : List Char → Bool
  | [] => p false []
  | c :: cs => (c == '/' && p true cs) || afterSlash p cs

/-- The tokens match a text. `atStart` says that the text begins a component of a path. -/
def matchesFrom : List Token → (atStart : Bool) → List Char → Bool
  | [], _, cs => cs.isEmpty
  | .sequence :: ts, atStart, cs => matchesFrom ts atStart cs || afterSome (matchesFrom ts) cs
  | .components :: ts, atStart, cs =>
    (atStart && matchesFrom ts true cs) || afterSlash (matchesFrom ts) cs
  | _ :: _, _, [] => false
  | t :: ts, _, c :: cs => t.accepts c && matchesFrom ts (c == '/') cs

/-- The pattern matches the whole text. -/
def Pattern.isMatch (p : Pattern) (text : String) : Bool := matchesFrom p.tokens true text.toList

/-- The text the pattern alone matches, if it has no wildcards. -/
def Pattern.literal? (p : Pattern) : Option String :=
  (p.tokens.mapM Token.literal?).map String.ofList

/-- The pattern is one of whole components. -/
def Pattern.isComponents (p : Pattern) : Bool := p.tokens.contains .components

/-- A pattern for a text alone. -/
def escape (text : String) : String :=
  String.ofList (text.toList.flatMap fun c =>
    if ['?', '*', '[', ']'].contains c then ['[', c, ']'] else [c])

end Testsmith.Glob
