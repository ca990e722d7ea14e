/-
# Reading Java

`parse` gives a tree for every text. A text of the grammar is read as it is; in any other, as little
as possible is supplied or passed over. A word is a name or a type by where it stands, and the words
that are keywords in some places only are names in others.

Key definitions: `SyntaxTree`, `Node.ofSubtree`, `parse`.
-/
import Testsmith.Java.Automaton
import Testsmith.Parsing.Run

namespace Testsmith.Java

open Parsing (Subtree Symbol)

/-- The tree of a source text, and whether there is an error in the text. -/
structure SyntaxTree where
  root : Node
  broken : Bool
  deriving Repr

/-- Constructs in which a word is a type: types, and what creates an object of a type or declares a
type variable. -/
def typePlaces : List Nat := [20, 25, 98, 126, 128, 129]

/-- The construct of a word that is a keyword elsewhere and a name here. -/
def reservedName : Nat := 143

/-- What a token is, by the construct right above it. -/
def leafOf (parent : Option Nat) (token : Nat) : Leaf :=
  if token = Parsing.endToken then .ending
  else if token = identifierToken then
    if parent.any typePlaces.contains then .typeIdentifier else .identifier
  else if literalTokens.contains token then .literal
  else if fragmentTokens.contains token then .fragment
  else if escapeTokens.contains token then .escape
  else if commentTokens.contains token then .comment
  else
    match keywords.find? (·.2 = token) with
    | none => if token = 117 then .keyword "non-sealed" else .symbol
    | some (w, _) =>
      if parent = some reservedName then .identifier
      else if w = "_" then .underscore
      else if ["void", "boolean"].contains w then .primitive
      else if ["true", "false", "null"].contains w then .literal
      else if ["this", "super"].contains w then .self
      else .keyword w

/-- The nodes of a tree under a construct. A construct that makes no node gives those of its
parts. -/
def Node.ofSubtree (parent : Option Nat) : Subtree → List Node
  | .leaf f lead text =>
    let kind :=
      match f.symbol with
      | .token t => leafOf parent t
      | _ => .stray
    [.leaf kind (String.ofList lead) (String.ofList text)]
  | .node f children =>
    match f.symbol with
    | .construct c =>
      match kindOf? c with
      | some k => [.branch k (ofAll (some c) children)]
      | none => ofAll (some c) children
    | .error => [.branch .error (ofAll none children)]
    | _ => ofAll none children
where
  /-- The nodes of all trees. -/
  ofAll (parent : Option Nat) : List Subtree → List Node
    | [] => []
    | t :: ts => ofSubtree parent t ++ ofAll parent ts

/-- The tree of a source text. -/
def parse (source : String) : SyntaxTree :=
  let tree := Parsing.parseText automaton source.toList
  { root := (Node.ofSubtree none tree).headD (.branch .error [])
    broken := 0 < tree.cost }

end Testsmith.Java
