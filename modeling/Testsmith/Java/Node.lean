/-
# Syntax trees of Java

A tree keeps every token of its source with the blanks before it, so that the text of a node is the
source text it covers, inner blanks and comments included. A token that had to be supplied has no
text.

Key definitions: `Leaf`, `Kind`, `Node`, `Node.text`, `Node.child?`, `Node.any`.
-/

namespace Testsmith.Java

/-- What a token is by its place in the grammar. -/
inductive Leaf
  /-- A name of a variable, method, annotation, package or declared type. -/
  | identifier
  /-- A word in the place of a type. -/
  | typeIdentifier
  /-- The underscore in the place of a name. -/
  | underscore
  | keyword (word : String)
  /-- The types `void` and `boolean`. -/
  | primitive
  /-- A number, a character, `true`, `false` or `null`. -/
  | literal
  /-- The words `this` and `super`. -/
  | self
  /-- Text inside a string. -/
  | fragment
  /-- A backslash and what it escapes, inside a string. -/
  | escape
  | symbol
  | comment
  /-- Text that is no token. -/
  | stray
  /-- The end of the source. -/
  | ending
  deriving DecidableEq, Repr

/-- What a construct is. -/
inductive Kind
  | file
  | packageDeclaration | importDeclaration | asterisk | scopedName
  | moduleDeclaration | moduleBody | requiresDirective | requiresModifier | exportsDirective
  | opensDirective | usesDirective | providesDirective
  | classDeclaration | interfaceDeclaration | annotationDeclaration | enumDeclaration
  | recordDeclaration
  | modifiers | annotationUse | annotationArguments | elementPair | elementArray
  | typeParameters | typeParameter | typeBound | superclass | superInterfaces | extendsInterfaces
  | permits | typeList
  | classBody | interfaceBody | annotationBody | enumBody | enumBodyDeclarations | enumConstant
  | fieldDeclaration | constantDeclaration | methodDeclaration | constructorDeclaration
  | compactConstructor | constructorBody | constructorCall | annotationElement | staticInitializer
  | formalParameters | formalParameter | receiverParameter | spreadParameter
  | variableDeclarator | arrayInitializer | dimensions | throws
  | integralType | floatingType | arrayType | genericType | scopedType | annotatedType
  | typeArguments | wildcard
  | block | localVariable | expressionStatement | labeledStatement | assertStatement | doStatement
  | breakStatement | continueStatement | returnStatement | yieldStatement | synchronizedStatement
  | throwStatement | tryStatement | tryWithResources | resources | resource | catchClause
  | catchParameter | catchType | finallyClause | ifStatement | whileStatement | forStatement
  | forEachStatement
  | switchExpression | switchBlock | switchGroup | switchRule | switchLabel | pattern | typePattern
  | recordPattern | recordPatternBody | recordPatternComponent | guard
  | castExpression | assignment | binaryExpression | instanceTest | lambda | inferredParameters
  | conditional | unaryExpression | updateExpression | arrayCreation | dimensionSize
  | parenthesized | classLiteral | objectCreation | fieldAccess | template | arrayAccess
  | invocation | arguments | methodReference
  | stringLiteral | textFragment | embedded
  /-- Input that fits nowhere. -/
  | error
  deriving DecidableEq, Repr

/-- A syntax tree. -/
inductive Node where
  | leaf (kind : Leaf) (lead text : String)
  | branch (kind : Kind) (children : List Node)
  deriving Repr

namespace Node

/-- The tokens under a node: for each the blanks before it and its text. -/
def pieces : Node → List (String × String)
  | leaf _ lead text => [(lead, text)]
  | branch _ children => piecesOf children
where
  /-- The tokens under a list of nodes. -/
  piecesOf : List Node → List (String × String)
    | [] => []
    | n :: ns => n.pieces ++ piecesOf ns

/-- The source text from the first token under the node to the last. -/
def text (n : Node) : String :=
  match n.pieces with
  | [] => ""
  | (_, first) :: rest => rest.foldl (fun s p => s ++ p.1 ++ p.2) first

def children : Node → List Node
  | leaf .. => []
  | branch _ children => children

/-- The node is a construct of this kind. -/
def isKind (k : Kind) : Node → Bool
  | leaf .. => false
  | branch k' _ => k == k'

/-- The node is a token of this kind. -/
def isLeaf (k : Leaf) : Node → Bool
  | leaf k' .. => k == k'
  | branch .. => false

/-- The node is this keyword. -/
def isKeyword (w : String) : Node → Bool
  | leaf (.keyword w') .. => w == w'
  | _ => false

/-- The node is more than a keyword or a sign. -/
def isNamed : Node → Bool
  | leaf (.keyword _) .. | leaf .symbol .. | leaf .ending .. => false
  | _ => true

/-- A construct that is a type and not a single word. -/
def isTypeKind : Kind → Bool
  | .integralType | .floatingType | .arrayType | .genericType | .scopedType | .annotatedType => true
  | _ => false

/-- The node is a type. -/
def isType : Node → Bool
  | leaf .typeIdentifier .. | leaf .primitive .. => true
  | leaf .. => false
  | branch k _ => isTypeKind k

/-- The node can be the name of a declaration. -/
def isDeclaredName (n : Node) : Bool := n.isLeaf .identifier || n.isLeaf .underscore

/-- The first child of a kind. -/
def child? (k : Kind) (n : Node) : Option Node := n.children.find? (isKind k)

/-- The name a declaration gives: its first child that can be one. -/
def name? (n : Node) : Option Node := n.children.find? isDeclaredName

/-- The type a declaration gives: its first child that is a type. -/
def type? (n : Node) : Option Node := n.children.find? isType

/-- Some node of the tree, itself included, has the property. -/
def any (p : Node → Bool) : Node → Bool
  | n@(leaf ..) => p n
  | n@(branch _ children) => p n || anyOf p children
where
  /-- Some node of the trees has the property. -/
  anyOf (p : Node → Bool) : List Node → Bool
    | [] => false
    | n :: ns => n.any p || anyOf p ns

end Node

end Testsmith.Java
