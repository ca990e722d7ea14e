/-
# The automaton of Java

The parser of Java is an automaton; the grammar below is the one it was made from. In it `x?` is an
optional `x`, `x*` any number, `x+` at least one, and `x % ","` at least one with commas between. A
word in quotes is a token. What stands before a colon is a construct; those in parentheses make no
node of their own.

Four kinds of words decide what the grammar leaves open. Operators bind as in Java; assignments and
conditionals group to the right, other operators to the left, and an `else` belongs to the nearest
`if`. A declaration is preferred to a statement that begins alike. Where two readings of a whole
text remain, the one with more generic types and class literals counts. The words `open`, `module`,
`record`, `with` and `sealed` are names unless nothing else fits, and `yield` is one or the other.

```text
file: (statement | methodDeclaration)*
(statement): declaration | expression ";" | identifier ":" statement | ifStatement | whileStatement
  | forStatement | forEachStatement | block | ";" | assertStatement | doStatement | breakStatement
  | continueStatement | returnStatement | yieldStatement | switchExpression
  | synchronizedStatement | localVariable | throwStatement | tryStatement | tryWithResources
(declaration): moduleDeclaration | packageDeclaration | importDeclaration | classDeclaration
  | recordDeclaration | interfaceDeclaration | annotationDeclaration | enumDeclaration

moduleDeclaration: annotationUse* "open"? "module" name moduleBody
moduleBody: "{" (requiresDirective | exportsDirective | opensDirective | usesDirective
  | providesDirective)* "}"
requiresDirective: "requires" requiresModifier* name ";"
requiresModifier: "transitive" | "static"
exportsDirective: "exports" name ("to" name % ",")? ";"
opensDirective: "opens" name ("to" name % ",")? ";"
usesDirective: "uses" name ";"
providesDirective: "provides" name "with" name % "," ";"
packageDeclaration: annotationUse* "package" name ";"
importDeclaration: "import" "static"? name ("." asterisk)? ";"
asterisk: "*"
(name): identifier | reserved | scopedName
scopedName: name "." identifier
(reserved): "open" | "module" | "record" | "with" | "sealed" | "yield"

classDeclaration: modifiers? "class" identifier typeParameters? superclass? superInterfaces?
  permits? classBody
enumDeclaration: modifiers? "enum" identifier superInterfaces? enumBody
recordDeclaration: modifiers? "record" identifier typeParameters? formalParameters
  superInterfaces? classBody
interfaceDeclaration: modifiers? "interface" identifier typeParameters? extendsInterfaces? permits?
  interfaceBody
annotationDeclaration: modifiers? "@interface" identifier annotationBody
modifiers: (annotationUse | "public" | "protected" | "private" | "abstract" | "static" | "final"
  | "strictfp" | "default" | "synchronized" | "native" | "transient" | "volatile" | "sealed" | "non-sealed")+
annotationUse: "@" name annotationArguments?
annotationArguments: "(" (element | (elementPair % ",")?) ")"
elementPair: (identifier | reserved) "=" element
(element): expression | elementArray | annotationUse
elementArray: "{" (element % ",")? ","? "}"
typeParameters: "<" typeParameter % "," ">"
typeParameter: annotationUse* typeIdentifier typeBound?
typeBound: "extends" type % "&"
superclass: "extends" type
superInterfaces: "implements" typeList
extendsInterfaces: "extends" typeList
permits: "permits" typeList
typeList: type % ","

classBody: "{" member* "}"
(member): fieldDeclaration | recordDeclaration | methodDeclaration | compactConstructor
  | classDeclaration | interfaceDeclaration | annotationDeclaration | enumDeclaration | block
  | staticInitializer | constructorDeclaration | ";"
interfaceBody: "{" (constantDeclaration | enumDeclaration | methodDeclaration | classDeclaration
  | interfaceDeclaration | recordDeclaration | annotationDeclaration | ";")* "}"
annotationBody: "{" (annotationElement | constantDeclaration | classDeclaration
  | interfaceDeclaration | enumDeclaration | annotationDeclaration | ";")* "}"
enumBody: "{" (enumConstant % ",")? ","? enumBodyDeclarations? "}"
enumBodyDeclarations: ";" member*
enumConstant: modifiers? identifier arguments? classBody?
staticInitializer: "static" block
fieldDeclaration, constantDeclaration, localVariable: modifiers? plainType
  variableDeclarator % "," ";"
variableDeclarator: variable ("=" (expression | arrayInitializer))?
(variable): (identifier | reserved | "_") dimensions?
arrayInitializer: "{" ((expression | arrayInitializer) % ",")? ","? "}"
methodDeclaration: modifiers? (typeParameters annotationUse*)? plainType (identifier | reserved)
  formalParameters dimensions? throws? (block | ";")
constructorDeclaration: modifiers? typeParameters? identifier formalParameters throws?
  constructorBody
constructorBody: "{" constructorCall? statement* "}"
constructorCall: (typeArguments? ("this" | "super") | primary "." typeArguments? "super")
  arguments ";"
compactConstructor: modifiers? identifier block
annotationElement: modifiers? plainType (identifier | reserved) "(" ")" dimensions?
  ("default" element)? ";"
formalParameters: "(" (receiverParameter | (receiverParameter ",")?
  ((formalParameter | spreadParameter) % ",")?) ")"
formalParameter: modifiers? plainType variable
receiverParameter: annotationUse* plainType (identifier ".")* "this"
spreadParameter: modifiers? plainType "..." annotationUse* variableDeclarator
throws: "throws" type % ","

(type): plainType | annotatedType
annotatedType: annotationUse+ plainType
(plainType): simpleType | arrayType
arrayType: plainType dimensions
dimensions: (annotationUse* "[" "]")+
(simpleType): "void" | integralType | floatingType | "boolean" | typeIdentifier | scopedType
  | genericType
integralType: "byte" | "short" | "int" | "long" | "char"
floatingType: "float" | "double"
scopedType: (typeIdentifier | scopedType | genericType) "." annotationUse* typeIdentifier
genericType: (typeIdentifier | scopedType) typeArguments
typeArguments: "<" ((type | wildcard) % ",")? ">"
wildcard: annotationUse* "?" ("extends" type | "super" type)?

block: "{" statement* "}"
ifStatement: "if" parenthesized statement ("else" statement)?
whileStatement: "while" parenthesized statement
doStatement: "do" statement "while" parenthesized ";"
forStatement: "for" "(" (localVariable | (expression % ",")? ";") expression? ";"
  (expression % ",")? ")" statement
forEachStatement: "for" "(" modifiers? plainType variable ":" expression ")" statement
assertStatement: "assert" expression (":" expression)? ";"
breakStatement: "break" identifier? ";"
continueStatement: "continue" identifier? ";"
returnStatement: "return" expression? ";"
yieldStatement: "yield" expression ";"
throwStatement: "throw" expression ";"
synchronizedStatement: "synchronized" parenthesized block
tryStatement: "try" block (catchClause+ | catchClause* finallyClause)
tryWithResources: "try" resources block catchClause* finallyClause?
catchClause: "catch" "(" catchParameter ")" block
catchParameter: modifiers? catchType variable
catchType: plainType % "|"
finallyClause: "finally" block
resources: "(" resource % ";" ";"? ")"
resource: modifiers? plainType variable "=" expression | identifier | fieldAccess

(expression): assignment | binaryExpression | instanceTest | lambda | conditional
  | updateExpression | primary | unaryExpression | castExpression | switchExpression
assignment: (identifier | reserved | fieldAccess | arrayAccess) operator expression
binaryExpression: expression operator expression
instanceTest: expression "instanceof" "final"? (type (identifier | reserved)? | recordPattern)
lambda: (identifier | reserved | formalParameters | inferredParameters) "->" (expression | block)
inferredParameters: "(" (identifier | reserved) % "," ")"
conditional: expression "?" expression ":" expression
unaryExpression: ("+" | "-" | "!" | "~") expression
updateExpression: expression ("++" | "--") | ("++" | "--") expression
castExpression: "(" type ")" expression | "(" type % "&" ")" (primary | lambda)
switchExpression: "switch" parenthesized switchBlock
switchBlock: "{" (switchGroup* | switchRule*) "}"
switchGroup: (switchLabel ":")+ statement*
switchRule: switchLabel "->" (expressionStatement | throwStatement | block)
switchLabel: "case" (pattern | expression % ",") guard? | "default"
pattern: typePattern | recordPattern
typePattern: plainType (identifier | reserved)
recordPattern: (identifier | reserved | genericType) recordPatternBody
recordPatternBody: "(" ((recordPatternComponent | recordPattern) % ",")? ")"
recordPatternComponent: "_" | plainType (identifier | reserved)
guard: "when" expression
(primary): literal | classLiteral | "this" | identifier | reserved | parenthesized | objectCreation
  | fieldAccess | arrayAccess | invocation | methodReference | arrayCreation | template
parenthesized: "(" expression ")"
classLiteral: plainType "." "class"
objectCreation: (primary ".")? "new" annotationUse* (typeArguments annotationUse*)? simpleType
  arguments classBody?
arrayCreation: "new" annotationUse* simpleType
  (dimensionSize+ dimensions? | dimensions arrayInitializer)
dimensionSize: annotationUse* "[" expression "]"
fieldAccess: (primary | "super") ("." "super")? "." (identifier | reserved | "this")
arrayAccess: primary "[" expression "]"
invocation: ((primary | "super") "." ("super" ".")? typeArguments?)? (identifier | reserved)
  arguments
arguments: "(" (expression % ",")? ")"
methodReference: (type | primary | "super") "::" typeArguments? ("new" | identifier)
template: primary "." stringLiteral
stringLiteral: quote (text | escape | embedded)* quote
embedded: "\\{" expression "}"
```

Key definitions: `constructKinds`, `automaton`.
-/
import Testsmith.Java.Automaton.Gotos
import Testsmith.Java.Automaton.Rows
import Testsmith.Java.Automaton.Shifts
import Testsmith.Java.Automaton.TokenSets
import Testsmith.Java.Lexicon
import Testsmith.Java.Node

namespace Testsmith.Java

open Parsing (Automaton)

/-- The constructs that make a node, by their numbers. The others group what their parents hold. -/
def constructKinds : List (Nat × Kind) :=
  [(0, .file), (3, .stringLiteral), (6, .textFragment), (7, .embedded), (10, .castExpression),
   (11, .assignment), (12, .binaryExpression), (13, .instanceTest), (14, .lambda),
   (15, .inferredParameters), (16, .conditional), (17, .unaryExpression), (18, .updateExpression),
   (20, .arrayCreation), (21, .dimensionSize), (22, .parenthesized), (23, .classLiteral),
   (24, .objectCreation), (26, .fieldAccess), (27, .template), (28, .arrayAccess),
   (29, .invocation), (30, .arguments), (31, .methodReference), (32, .typeArguments),
   (33, .wildcard), (35, .dimensions), (36, .switchExpression), (37, .switchBlock),
   (38, .switchGroup), (39, .switchRule), (40, .switchLabel), (41, .pattern), (42, .typePattern),
   (43, .recordPattern), (44, .recordPatternBody), (45, .recordPatternComponent), (46, .guard),
   (48, .block), (49, .expressionStatement), (50, .labeledStatement), (51, .assertStatement),
   (52, .doStatement), (53, .breakStatement), (54, .continueStatement), (55, .returnStatement),
   (56, .yieldStatement), (57, .synchronizedStatement), (58, .throwStatement), (59, .tryStatement),
   (60, .catchClause), (61, .catchParameter), (62, .catchType), (63, .finallyClause),
   (64, .tryWithResources), (65, .resources), (66, .resource), (67, .ifStatement),
   (68, .whileStatement), (69, .forStatement), (70, .forEachStatement), (72, .annotationUse),
   (73, .annotationUse), (74, .annotationArguments), (75, .elementPair), (77, .elementArray),
   (79, .moduleDeclaration), (80, .moduleBody), (82, .requiresDirective), (83, .requiresModifier),
   (84, .exportsDirective), (85, .opensDirective), (86, .usesDirective), (87, .providesDirective),
   (88, .packageDeclaration), (89, .importDeclaration), (90, .asterisk), (91, .enumDeclaration),
   (92, .enumBody), (93, .enumBodyDeclarations), (94, .enumConstant), (95, .classDeclaration),
   (96, .modifiers), (97, .typeParameters), (98, .typeParameter), (99, .typeBound),
   (100, .superclass), (101, .superInterfaces), (102, .typeList), (103, .permits),
   (104, .classBody), (105, .staticInitializer), (106, .constructorDeclaration),
   (108, .constructorBody), (109, .constructorCall), (110, .scopedName), (111, .fieldDeclaration),
   (112, .recordDeclaration), (113, .annotationDeclaration), (114, .annotationBody),
   (115, .annotationElement), (117, .interfaceDeclaration), (118, .extendsInterfaces),
   (119, .interfaceBody), (120, .constantDeclaration), (122, .variableDeclarator),
   (124, .arrayInitializer), (127, .annotatedType), (128, .scopedType), (129, .genericType),
   (130, .arrayType), (131, .integralType), (132, .floatingType), (135, .formalParameters),
   (136, .formalParameter), (137, .receiverParameter), (138, .spreadParameter), (139, .throws),
   (140, .localVariable), (141, .methodDeclaration), (142, .compactConstructor)]

/-- The kind of node a construct makes. -/
def kindOf? (construct : Nat) : Option Kind := constructKinds.lookup construct

/-- Generic types and class literals are preferred to other readings. -/
def preferenceOf (construct : Nat) : Nat :=
  match kindOf? construct with
  | some .genericType => 10
  | some .classLiteral => 17
  | _ => 0

def automaton : Automaton where
  lexicon := lexicon
  tokenCount := 138
  rows := rows
  shiftMaps := shiftMaps
  gotoMaps := gotoMaps
  tokenSets := tokenSets
  acceptState := 1310
  extras := commentTokens
  unskippable := fragmentTokens
  hiddenTokens := [0, 14, 15, 18]
  isHidden c := (kindOf? c).isNone
  preference := preferenceOf

end Testsmith.Java
