/-
# Facts from a syntax tree

The first type that a file declares at its top level is the one that counts. Its public methods and
its fields, the annotations on it and the types above it decide its role.

Key definitions: `packageName?`, `primaryType?`, `stereotypeOf`, `factsOf`, `analyze`.
-/
import Testsmith.Facts.Basic
import Testsmith.Facts.TypeName
import Testsmith.Java.Parser

namespace Testsmith.Java

/-! ### Reading declarations -/

/-- The kind of declared type a construct is. -/
def declKind? : Kind → Option DeclKind
  | .classDeclaration => some .plainClass
  | .interfaceDeclaration | .annotationDeclaration => some .interface
  | .enumDeclaration => some .enum
  | .recordDeclaration => some .record
  | _ => none

namespace Node

/-- The kind of declared type a node is. -/
def declKind? : Node → Option DeclKind
  | leaf .. => none
  | branch k _ => Java.declKind? k

/-- The modifiers and annotations of a declaration. -/
def modifierNodes (n : Node) : List Node := ((n.child? .modifiers).map children).getD []

/-- The declaration has the modifier. -/
def hasModifier (n : Node) (w : String) : Bool := n.modifierNodes.any (isKeyword w)

/-- The visibility a declaration states; the widest if it states several. -/
def visibility (n : Node) : Visibility :=
  if n.hasModifier "public" then .everywhere
  else if n.hasModifier "protected" then .inherited
  else if n.hasModifier "private" then .hidden
  else .package

/-- The node is a name, with points or without. -/
def isName (n : Node) : Bool := n.isLeaf .identifier || n.isKind .scopedName

/-- The simple names of the annotations on a declaration, in order. -/
def annotationNames (n : Node) : List String :=
  (n.modifierNodes.filter (isKind .annotationUse)).filterMap fun a =>
    (a.children.find? isName).map fun name => lastSegment name.text

end Node

/-- The package a file declares: its first package declaration counts. -/
def packageName? (root : Node) : Option String :=
  (root.child? .packageDeclaration).bind fun d => (d.children.find? Node.isName).map Node.text

/-- The first type a file declares at its top level. -/
def primaryType? (root : Node) : Option (DeclKind × Node) :=
  root.children.findSome? fun n => n.declKind?.map (·, n)

/-- The braces of a type and what they hold. -/
def Node.body? (n : Node) : Option Node :=
  n.children.find? fun b =>
    b.isKind .classBody || b.isKind .interfaceBody || b.isKind .annotationBody || b.isKind .enumBody

/-- The members of a declared type. Those of an enum follow its constants. -/
def Node.members (n : Node) : List Node :=
  ((n.body?.map children).getD []).flatMap fun m =>
    if m.isKind .enumBodyDeclarations then m.children else [m]

/-- The simple names of the types a construct refers to, type arguments left out. -/
def typeReferences : Node → List String
  | .leaf .typeIdentifier _ text => [text]
  | .leaf .. => []
  | .branch k children =>
    match k with
    | .genericType => firstReference children
    | .scopedType => ((children.filter (Node.isLeaf .typeIdentifier)).getLast?.map Node.text).toList
    | _ => allReferences children
where
  /-- The references of all nodes. -/
  allReferences : List Node → List String
    | [] => []
    | n :: ns => typeReferences n ++ allReferences ns
  /-- The references of the first node that is a name of a type. -/
  firstReference : List Node → List String
    | [] => []
    | n :: ns =>
      if n.isLeaf .typeIdentifier || n.isKind .scopedType then typeReferences n
      else firstReference ns

/-- The simple names of the types that a declared type extends or implements. -/
def supertypes (decl : Node) : List String :=
  [Kind.superclass, .superInterfaces, .extendsInterfaces].flatMap fun k =>
    ((decl.child? k).map typeReferences).getD []

/-! ### Methods and fields -/

/-- The type of a parameter of variable arity: what comes first beside its modifiers and its name. -/
def spreadType? (parameter : Node) : Option String :=
  (parameter.children.find? fun n =>
    n.isNamed && !n.isKind .modifiers && !n.isKind .variableDeclarator).map Node.text

/-- The types of the parameters of a method. A receiver is none of them. -/
def parameterTypes (parameters : Node) : List String :=
  parameters.children.filterMap fun p =>
    if p.isKind .formalParameter then p.type?.map Node.text
    else if p.isKind .spreadParameter then (spreadType? p).map (· ++ "...")
    else none

/-- The signature of a method. -/
def methodOf? (n : Node) : Option Method := do
  let name ← n.name?
  let type ← n.type?
  return {
    name := name.text
    returnType := type.text
    parameterTypes := ((n.child? .formalParameters).map Java.parameterTypes).getD [] }

/-- The method starts a program. -/
def isMain (n : Node) (m : Method) : Bool :=
  m.name == "main" && m.returnType == "void" && m.parameterTypes.length == 1 &&
    n.hasModifier "public" && n.hasModifier "static"

/-- The fields that one declaration declares. -/
def fieldsOf (n : Node) : List Field :=
  match n.type? with
  | none => []
  | some type =>
    (n.children.filter (Node.isKind .variableDeclarator)).filterMap fun d =>
      d.name?.map fun name => ⟨name.text, type.text, n.visibility⟩

/-- The components of a record. They count as private fields. -/
def componentsOf (parameters : Node) : List Field :=
  (parameters.children.filter (Node.isKind .formalParameter)).filterMap fun p => do
    let type ← p.type?
    let name ← p.name?
    return ⟨name.text, type.text, .hidden⟩

/-- The methods of a type with their declarations. -/
def methodsOf (decl : Node) : List (Node × Method) :=
  (decl.members.filter (Node.isKind .methodDeclaration)).filterMap fun m =>
    (methodOf? m).map (m, ·)

/-- The first method of each name. -/
def firstOfEachName (ms : List Method) : List Method :=
  ms.foldl (fun found m => if found.any (·.name == m.name) then found else found ++ [m]) []

/-- The methods that callers outside of the package see. Those of an interface are public unless
they are private. -/
def publicMethods (kind : DeclKind) (decl : Node) : List Method :=
  firstOfEachName (((methodsOf decl).filter fun (n, _) =>
    n.hasModifier "public" || (kind == .interface && !n.hasModifier "private")).map (·.2))

/-- The fields that every object of the type has. -/
def instanceFields (kind : DeclKind) (decl : Node) : List Field :=
  let components :=
    if kind == .record then ((decl.child? .formalParameters).map componentsOf).getD [] else []
  components ++ (decl.members.filter fun m =>
    m.isKind .fieldDeclaration && !m.hasModifier "static").flatMap fieldsOf

/-! ### Role -/

def entryPointAnnotations : List String := ["SpringBootApplication"]

def controllerAnnotations : List String := ["RestController", "Controller"]

def repositoryAnnotations : List String := ["Repository"]

def serviceAnnotations : List String := ["Service", "Component"]

def modelAnnotations : List String :=
  ["Entity", "Embeddable", "MappedSuperclass", "Data", "Value"]

/-- The types whose subtypes are repositories. -/
def repositoryBases : List String :=
  ["JpaRepository", "CrudRepository", "PagingAndSortingRepository", "MongoRepository",
   "ReactiveCrudRepository", "JpaSpecificationExecutor"]

/-- The types by which a program speaks to a database. -/
def persistenceTypes : List String :=
  ["EntityManager", "JdbcTemplate", "NamedParameterJdbcTemplate", "DataSource", "SessionFactory",
   "MongoTemplate"]

/-- Some type in the file is one by which a program speaks to a database. -/
def referencesPersistence (root : Node) : Bool :=
  root.any fun
    | .leaf .typeIdentifier _ text => persistenceTypes.contains text
    | _ => false

/-- All methods are shaped as those of a data holder, with a getter and a setter among them. -/
def isAccessorOnly (methods : List Method) : Bool :=
  !methods.isEmpty && methods.all (·.isAccessorShaped) && methods.any (·.isGetter) &&
    methods.any (·.isSetter)

/-- The role of a type, by the first rule that applies. -/
def stereotypeOf (kind : DeclKind) (annotations supertypes : List String) (methods : List Method)
    (hasMain : Bool) : Stereotype :=
  let annotated (names : List String) := annotations.any names.contains
  if hasMain || annotated entryPointAnnotations then .entryPoint
  else if annotated controllerAnnotations then .controller
  else if annotated repositoryAnnotations || supertypes.any repositoryBases.contains then .repository
  else if annotated serviceAnnotations then .service
  else if kind == .record || annotated modelAnnotations || isAccessorOnly methods then .model
  else .plain

/-! ### Facts -/

def syntaxErrorWarning : String := "source contains syntax errors; facts may be partial"

def noTypeWarning : String := "no type declaration found"

def noMethodsWarning : String := "no public methods found"

/-- The facts that a tree shows. -/
def factsOf (tree : SyntaxTree) : SourceFacts :=
  let package := (packageName? tree.root).getD ""
  let warnings := if tree.broken then [syntaxErrorWarning] else []
  match primaryType? tree.root with
  | none => { package, warnings := warnings ++ [noTypeWarning] }
  | some (kind, decl) =>
    let annotations := decl.annotationNames
    let methods := publicMethods kind decl
    let hasMain := (methodsOf decl).any fun (n, m) => isMain n m
    { package
      className := decl.name?.map Node.text
      kind := some kind
      methods
      fields := instanceFields kind decl
      stereotype := stereotypeOf kind annotations (supertypes decl) methods hasMain
      persistenceAccess := annotations.contains "Entity" || referencesPersistence tree.root
      warnings := warnings ++ if methods.isEmpty then [noMethodsWarning] else [] }

/-- The facts about a source text. Broken text gives the facts of what can be read of it. -/
def analyze (source : String) : SourceFacts := factsOf (parse source)

end Testsmith.Java
