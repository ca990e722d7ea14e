/-
# Paths

A path is kept as the text it was built from. Its components are what the text says without
repeated separators, inner points and separators at its end; paths are compared and printed
relative to one another by them.

Key definitions: `Path`, `Path.Component`, `Path.components`, `Path.push`, `Path.parent?`,
`Path.stripBase?`, `Path.displayRelative`.
-/

namespace Testsmith

/-- The text of a path. -/
structure Path where
  text : String
  deriving DecidableEq, Repr

namespace Path

/-- A part of a path. The order of the constructors is the order of paths. -/
inductive Component
  | root
  /-- A point at the start of a relative path. -/
  | here
  | up
  | name (s : String)
  deriving DecidableEq, Repr

namespace Component

def text : Component → String
  | root => "/"
  | here => "."
  | up => ".."
  | name s => s

/-- The order of components: names last, by code points. -/
def compare : Component → Component → Ordering
  | root, root | here, here | up, up => .eq
  | name a, name b => Ord.compare a b
  | root, _ => .lt
  | _, root => .gt
  | here, _ => .lt
  | _, here => .gt
  | up, _ => .lt
  | _, up => .gt

end Component

/-- The parts of a text between slashes. -/
def splitSlashes : List Char → List (List Char)
  | [] => [[]]
  | '/' :: cs => [] :: splitSlashes cs
  | c :: cs =>
    match splitSlashes cs with
    | [] => [[c]]
    | s :: ss => (c :: s) :: ss

/-- The component a part stands for, unless it says nothing. -/
def component? : List Char → Option Component
  | [] | ['.'] => none
  | ['.', '.'] => some .up
  | s => some (.name (String.ofList s))

/-- The components of a text. -/
def componentsList (cs : List Char) : List Component :=
  match splitSlashes cs with
  | [] :: parts@(_ :: _) => .root :: parts.filterMap component?
  | ['.'] :: parts => .here :: parts.filterMap component?
  | parts => parts.filterMap component?

/-- The components of a path. -/
def components (p : Path) : List Component := componentsList p.text.toList

def isAbsolute (p : Path) : Bool := p.text.startsWith "/"

/-- The path with another one put after it. An absolute one takes its place. -/
def push (p q : Path) : Path :=
  if q.isAbsolute then q
  else if p.text.isEmpty || p.text.endsWith "/" then ⟨p.text ++ q.text⟩
  else ⟨p.text ++ "/" ++ q.text⟩

/-- The path of a name under the path. -/
def join (p : Path) (s : String) : Path := p.push ⟨s⟩

/-- The plainest text with these components. -/
def ofComponents (cs : List Component) : Path :=
  match cs with
  | .root :: rest => ⟨"/" ++ "/".intercalate (rest.map Component.text)⟩
  | _ => ⟨"/".intercalate (cs.map Component.text)⟩

/-- The path without its last component, if it has one that is not the root. -/
def parent? (p : Path) : Option Path :=
  match p.components.getLast? with
  | none | some .root => none
  | some _ => some (ofComponents p.components.dropLast)

/-- The last component, if it is a name. -/
def fileName? (p : Path) : Option String :=
  match p.components.getLast? with
  | some (.name s) => some s
  | _ => none

/-- The name of a file without what follows its last point. A point at the start counts as part of
the name. -/
def stem (name : String) : String :=
  let cs := name.toList
  let before := (cs.reverse.dropWhile (· != '.')).drop 1
  if before.isEmpty then name else String.ofList before.reverse

/-- The components after those of the base, if the path starts with these. -/
def stripBase? (base p : Path) : Option (List Component) :=
  go base.components p.components
where
  go : List Component → List Component → Option (List Component)
    | [], cs => some cs
    | _ :: _, [] => none
    | b :: bs, c :: cs => if b = c then go bs cs else none

/-- The parts at the end of a path that have so many components, the parts read backwards. -/
def lastParts : (count : Nat) → List (List Char) → List (List Char)
  | 0, _ | _, [] => []
  | count + 1, s :: ss =>
    s :: if (component? s).isNone then lastParts (count + 1) ss else lastParts count ss

/-- The text of the path after the base, or all of it. -/
def relativeText (p base : Path) : String :=
  match stripBase? base p with
  | none => p.text
  | some rest =>
    let parts := (splitSlashes p.text.toList).reverse.dropWhile fun s => (component? s).isNone
    String.ofList (['/'].intercalate (lastParts rest.length parts).reverse)

/-- The components of the path after the base, or all of them, with slashes between. -/
def displayRelative (p base : Path) : String :=
  "/".intercalate (((stripBase? base p).getD p.components).map Component.text)

/-- The order of two lists of components. -/
def compareComponents : List Component → List Component → Ordering
  | [], [] => .eq
  | [], _ => .lt
  | _, [] => .gt
  | a :: as, b :: bs => (a.compare b).then (compareComponents as bs)

/-- The order of paths, component by component. -/
def compare (p q : Path) : Ordering := compareComponents p.components q.components

end Path

end Testsmith
