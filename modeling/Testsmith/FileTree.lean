/-
# Trees of files

The directories and files that a program works on, as a value. Paths are followed from the top, one
component after another; `..` leads to the directory above. Every operation that fails says why, and
leaves the tree as it is, except that `makeDirs` may already have made some of the directories.

Key definitions: `FileTree`, `FileTree.node?`, `FileTree.locate`, `FileTree.read`, `FileTree.write`,
`FileTree.makeDirs`, `FileTree.removeFile`, `FileTree.removeDir`.
-/
import Testsmith.Error
import Testsmith.Path

namespace Testsmith

/-- The names that lead to an entry, from the top. -/
abbrev Location := List String

/-- Contents are compared byte by byte. -/
instance (priority := 2000) instDecidableEqContent : DecidableEq ByteArray := fun a b =>
  decidable_of_iff (a.data = b.data) ByteArray.ext_iff.symm

/-- What may be at a location. -/
inductive FileNode
  | directory
  | file (content : ByteArray)
  deriving DecidableEq

/-- Directories and files. The top is a directory and not listed. -/
structure FileTree where
  entries : List (Location × FileNode)

namespace FileTree

def empty : FileTree := ⟨[]⟩

instance : Inhabited FileTree := ⟨empty⟩

/-- What is at a location. -/
def node? (t : FileTree) (l : Location) : Option FileNode :=
  if l.isEmpty then some .directory else t.entries.lookup l

/-- The tree without what is at a location. -/
def erase (t : FileTree) (l : Location) : FileTree := ⟨t.entries.filter (·.1 ≠ l)⟩

/-- The tree with an entry at a location, instead of what was there. -/
def put (t : FileTree) (l : Location) (n : FileNode) : FileTree := ⟨(l, n) :: (t.erase l).entries⟩

/-- The entry is right below the location. -/
def isChild (l : Location) (e : Location × FileNode) : Bool :=
  !e.1.isEmpty && e.1.dropLast == l

/-- The names right below a location, in order. -/
def childNames (t : FileTree) (l : Location) : List String :=
  ((t.entries.filter (isChild l)).filterMap (·.1.getLast?)).mergeSort (· ≤ ·)

/-! ### Following paths -/

/-- The longest name of an entry, in bytes. -/
def nameLimit : Nat := 255

/-- The least length of a path, in bytes, that is too long. -/
def pathLimit : Nat := 4096

/-- Where a component of a path leads from a location. -/
def step (t : FileTree) (l : Location) (part : String) : Except IoError Location :=
  match t.node? l with
  | none => .error .notFound
  | some (.file _) => .error .notDirectory
  | some .directory =>
    if part = ".." then .ok l.dropLast
    else if nameLimit < part.utf8ByteSize then .error .nameTooLong
    else .ok (l ++ [part])

/-- The parts of a path that lead somewhere. -/
def pathParts (p : Path) : List String :=
  ((Path.splitSlashes p.text.toList).filter fun s => !(s.isEmpty || s == ['.'])).map String.ofList

/-- The path can only mean a directory. -/
def endsAsDirectory (p : Path) : Bool := p.text.endsWith "/" || p.text.endsWith "/."

/-- The location that a path leads to. There need not be anything. -/
def locate (t : FileTree) (p : Path) : Except IoError Location :=
  if p.text.isEmpty then .error .notFound
  else if p.text.toList.contains '\x00' then .error .nulInPath
  else if pathLimit ≤ p.text.utf8ByteSize then .error .nameTooLong
  else do
    let l ← (pathParts p).foldlM t.step []
    match endsAsDirectory p, t.node? l with
    | true, some (.file _) => .error .notDirectory
    | _, _ => .ok l

/-- The entry that a path leads to. -/
def find (t : FileTree) (p : Path) : Except IoError (Location × FileNode) := do
  let l ← t.locate p
  match t.node? l with
  | some n => .ok (l, n)
  | none => .error .notFound

def has (t : FileTree) (p : Path) : Bool := (t.find p).toOption.isSome

def hasDirectory (t : FileTree) (p : Path) : Bool :=
  match t.find p with
  | .ok (_, .directory) => true
  | _ => false

def hasFile (t : FileTree) (p : Path) : Bool :=
  match t.find p with
  | .ok (_, .file _) => true
  | _ => false

/-! ### Reading -/

/-- The content of a file. -/
def read (t : FileTree) (p : Path) : Except IoError ByteArray :=
  match t.find p with
  | .ok (_, .file content) => .ok content
  | .ok (_, .directory) => .error .isDirectory
  | .error e => .error e

/-- The content of a file as text. -/
def readText (t : FileTree) (p : Path) : Except IoError String := do
  match String.fromUTF8? (← t.read p) with
  | some s => .ok s
  | none => .error .notText

/-- The names in a directory, in order. -/
def names (t : FileTree) (p : Path) : Except IoError (List String) :=
  match t.find p with
  | .ok (l, .directory) => .ok (t.childNames l)
  | .ok (_, .file _) => .error .notDirectory
  | .error e => .error e

/-! ### Writing -/

/-- Writes a file. It may be new, and its directory has to be there. -/
def write (t : FileTree) (p : Path) (content : ByteArray) : Except IoError FileTree := do
  let l ← t.locate p
  match t.node? l with
  | some .directory => .error .isDirectory
  | some (.file _) => .ok (t.put l (.file content))
  | none => if endsAsDirectory p then .error .isDirectory else .ok (t.put l (.file content))

/-- Makes a directory. -/
def makeDir (t : FileTree) (p : Path) : Except IoError FileTree := do
  let l ← t.locate p
  match t.node? l with
  | some _ => .error .alreadyThere
  | none => .ok (t.put l .directory)

/-- Makes a directory, unless it is there already. -/
def ensureDir (t : FileTree) (p : Path) : Except IoError FileTree :=
  match t.makeDir p with
  | .error e => if t.hasDirectory p then .ok t else .error e
  | made => made

/-- Makes a directory and the directories on its path. A path has at most `bound` of them. -/
def makeDirsWithin : (bound : Nat) → FileTree → Path → Except IoError Unit × FileTree
  | 0, t, _ => (.ok (), t)
  | bound + 1, t, p =>
    if p.text.isEmpty then (.ok (), t)
    else
      match t.ensureDir p with
      | .ok t => (.ok (), t)
      | .error .notFound =>
        match p.parent? with
        | none => (.error .noTree, t)
        | some parent =>
          match makeDirsWithin bound t parent with
          | (.error e, t) => (.error e, t)
          | (.ok (), t) =>
            match t.ensureDir p with
            | .ok t => (.ok (), t)
            | .error e => (.error e, t)
      | .error e => (.error e, t)

/-- Makes a directory and the directories on its path. -/
def makeDirs (t : FileTree) (p : Path) : Except IoError Unit × FileTree :=
  makeDirsWithin (p.components.length + 1) t p

/-- Makes the directories for a file and writes it. -/
def place (t : FileTree) (p : Path) (content : ByteArray) : Except IoError Unit × FileTree :=
  let made : Except IoError Unit × FileTree :=
    match p.parent? with
    | none => (.ok (), t)
    | some parent => t.makeDirs parent
  match made with
  | (.error e, t) => (.error e, t)
  | (.ok (), t) =>
    match t.write p content with
    | .ok t => (.ok (), t)
    | .error e => (.error e, t)

/-! ### Removing -/

/-- Removes a file. -/
def removeFile (t : FileTree) (p : Path) : Except IoError FileTree := do
  match ← t.find p with
  | (_, .directory) => .error .isDirectory
  | (l, .file _) => .ok (t.erase l)

/-- Removes a directory with nothing in it. -/
def removeDir (t : FileTree) (p : Path) : Except IoError FileTree := do
  match ← t.find p with
  | (_, .file _) => .error .notDirectory
  | (l, .directory) =>
    if t.entries.any (isChild l) || p.components.getLast? = some .up then .error .notEmpty
    else if l.isEmpty then .error .busy
    else .ok (t.erase l)

/-- The tree without what is at a location or below it. -/
def prune (t : FileTree) (l : Location) : FileTree := ⟨t.entries.filter fun e => !l.isPrefixOf e.1⟩

end FileTree

end Testsmith
