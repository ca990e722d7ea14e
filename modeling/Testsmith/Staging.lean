/-
# Staging

A test is tried at the place where it is to be kept. For the time of the trial it stands over
whatever was there, and missing directories are made for it; afterwards the file is put back, or
taken away if there was none, and the directories that were made go as far as nothing is in them.

Key definitions: `Staged`, `Staged.stage`, `Staged.putBack`.
-/
import Testsmith.FileTree

namespace Testsmith

/-- What is needed to put things back. -/
structure Staged where
  path : Path
  /-- The file that was at the place. -/
  previous : Option ByteArray
  /-- The directories that were not there, the deepest first. -/
  created : List Path
  deriving DecidableEq

namespace Staged

/-- The directories on the way to a path, the deepest first. A path has at most `bound` of them. -/
def ancestorsWithin : (bound : Nat) → Path → List Path
  | 0, _ => []
  | bound + 1, p =>
    match p.parent? with
    | none => []
    | some parent => parent :: ancestorsWithin bound parent

/-- The directories on the way to a path, the deepest first. -/
def ancestors (p : Path) : List Path := ancestorsWithin p.components.length p

/-- Those of the directories on the way to a path that have to be made. -/
def missing (t : FileTree) (p : Path) : List Path :=
  (ancestors p).takeWhile fun dir => !dir.text.isEmpty && !t.has dir

/-- Removes directories in turn, as far as they are there and have nothing in them. -/
def removeDirs (t : FileTree) : List Path → FileTree
  | [] => t
  | dir :: dirs =>
    match t.removeDir dir with
    | .ok t => removeDirs t dirs
    | .error _ => t

/-- Puts things back. -/
def putBack (s : Staged) (t : FileTree) : Except IoError Unit × FileTree :=
  match s.previous with
  | some content =>
    match t.write s.path content with
    | .ok t => (.ok (), removeDirs t s.created)
    | .error e => (.error e, t)
  | none =>
    match t.removeFile s.path with
    | .ok t => (.ok (), removeDirs t s.created)
    | .error .notFound => (.ok (), removeDirs t s.created)
    | .error e => (.error e, t)

/-- The file at a path, or nothing if there is none. -/
def previousAt (t : FileTree) (p : Path) : Except IoError (Option ByteArray) :=
  match t.read p with
  | .ok content => .ok (some content)
  | .error .notFound => .ok none
  | .error e => .error e

/-- Puts a file in its place for a trial. If that fails, things are put back at once. -/
def stage (t : FileTree) (p : Path) (content : ByteArray) : Except IoError Staged × FileTree :=
  match previousAt t p with
  | .error e => (.error e, t)
  | .ok previous =>
    let staged : Staged := ⟨p, previous, missing t p⟩
    match t.place p content with
    | (.ok (), t) => (.ok staged, t)
    | (.error e, t) => (.error e, (staged.putBack t).2)

end Staged

end Testsmith
