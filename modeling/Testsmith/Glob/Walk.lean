/-
# Finding files by a pattern

A pattern for absolute paths is followed through a tree of files directory by directory: each of its
components is a pattern for one name, and `**` leads to every directory below. A component without
wildcards is taken as it stands, so that `.` and `..` may be components.

Key definitions: `Glob.PathPattern`, `Glob.PathPattern.parse?`, `Glob.PathPattern.expand`.
-/
import Testsmith.FileTree
import Testsmith.Glob.Pattern

namespace Testsmith.Glob

/-- A pattern for absolute paths. -/
structure PathPattern where
  /-- The components, from the top. -/
  components : List Pattern
  /-- Only directories match. -/
  directoryOnly : Bool
  deriving DecidableEq, Repr

/-- The parts between slashes; nothing follows a slash at the end. -/
def splitTerminated (cs : List Char) : List (List Char) :=
  let parts := Path.splitSlashes cs
  if parts.getLast? == some [] then parts.dropLast else parts

/-- The pattern in a text. Both the whole text and each component have to be patterns. A text without
a slash at its start is taken from the top as well. -/
def PathPattern.parse? (text : String) : Option PathPattern := do
  let _ ← (Pattern.parse text).toOption
  let rest := if text.startsWith "/" then text.toList.drop 1 else text.toList
  let parts := if rest.isEmpty then [[]] else splitTerminated rest
  let components ← parts.mapM fun part => (Pattern.parse (String.ofList part)).toOption
  return ⟨components, text.endsWith "/"⟩

/-- The paths of the entries of a directory. -/
def childPaths (t : FileTree) (dir : Path) : List Path :=
  ((t.names dir).toOption.getD []).map dir.join

mutual

/-- The paths below a directory that match. -/
def enter (t : FileTree) : (bound : Nat) → List Pattern → Path → List Path
  | 0, _, _ | _, [], _ => []
  | bound + 1, p :: ps, dir =>
    match p.literal? with
    | some name =>
      let next := dir.join name
      if (if name = "." || name = ".." then t.hasDirectory dir else t.has next) then
        arrive t bound ps next
      else []
    | none =>
      (childPaths t dir).flatMap (visit t bound (p :: ps)) ++
        (if p.tokens.head? == some (.char '.') && t.hasDirectory dir then
          ([".", ".."].filter p.isMatch).flatMap fun name => arrive t bound ps (dir.join name)
        else [])

/-- The paths that match where all components so far have led to a path. -/
def arrive (t : FileTree) : (bound : Nat) → List Pattern → Path → List Path
  | 0, _, _ => []
  | _, [], path => [path]
  | bound + 1, ps, path => enter t bound ps path

/-- The paths that match, among a path and those below it. The next component is for its name. -/
def visit (t : FileTree) : (bound : Nat) → List Pattern → Path → List Path
  | 0, _, _ | _, [], _ => []
  | bound + 1, p :: ps, path =>
    if p.isComponents then
      let rest := ps.dropWhile (·.isComponents)
      (if t.hasDirectory path then enter t bound (p :: rest) path else []) ++
        (if rest.isEmpty then if t.hasDirectory path then [path] else []
        else named t bound rest path)
    else named t bound (p :: ps) path

/-- The same, where the next component is one for names. -/
def named (t : FileTree) : (bound : Nat) → List Pattern → Path → List Path
  | 0, _, _ | _, [], _ => []
  | bound + 1, p :: ps, path =>
    if path.fileName?.any p.isMatch then arrive t bound ps path else []

end

/-- The paths in a tree that match. -/
def PathPattern.expand (p : PathPattern) (t : FileTree) : List Path :=
  let bound := 4 * (p.components.length + 1) * (t.entries.length + 2)
  (enter t bound p.components ⟨"/"⟩).filter fun path => !p.directoryOnly || t.hasDirectory path

end Testsmith.Glob
