/-
# Finding the sources of a project

The files below a root that match some pattern and no other, each once, in the order of their paths.
Texts that are no patterns are left out.

Key definitions: `discover`, `isExcluded`.
-/
import Testsmith.Glob.Walk

namespace Testsmith

/-- The files and directories below a root that match a pattern for paths relative to it. -/
def matchesBelow (t : FileTree) (root : Path) (pattern : String) : List Path :=
  let base := String.ofList ((Glob.escape root.text).toList.reverse.dropWhile (· == '/')).reverse
  ((Glob.PathPattern.parse? (base ++ "/" ++ pattern)).map (·.expand t)).getD []

/-- Some pattern matches the path relative to the root. -/
def isExcluded (root : Path) (patterns : List Glob.Pattern) (p : Path) : Bool :=
  patterns.any (·.isMatch (p.relativeText root))

/-- The list without the members that are equal to the one before them, as paths. -/
def dropRepeats : List Path → List Path
  | [] => []
  | [p] => [p]
  | p :: q :: ps =>
    if p.compare q = .eq then dropRepeats (p :: ps) else p :: dropRepeats (q :: ps)
termination_by ps => ps.length

/-- The files below a root that match a pattern to include and none to exclude. The root is meant to
be absolute, as that of a project is. Another one is looked for from the top of the tree, as there is
no other place to start from, and what is found has an absolute path then as well. -/
def discover (t : FileTree) (root : Path) (included excluded : List String) : List Path :=
  let excludes := excluded.filterMap fun e => (Glob.Pattern.parse e).toOption
  let found := (included.flatMap (matchesBelow t root)).filter fun p =>
    t.hasFile p && !isExcluded root excludes p
  dropRepeats (found.mergeSort fun p q => p.compare q != .gt)

end Testsmith
