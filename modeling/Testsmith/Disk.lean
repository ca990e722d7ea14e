/-
# Trees on the disk

Reads the part of the disk that a program works on as a tree of files, and makes the disk look like
another tree. Nothing is decided here.

Key definitions: `Disk.load`, `Disk.save`.
-/
import Testsmith.FileTree

namespace Testsmith.Disk

/-- The tree with the directories above a location, and the location as one of them. -/
def withDirectories (t : FileTree) (l : Location) : FileTree :=
  (List.range l.length).foldl (fun t n => t.put (l.take (n + 1)) .directory) t

/-- The location of an absolute path. -/
def locationOf (path : String) : Location := (path.splitOn "/").filter (!·.isEmpty)

def pathOf (l : Location) : String := "/" ++ "/".intercalate l

/-- Adds what is in a directory of the disk. Links are not followed, and what cannot be read is left
out. -/
partial def loadEntry (t : FileTree) (l : Location) (e : IO.FS.DirEntry) : IO FileTree := do
  let here := l ++ [e.fileName]
  try
    match (← e.path.symlinkMetadata).type with
    | .dir =>
      let entries ← e.path.readDir
      entries.foldlM (fun t e => loadEntry t here e) (t.put here .directory)
    | .file => return t.put here (.file (← IO.FS.readBinFile e.path))
    | _ => return t
  catch _ => return t

/-- The tree of what is at a real path of the disk. -/
def load (path : String) : IO FileTree := do
  let l := locationOf path
  let above := withDirectories .empty l.dropLast
  let place ← IO.FS.realPath path
  if ← place.isDir then
    (← place.readDir).foldlM (fun t e => loadEntry t l e) (withDirectories above l)
  else return above.put l (.file (← IO.FS.readBinFile place))

/-- Makes the disk follow a tree from what it was before. -/
def save (before after : FileTree) : IO Unit := do
  let changed := after.entries.filter fun (l, n) => before.node? l != some n
  for (l, n) in changed.mergeSort fun a b => a.1.length ≤ b.1.length do
    match n with
    | .directory => IO.FS.createDirAll (pathOf l)
    | .file content => IO.FS.writeBinFile (pathOf l) content
  let removed := before.entries.filter fun (l, _) => (after.node? l).isNone
  for (l, n) in removed.mergeSort fun a b => b.1.length ≤ a.1.length do
    match n with
    | .directory => IO.FS.removeDir (pathOf l)
    | .file _ => IO.FS.removeFile (pathOf l)

end Testsmith.Disk
