/-
# Extents of text

How much text a token or a construct covers: its characters, the bytes of these in UTF-8, and the
line breaks among them. An extent from the start of a text is a position in it.

Key definitions: `Extent`, `Extent.ofList`.
-/

namespace Testsmith.Parsing

/-- The size of a stretch of text. -/
structure Extent where
  chars : Nat := 0
  bytes : Nat := 0
  lines : Nat := 0
  deriving DecidableEq, Repr, Inhabited

namespace Extent

def add (a b : Extent) : Extent := ⟨a.chars + b.chars, a.bytes + b.bytes, a.lines + b.lines⟩

instance : Add Extent := ⟨add⟩

/-- The extent of a character. -/
def ofChar (c : Char) : Extent := ⟨1, c.utf8Size, if c = '\n' then 1 else 0⟩

/-- The extent of a text. -/
def ofList (cs : List Char) : Extent := cs.foldl (fun e c => e + ofChar c) {}

end Extent

end Testsmith.Parsing
