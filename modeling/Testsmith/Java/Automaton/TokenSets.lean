/-
# Sets of tokens

The sets of tokens that the rows refer to. A token is in a set if the bit of its number is one.

Key definition: `tokenSets`.
-/
import Testsmith.Parsing.Automaton

namespace Testsmith.Java

open Parsing

def tokenSetsFrom0 : Array Nat := #[
  0, 0x1, 0xcfff3fff04f4ffe591f080302000301fff, 0xcfff3fff04f4ffe591f080302000301ffe,
  0x6000000000000020000, 0xcfff3fff04f4ffe791f080300000321ffe, 0xcfff3fff04f4ffe591f080300000301ffe,
  0x202ac57fffffffa00000, 0xcfff3fff04fcfff7bffffffff000f21fff,
  0xcfff3fff04fcfff795fffffff000f21fff, 0xcfff3fff04f4fff5bffffffff000f21ffe,
  0x2000c47ffff000800000, 0xcfff3fff04fcffe791f080300000321ffe,
  0xcfff3fff04fcffe591f080302000301fff, 0xfff3ffb14e020353ecfffffffffe20002,
  0xcfff3fff04fcffe791f080302000321fff, 0xcfff3fff04ffffe791f080302000321fff,
  0x10000000000000000000000, 0x6000000000000000000, 0xcfff3fff04f4ffe591f080302000321fff,
  0xcfff3fff04f4ffe591f080300000321ffe, 0x202ac57fffdfffa00000, 0xfff3ff804202004100080002000000002,
  0xfff3ff804202004100080000000000002, 0x202ac77fffffffe00000, 0xff83ff004202004000080000000000002,
  0xff83ff0042020342ecffffff001e20002, 0x20000, 0xfff3ff804202025100080002000020002,
  0xfff3ff804202025100080002000000002, 0x302ece7ffff000c20000, 0x1100100e010082a0000000000000002,
  0x2ac47ffff000c00000, 0x5001100100e010082a0000000000c00002, 0x5001100100e010082a0000000000000002,
  0x102acf7ffff000800000, 0x1100100e010002a0000000000000002, 0xfff3ff804202024100080002000020002,
  0xfff3ff804202024100080002000000002, 0x102ace7ffff000800000, 0x202ac47ffff000800000,
  0x2ac67ffff000c00000, 0xffe3ff804202024100080000000020002, 0xffe3ff804202024100080000000000002,
  0x302ecf7fffffffc20000, 0x1100100c010302ccf7ffff000c20002, 0x1100100e010302ecf7ffff000c20002,
  0x200000020000000000000000, 0x2000002a0000000000000000, 0x1100100c0103004cf7ffff000c20002,
  0x1100100e0103006cf7ffff000c20002, 0x302ccf7ffff000c20000, 0x1100100e010300ecf7ffff000e20002,
  0x2000302ecf7ffff000c20000, 0xfff3ffb14e02025180280002000200002,
  0x1100100e010300ecf7ffff000c20002, 0xcff9100100e0102081f000300000301ffe, 0x3004cf7ffff000c20000,
  0xfff3ffa04e02004100080002000000002, 0x302ecf7ffff000c20000, 0xfff000800000000100000002000000002,
  0x3ff004202004000080000000000000, 0xdff9d00100e010292b0201001000e00002, 0x312ecf7ffff000c20000]

def tokenSetsFrom64 : Array Nat := #[
  0xff8000200e00000000000000000000002, 0x7001d00100c0102d280a01001001c00002,
  0x7001d00100e0102d2a0a01001001c00002, 0x30040f7ffff000c20000, 0x30040a00000000420000,
  0x30040e030c0000c20000, 0x30040e430ff000c20000, 0x30040e030f0000c20000, 0x30040e000c0000420000,
  0x30040e00080000420000, 0x30040e7b3ff000c20000, 0x30040e010c0000420000, 0x30040e030c0000420000,
  0x30040e7b0ff000c20000, 0x10000900000000000000, 0x900000000000000,
  0xff8000000000000000000000000000002, 0xff83ff004202004020080000000000002,
  0xff83ff0042020040a0080000000200002, 0x800000000000000, 0x200000000400000,
  0xff9100300e01028000600002000420002, 0x20000200000000420000, 0x10000a00000000400000,
  0x10000b00000000000000, 0x10000f030c0000800000, 0x10000f430ff000800000, 0x10000f030f0000800000,
  0x10000f000c0000000000, 0x10000f00080000000000, 0x10000f7b3ff000800000, 0x10000f010c0000000000,
  0x10000f030c0000000000, 0x10000f7b0ff000800000, 0xff9100300e01028080600002000620002,
  0x20000200000000400000, 0x80100000000000000000000, 0x200000000000c00000,
  0x5001d00100e01029220201001000c00002, 0xff9100300e01008000400002000000002,
  0x200000000000000000000000, 0x5001d00100e010292a0201003000e00002, 0x20000200000000000000,
  0x20000000000000400000, 0x200000000020000, 0xff8000000200000000000000000000002,
  0x5001d00100e010292a0201001000e00002, 0x5001d00100e010292a0201001000c00002, 0x200000000000000000,
  0x2a0000000000000000, 0x1100100c01008000000000000000002, 0xc00000000021200200001000c00000,
  0x1100100e01008020000000000000002, 0x1100100c01008000001000000000002,
  0xff8c00000200001400000000000200002, 0xc00000000021000200001000c00000,
  0x1100100e01000020000000000000002, 0x20000a00000001400000, 0x20000200000001000000,
  0xe9000000000000000000020000, 0xe9000000000000000000000000, 0x280000000000000000,
  0x2000000000000021000000000000000000, 0x1100106c01000000000000000000002]

def tokenSetsFrom128 : Array Nat := #[
  0x6000000000000000000000000, 0xdd000, 0xdc000, 0x1000000000000,
  0x2000400000200021020100000000000000, 0x20000200000000020000, 0x92800, 0x92000, 0x200001000000000,
  0x200000000000000, 0x800000000021000200000000000000, 0x21000000000000000000,
  0x800000000001000000000000000000, 0x200001000800000, 0x800000, 0x20000000000000000000, 0xc00000,
  0x4000000000000000000000000000000002, 0x2, 0xc00000000001000000000000000000,
  0x2000000000000001000000000000000000, 0x100000000000000000000, 0x100000000000000,
  0x1000000000000000000, 0x400000]

/-- The sets of tokens. -/
def tokenSets : Chunks Nat :=
  ⟨#[
    tokenSetsFrom0, tokenSetsFrom64, tokenSetsFrom128]⟩

end Testsmith.Java
