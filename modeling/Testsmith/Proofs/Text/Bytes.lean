/-
# The order of texts is that of their bytes

Texts are compared by their characters. Their bytes in UTF-8 compare in the same way: the bytes of
two characters differ at some place, and at the first one they are in the order of the characters.

Key definitions: `bytesOf`, `Before`.
Key theorems: `encodeChar_before`, `lt_iff_bytesOf_lt`.
-/
import Mathlib.Data.List.Basic
import Mathlib.Order.Basic

namespace Testsmith.Text

/-- The bytes of a text. -/
def bytesOf (s : String) : List UInt8 := s.toUTF8.data.toList

/-- Two lists of bytes differ at some place, and at the first one the byte of the first list is the
smaller one. So neither list goes on from the other. -/
inductive Before : List UInt8 → List UInt8 → Prop
  | here {x y : UInt8} (xs ys : List UInt8) : x < y → Before (x :: xs) (y :: ys)
  | later (x : UInt8) {xs ys : List UInt8} : Before xs ys → Before (x :: xs) (x :: ys)

/-- What follows does not matter. -/
theorem Before.append_lt {xs ys : List UInt8} (h : Before xs ys) (us vs : List UInt8) :
    xs ++ us < ys ++ vs := by
  induction h with
  | here xs ys hlt => exact List.Lex.rel hlt
  | later x _ ih => exact List.Lex.cons ih

theorem ofNat_lt {a b : Nat} (h : a < b) (hb : b < 256) : UInt8.ofNat a < UInt8.ofNat b := by
  rw [UInt8.lt_iff_toNat_lt, UInt8.toNat_ofNat', UInt8.toNat_ofNat']
  omega

theorem before_of_lt {a b : Nat} {xs ys : List UInt8} (h : a < b) (hb : b < 256) :
    Before (UInt8.ofNat a :: xs) (UInt8.ofNat b :: ys) :=
  .here xs ys (ofNat_lt h hb)

theorem before_of_le {a b : Nat} {xs ys : List UInt8} (h : a ≤ b) (hb : b < 256)
    (heq : a = b → Before xs ys) : Before (UInt8.ofNat a :: xs) (UInt8.ofNat b :: ys) := by
  rcases Nat.lt_or_eq_of_le h with hlt | rfl
  · exact before_of_lt hlt hb
  · exact .later _ (heq rfl)

theorem val_lt (c : Char) : c.val.toNat < 0x110000 := by
  rcases c.valid with h | ⟨-, h⟩
  · exact Nat.lt_trans h (by decide)
  · exact h

/-- **The bytes of characters are in the order of the characters.** -/
theorem encodeChar_before {c d : Char} (h : c < d) :
    Before (String.utf8EncodeChar c) (String.utf8EncodeChar d) := by
  have hlt : c.val.toNat < d.val.toNat := h
  have hd := val_lt d
  rw [String.utf8EncodeChar, String.utf8EncodeChar]
  -- by the numbers of bytes: a first byte tells how many follow, more for a greater character
  by_cases hc1 : c.val.toNat ≤ 0x7f
  · rw [if_pos hc1]
    split_ifs with hd1 hd2 hd3 <;> exact before_of_lt (by omega) (by omega)
  rw [if_neg hc1, if_neg (by omega : ¬d.val.toNat ≤ 0x7f)]
  by_cases hc2 : c.val.toNat ≤ 0x7ff
  · rw [if_pos hc2]
    split_ifs with hd2 hd3
    · exact before_of_le (by omega) (by omega) fun h1 => before_of_lt (by omega) (by omega)
    · exact before_of_lt (by omega) (by omega)
    · exact before_of_lt (by omega) (by omega)
  rw [if_neg hc2, if_neg (by omega : ¬d.val.toNat ≤ 0x7ff)]
  by_cases hc3 : c.val.toNat ≤ 0xffff
  · rw [if_pos hc3]
    split_ifs with hd3
    · exact before_of_le (by omega) (by omega) fun h1 =>
        before_of_le (by omega) (by omega) fun h2 => before_of_lt (by omega) (by omega)
    · exact before_of_lt (by omega) (by omega)
  rw [if_neg hc3, if_neg (by omega : ¬d.val.toNat ≤ 0xffff)]
  exact before_of_le (by omega) (by omega) fun h1 => before_of_le (by omega) (by omega) fun h2 =>
    before_of_le (by omega) (by omega) fun h3 => before_of_lt (by omega) (by omega)

theorem bytesOf_eq (s : String) : bytesOf s = s.toList.flatMap String.utf8EncodeChar := by
  rw [bytesOf, String.toUTF8_eq_toByteArray, ← String.utf8Encode_toList, List.utf8Encode]
  simp

theorem flatMap_encodeChar_lt {cs ds : List Char} (h : cs < ds) :
    cs.flatMap String.utf8EncodeChar < ds.flatMap String.utf8EncodeChar := by
  induction h with
  | @nil d ds =>
    obtain ⟨y, ys, hy⟩ := List.exists_cons_of_ne_nil (String.utf8EncodeChar_ne_nil (c := d))
    rw [List.flatMap_nil, List.flatMap_cons, hy]
    exact List.Lex.nil
  | @rel c cs d ds hlt =>
    rw [List.flatMap_cons, List.flatMap_cons]
    exact (encodeChar_before hlt).append_lt _ _
  | @cons c cs ds _ ih =>
    rw [List.flatMap_cons, List.flatMap_cons]
    exact List.append_left_lt ih

/-- **Texts are in the order of their bytes.** -/
theorem lt_iff_bytesOf_lt {s t : String} : s < t ↔ bytesOf s < bytesOf t := by
  have mono {s t : String} (h : s < t) : bytesOf s < bytesOf t := by
    rw [bytesOf_eq, bytesOf_eq]
    exact flatMap_encodeChar_lt h
  refine ⟨mono, fun h => ?_⟩
  by_contra hnot
  by_cases hback : t < s
  · exact List.lt_asymm h (mono hback)
  · obtain rfl := String.le_antisymm (String.not_lt.mp hnot) (String.not_lt.mp hback)
    exact List.lt_irrefl _ h

end Testsmith.Text
