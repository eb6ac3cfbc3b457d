/-
# The order of texts and the order of their bytes

Texts are compared character by character. Their encodings, compared byte by byte, are in the
same order: a character with a greater code point has a greater encoding, and neither encoding
is the beginning of the other, so what comes after does not matter.

Main statement: `le_iff_bytes_le`.
-/

import Mathlib.Data.String.Basic
import Mathlib.Tactic.SplitIfs

namespace ChatCommands.Text

open String (utf8EncodeChar)

/-- The encoding of a text. -/
def bytes (text : String) : List UInt8 := text.toUTF8.data.toList

theorem bytes_eq_flatMap (text : String) : bytes text = text.toList.flatMap utf8EncodeChar := by
  have encoded := String.toByteArray_ofList (l := text.toList)
  rw [String.ofList_toList, List.utf8Encode] at encoded
  rw [bytes, String.toUTF8, encoded, List.toList_data_toByteArray]

/-! ## Encodings that differ -/

/-- The first byte in which the lists differ is less in the first one. -/
inductive DiffersBelow : List UInt8 → List UInt8 → Prop where
  | here {b c : UInt8} (less : b < c) (first second : List UInt8) :
    DiffersBelow (b :: first) (c :: second)
  | later (b : UInt8) {first second : List UInt8} (rest : DiffersBelow first second) :
    DiffersBelow (b :: first) (b :: second)

theorem differsBelow_cons_iff {b c : UInt8} {first second : List UInt8} :
    DiffersBelow (b :: first) (c :: second) ↔ b < c ∨ b = c ∧ DiffersBelow first second := by
  constructor
  · intro differs
    cases differs with
    | here less => exact .inl less
    | later _ rest => exact .inr ⟨rfl, rest⟩
  · rintro (less | ⟨rfl, rest⟩)
    · exact .here less _ _
    · exact rest.later _

theorem not_differsBelow_nil (second : List UInt8) : ¬DiffersBelow [] second := nofun

/-- What comes after the first difference does not matter. -/
theorem DiffersBelow.append_lt {first second : List UInt8} (differs : DiffersBelow first second)
    (tail tail' : List UInt8) : first ++ tail < second ++ tail' := by
  induction differs with
  | here less => exact List.cons_lt_cons_iff.mpr (.inl less)
  | later _ _ ih => exact List.cons_lt_cons_iff.mpr (.inr ⟨rfl, ih⟩)

/-- A character that is less has an encoding that is less where they first differ. -/
theorem differsBelow_utf8EncodeChar {c d : Char} (less : c < d) :
    DiffersBelow (utf8EncodeChar c) (utf8EncodeChar d) := by
  have values : c.val.toNat < d.val.toNat := less
  have bound : d.val.toNat < 0x110000 := by
    have valid := d.valid
    simp only [UInt32.isValidChar, Nat.isValidChar] at valid
    omega
  unfold utf8EncodeChar
  dsimp only
  generalize c.val.toNat = m at values
  generalize d.val.toNat = n at values bound
  -- The bytes after the first one are the last digits to the base 64.
  have digit : ∀ {a b : Nat}, a < b → a / 64 < b / 64 ∨ a / 64 = b / 64 ∧ a % 64 < b % 64 := by
    omega
  have last := digit values
  have second : m / 64 < n / 64 → _ := digit
  have third : m / 64 / 64 < n / 64 / 64 → _ := digit
  have square : ∀ k, k / 4096 = k / 64 / 64 := fun k => (Nat.div_div_eq_div_mul k 64 64).symm
  have cube : ∀ k, k / 262144 = k / 64 / 64 / 64 := fun k => by
    rw [Nat.div_div_eq_div_mul, Nat.div_div_eq_div_mul]
  simp only [square, cube]
  -- One case for the lengths of both encodings.
  split_ifs <;>
    (simp only [differsBelow_cons_iff, not_differsBelow_nil, UInt8.lt_iff_toNat_lt,
      ← UInt8.toNat_inj, UInt8.toNat_ofNat']; omega)

/-! ## Texts -/

theorem flatMap_utf8EncodeChar_lt {first second : List Char} (less : first < second) :
    first.flatMap utf8EncodeChar < second.flatMap utf8EncodeChar := by
  induction less with
  | @nil d second =>
      obtain ⟨b, rest, encoded⟩ :=
        List.exists_cons_of_ne_nil (String.utf8EncodeChar_ne_nil (c := d))
      rw [List.flatMap_nil, List.flatMap_cons, encoded]
      exact List.nil_lt_cons _ _
  | cons _ ih => exact List.append_left_lt ih
  | rel less => exact (differsBelow_utf8EncodeChar less).append_lt _ _

/-- Texts are in the order of their encodings. -/
theorem le_iff_bytes_le {first second : String} : first ≤ second ↔ bytes first ≤ bytes second := by
  rw [bytes_eq_flatMap, bytes_eq_flatMap, String.le_iff_toList_le]
  constructor
  · intro inOrder
    rcases inOrder.lt_or_eq with less | same
    · exact List.le_of_lt (flatMap_utf8EncodeChar_lt less)
    · rw [same]
      exact List.le_refl _
  · intro inOrder
    by_contra greater
    exact inOrder (flatMap_utf8EncodeChar_lt (not_le.mp greater))

end ChatCommands.Text
