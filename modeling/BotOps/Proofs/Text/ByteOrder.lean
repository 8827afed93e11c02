import BotOps.Text.Utf8
import Mathlib.Data.List.Basic
import Mathlib.Tactic.SplitIfs

/-!
# The order of bytes

Texts are ordered by their characters just as they are by their bytes in UTF-8:
`encode_lt_encode`. So whoever compares bytes orders texts as they are ordered here.
-/

namespace BotOps.Text.Utf8

/-- The bytes of a character come before those of a later one, whatever follows them. -/
theorem encodeChar_append_lt {c d : Char} (h : c < d) (x y : List UInt8) :
    String.utf8EncodeChar c ++ x < String.utf8EncodeChar d ++ y := by
  have hlt : c.val.toNat < d.val.toNat := h
  have hmax : d.val.toNat ≤ 0x10ffff := by
    rcases d.valid with hvalid | ⟨-, hvalid⟩ <;> omega
  have hbyte {n : Nat} (hn : n < 256) : (UInt8.ofNat n).toNat = n := UInt8.toNat_ofNat_of_lt' hn
  -- Each byte holds the next six bits.
  have hbits (n : Nat) : n / 4096 = n / 64 / 64 ∧ n / 262144 = n / 64 / 64 / 64 := by omega
  unfold String.utf8EncodeChar
  dsimp only
  -- A character of more bytes begins with a greater byte, and of characters with as many bytes the
  -- later one is greater at the first byte that differs.
  split_ifs <;>
    simp (disch := omega) only [List.cons_append, List.nil_append, List.cons_lt_cons_iff,
      UInt8.lt_iff_toNat_lt, ← UInt8.toNat_inj, hbyte, hbits] <;>
    omega

/-- Texts are ordered as their bytes are. -/
theorem encode_lt_encode {a b : List Char} : encode a < encode b ↔ a < b := by
  have hmono {a b : List Char} (h : a < b) : encode a < encode b := by
    induction a generalizing b with
    | nil =>
      cases b with
      | nil => exact absurd h (List.lt_irrefl _)
      | cons d b =>
        have hne : encode (d :: b) ≠ [] := List.append_ne_nil_of_left_ne_nil
          String.utf8EncodeChar_ne_nil _
        obtain ⟨byte, bytes, hbytes⟩ := List.exists_cons_of_ne_nil hne
        rw [hbytes]
        exact List.nil_lt_cons byte bytes
    | cons c a ih =>
      cases b with
      | nil => exact absurd h (List.not_lt_nil _)
      | cons d b =>
        rcases List.cons_lt_cons_iff.mp h with hfirst | ⟨rfl, hrest⟩
        · exact encodeChar_append_lt hfirst _ _
        · exact List.append_left_lt (ih hrest)
  refine ⟨fun h ↦ ?_, hmono⟩
  by_contra hnot
  rcases List.le_iff_lt_or_eq.mp (List.not_lt.mp hnot) with hlt | rfl
  · exact List.lt_asymm h (hmono hlt)
  · exact List.lt_irrefl _ h

/-- The bytes of a text. -/
def bytesOf (text : String) : List UInt8 := encode text.toList

/-- Texts are ordered as their bytes are. -/
theorem bytesOf_le_bytesOf {a b : String} : bytesOf a ≤ bytesOf b ↔ a ≤ b := by
  rw [← List.not_lt, ← String.not_lt, String.lt_iff]
  exact not_congr encode_lt_encode

/-- A text is before another one if its bytes are. -/
theorem bytesOf_lt_bytesOf {a b : String} : bytesOf a < bytesOf b ↔ a < b :=
  encode_lt_encode.trans String.lt_iff.symm

/-- Texts with the same bytes are the same. -/
theorem bytesOf_inj {a b : String} : bytesOf a = bytesOf b ↔ a = b := by
  constructor
  · intro h
    apply String.le_antisymm
    · exact bytesOf_le_bytesOf.mp (h ▸ List.le_refl _)
    · exact bytesOf_le_bytesOf.mp (h ▸ List.le_refl _)
  · intro h
    rw [h]

end BotOps.Text.Utf8
