import BotOps.Log.Count
import BotOps.Proofs.Text.Utf8

/-!
# The stamp of a line

A stamp occupies bytes of fixed number and a point behind them, so what follows the point does not
matter and a newline at the end of a line changes nothing: `lineStamp_append_newline`.
-/

namespace BotOps.Log

open BotOps.Text BotOps.Time

/-- The local time at the front of a line of bytes. -/
def lineStamp (line : List UInt8) : Option Instant := stamp? (Utf8.decodeLossy line)

/-- Behind a part that is all ASCII a text is split by the number of characters. -/
theorem splitAtByte_append_of_ascii {front : List Char} (h : ∀ c ∈ front, c.utf8Size = 1)
    (rest : List Char) : splitAtByte front.length (front ++ rest) = some (front, rest) := by
  induction front with
  | nil => simp [splitAtByte]
  | cons c front ih =>
    obtain ⟨hfirst, hfront⟩ := List.forall_mem_cons.mp h
    rw [List.length_cons, List.cons_append, splitAtByte, hfirst, if_pos (by omega),
      Nat.add_sub_cancel, ih hfront]
    rfl

/-- A split stays where it is when text is added behind. -/
theorem splitAtByte_append {size : Nat} {text front rest : List Char} (more : List Char)
    (h : splitAtByte size text = some (front, rest)) :
    splitAtByte size (text ++ more) = some (front, rest ++ more) := by
  induction text generalizing size front with
  | nil =>
    cases size with
    | zero => simp_all [splitAtByte]
    | succ size => simp [splitAtByte] at h
  | cons c text ih =>
    cases size with
    | zero => simp_all [splitAtByte]
    | succ size =>
      simp only [splitAtByte, List.cons_append] at h ⊢
      split
      · next hfits =>
        rw [if_pos hfits] at h
        obtain ⟨⟨inner, behind⟩, hsplit, heq⟩ := Option.map_eq_some_iff.mp h
        simp only [Prod.mk.injEq] at heq
        obtain ⟨rfl, rfl⟩ := heq
        rw [ih hsplit]
        rfl
      · next hfits => simp [hfits] at h

/-- A text that is too short to be split can at most be split off as a whole with one more
character. -/
theorem splitAtByte_snoc {size : Nat} {text front rest : List Char} {c : Char}
    (h : splitAtByte size text = none)
    (hmore : splitAtByte size (text ++ [c]) = some (front, rest)) : rest = [] := by
  induction text generalizing size front with
  | nil =>
    cases size with
    | zero => simp [splitAtByte] at h
    | succ size =>
      simp only [splitAtByte, List.nil_append] at hmore
      split at hmore
      · cases hsize : size + 1 - c.utf8Size with
        | zero => simp_all [splitAtByte]
        | succ left => simp [hsize, splitAtByte] at hmore
      · cases hmore
  | cons d text ih =>
    cases size with
    | zero => simp [splitAtByte] at h
    | succ size =>
      simp only [splitAtByte, List.cons_append] at h hmore
      split at hmore
      · next hfits =>
        rw [if_pos hfits, Option.map_eq_none_iff] at h
        obtain ⟨⟨inner, behind⟩, hsplit, heq⟩ := Option.map_eq_some_iff.mp hmore
        simp only [Prod.mk.injEq] at heq
        obtain ⟨rfl, rfl⟩ := heq
        exact ih h hsplit
      · cases hmore

/-- A character at the end of a text is no part of its stamp, unless it is a point. -/
theorem stamp?_concat {c : Char} (h : c ≠ '.') (text : List Char) :
    stamp? (text ++ [c]) = stamp? text := by
  unfold stamp?
  cases hsplit : splitAtByte Stamp.width text with
  | some parts =>
    obtain ⟨front, rest⟩ := parts
    rw [splitAtByte_append [c] hsplit]
    cases rest with
    | nil => simp [h]
    | cons d rest => by_cases hd : d = '.' <;> simp [hd]
  | none =>
    cases hmore : splitAtByte Stamp.width (text ++ [c]) with
    | none => rfl
    | some parts =>
      obtain ⟨front, rest⟩ := parts
      rw [splitAtByte_snoc hsplit hmore]

/-- A character of one byte ends a line as it ends the line's text. -/
theorem decodeLossy_concat {b : UInt8} (h : b < 0x80) (line : List UInt8) :
    Utf8.decodeLossy (line ++ [b]) = Utf8.decodeLossy line ++ [Char.ofNat b.toNat] :=
  Utf8.decodeLossy_append_cons line [] b h

/-- A newline at the end of a line is no part of its stamp. -/
theorem lineStamp_append_newline (line : List UInt8) :
    lineStamp (line ++ [newline]) = lineStamp line := by
  rw [lineStamp, decodeLossy_concat (by decide), stamp?_concat (by decide), lineStamp]

/-- An empty line has no stamp. -/
theorem lineStamp_nil : lineStamp [] = none := rfl

end BotOps.Log
