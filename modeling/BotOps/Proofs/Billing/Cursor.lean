import BotOps.Billing.Cursor
import BotOps.Proofs.Text.Blank

/-!
# Identifiers that are cursors

An identifier is read as a cursor just if it writes a number of 64 bits, and the cursor is this
number: `cursor?_eq_some_iff`. No number is cut down to 64 bits.
-/

namespace BotOps.Billing

open BotOps.Text

/-- A text writes a number in one or more decimal digits of ASCII, with any zeros leading them, a
plus sign before them or none, and blanks around. -/
def WritesNumber (text : List Char) (n : Nat) : Prop :=
  ∃ before sign digits after,
    text = before ++ (sign ++ digits ++ after) ∧
      (∀ c ∈ before, isBlank c = true) ∧ (sign = [] ∨ sign = ['+']) ∧
      digits ≠ [] ∧ (∀ c ∈ digits, c.isDigit = true) ∧
      Nat.ofDigits 10 (digits.reverse.map fun c ↦ c.toNat - '0'.toNat) = n ∧
      ∀ c ∈ after, isBlank c = true

section

variable {text : List Char}

/-- At most a plus sign is dropped from a text. -/
theorem exists_append_dropPlus (text : List Char) :
    ∃ sign, (sign = [] ∨ sign = ['+']) ∧ text = sign ++ dropPlus text := by
  unfold dropPlus
  split
  · exact ⟨['+'], .inr rfl, rfl⟩
  · exact ⟨[], .inl rfl, rfl⟩

/-- Digits begin with no plus sign. -/
theorem dropPlus_append {sign digits : List Char} (hsign : sign = [] ∨ sign = ['+'])
    (hdigits : ∀ c ∈ digits, c.isDigit = true) : dropPlus (sign ++ digits) = digits := by
  rcases hsign with rfl | rfl
  · rw [List.nil_append]
    unfold dropPlus
    split
    · exact absurd (hdigits '+' List.mem_cons_self) (by decide)
    · rfl
  · rfl

/-- A text writes just what is left of it without blanks and plus sign. -/
theorem writesNumber_iff {n : Nat} :
    WritesNumber text n ↔
      dropPlus (trim text) ≠ [] ∧ (∀ c ∈ dropPlus (trim text), c.isDigit = true) ∧
        Decimal.value (dropPlus (trim text)) = n := by
  constructor
  · rintro ⟨before, sign, digits, after, rfl, hbefore, hsign, hne, hdigits, rfl, hafter⟩
    have hfirst : ∀ c ∈ (sign ++ digits).head?, isBlank c = false := by
      intro c hc
      rcases hsign with rfl | rfl
      · exact isBlank_of_isDigit (hdigits c (List.mem_of_mem_head? hc))
      · obtain rfl := Option.some.inj hc
        decide
    have hlast : ∀ c ∈ (sign ++ digits).getLast?, isBlank c = false := by
      rw [List.getLast?_append_of_ne_nil _ hne]
      intro c hc
      exact isBlank_of_isDigit (hdigits c (List.mem_of_getLast? hc))
    rw [trim_padded hbefore hafter hfirst hlast, dropPlus_append hsign hdigits,
      Decimal.value_eq_ofDigits]
    exact ⟨hne, hdigits, rfl⟩
  · rintro ⟨hne, hdigits, rfl⟩
    obtain ⟨before, after, htext, hbefore, hafter⟩ := exists_padded text
    obtain ⟨sign, hsign, htrim⟩ := exists_append_dropPlus (trim text)
    refine ⟨before, sign, dropPlus (trim text), after, ?_, hbefore, hsign, hne, hdigits,
      (Decimal.value_eq_ofDigits _).symm, hafter⟩
    rw [← htrim]
    exact htext

/-- A text writes one number at most. -/
theorem WritesNumber.unique {m n : Nat} (hm : WritesNumber text m) (hn : WritesNumber text n) :
    m = n :=
  (writesNumber_iff.mp hm).2.2.symm.trans (writesNumber_iff.mp hn).2.2

end

/-- An identifier gives a cursor just if it writes this very number. -/
theorem cursor?_eq_some_iff (id : String) (n : UInt64) :
    cursor? id = some n ↔ WritesNumber id.toList n.toNat := by
  rw [writesNumber_iff]
  unfold cursor?
  simp only [List.all_eq_true, Option.ite_none_right_eq_some, Option.some.injEq]
  constructor
  · rintro ⟨⟨hne, hdigits, hlt⟩, rfl⟩
    exact ⟨hne, hdigits, (UInt64.toNat_ofNat_of_lt' hlt).symm⟩
  · rintro ⟨hne, hdigits, hvalue⟩
    exact ⟨⟨hne, hdigits, hvalue ▸ n.toNat_lt⟩, by rw [hvalue, UInt64.ofNat_toNat]⟩

/-- An identifier gives no cursor just if it writes no number that fits in 64 bits. -/
theorem cursor?_eq_none_iff (id : String) :
    cursor? id = none ↔ ∀ n, WritesNumber id.toList n → UInt64.size ≤ n := by
  constructor
  · intro hnone n hn
    by_contra hlt
    have hsome := (cursor?_eq_some_iff id (UInt64.ofNatLT n (Nat.lt_of_not_le hlt))).mpr
      (by rwa [UInt64.toNat_ofNatLT])
    cases hnone.symm.trans hsome
  · intro hlarge
    rw [Option.eq_none_iff_forall_ne_some]
    intro n hsome
    have hle := hlarge n.toNat ((cursor?_eq_some_iff id n).mp hsome)
    exact absurd n.toNat_lt (Nat.not_lt.mpr hle)

/-- The greatest number of 64 bits is a cursor and the next one is none. -/
example : cursor? " +0018446744073709551615" = some 18446744073709551615 ∧
    cursor? "18446744073709551616" = none := by
  decide

end BotOps.Billing
