import BotOps.Proofs.Text.Decimal
import BotOps.Text.Blank
import Mathlib.Data.List.TakeWhile

/-!
# Trimmed texts

Blanks around a text are trimmed off, and nothing else is: `trim_padded`.
-/

namespace BotOps.Text

/-- Digits are no blanks. -/
theorem isBlank_of_isDigit {c : Char} (h : c.isDigit = true) : isBlank c = false := by
  obtain ⟨hlow, hhigh⟩ := Decimal.toNat_of_isDigit h
  simp only [isBlank, Ranges.contains, blanks, List.any_cons, List.any_nil, Bool.or_eq_false_iff,
    Bool.and_eq_false_iff, decide_eq_false_iff_not, and_true]
  omega

variable {before after text : List Char}

private theorem trimStart_append (h : ∀ c ∈ before, isBlank c = true) (text : List Char) :
    trimStart (before ++ text) = trimStart text :=
  List.dropWhile_append_of_pos h

/-- A text that does not begin with a blank has none to be trimmed off its front. -/
theorem trimStart_eq_self (h : ∀ c ∈ text.head?, isBlank c = false) : trimStart text = text := by
  cases text with
  | nil => rfl
  | cons c text =>
    have hc : isBlank c = false := h c rfl
    exact List.dropWhile_cons_of_neg (by simp [hc])

/-- A number does not begin with a blank. -/
theorem isBlank_of_mem_head?_fixed {width n : Nat} (hwidth : width ≠ 0) (rest : List Char) :
    ∀ c ∈ (Decimal.fixed width n ++ rest).head?, isBlank c = false := by
  have hne : Decimal.fixed width n ≠ [] := by
    apply List.ne_nil_of_length_pos
    rw [Decimal.length_fixed]
    omega
  rw [List.head?_append_of_ne_nil _ hne]
  intro c hc
  exact isBlank_of_isDigit (Decimal.isDigit_of_mem_fixed (List.mem_of_mem_head? hc))

/-- A text that neither begins nor ends with a blank is what is left of it between blanks. -/
theorem trim_padded (hbefore : ∀ c ∈ before, isBlank c = true)
    (hafter : ∀ c ∈ after, isBlank c = true) (hfirst : ∀ c ∈ text.head?, isBlank c = false)
    (hlast : ∀ c ∈ text.getLast?, isBlank c = false) :
    trim (before ++ (text ++ after)) = text := by
  rw [trim, trimStart_append hbefore]
  cases text with
  | nil =>
    have hblank : trimStart after = [] := List.dropWhile_eq_nil_iff.mpr hafter
    rw [List.nil_append, hblank]
    rfl
  | cons c text =>
    have hstart : trimStart (c :: text ++ after) = c :: text ++ after := trimStart_eq_self hfirst
    have hend : trimStart (c :: text).reverse = (c :: text).reverse := by
      apply trimStart_eq_self
      rw [List.head?_reverse]
      exact hlast
    have hrest : ∀ c ∈ after.reverse, isBlank c = true := by
      intro c hc
      exact hafter c (List.mem_reverse.mp hc)
    rw [hstart, List.reverse_append, trimStart_append hrest, hend, List.reverse_reverse]

/-- What is trimmed off a text are blanks at either end of it. -/
theorem exists_padded (text : List Char) :
    ∃ before after, text = before ++ (trim text ++ after) ∧ (∀ c ∈ before, isBlank c = true) ∧
      ∀ c ∈ after, isBlank c = true := by
  have hstart (text : List Char) : text.takeWhile isBlank ++ trimStart text = text :=
    List.takeWhile_append_dropWhile
  refine ⟨text.takeWhile isBlank, ((trimStart text).reverse.takeWhile isBlank).reverse, ?_,
    fun c hc ↦ List.mem_takeWhile_imp hc,
    fun c hc ↦ List.mem_takeWhile_imp (List.mem_reverse.mp hc)⟩
  rw [trim, ← List.reverse_append, hstart, List.reverse_reverse, hstart]

/-- A text without blanks is left as it is. -/
theorem trim_eq_self (h : ∀ c ∈ text, isBlank c = false) : trim text = text := by
  have htrim : trim ([] ++ (text ++ [])) = text := by
    apply trim_padded
    · simp
    · simp
    · intro c hc
      exact h c (List.mem_of_mem_head? hc)
    · intro c hc
      exact h c (List.mem_of_getLast? hc)
  rwa [List.nil_append, List.append_nil] at htrim

end BotOps.Text
