import BotOps.Text.Decimal
import Mathlib.Algebra.Group.Nat.Defs
import Mathlib.Data.List.Basic
import Mathlib.Data.List.Induction
import Mathlib.Data.List.TakeWhile
import Mathlib.Data.Nat.Digits.Defs

/-!
# Written numbers

Numbers written in the same width are ordered as characters just as they are as numbers, whatever
is written behind them: `fixed_append_lt`. They are read as what they were, and the text behind them
is left: `exactly_fixed_append`. So are numbers written without leading zeros: `value_plain`.
-/

namespace BotOps.Text.Decimal

/-- Texts that begin with parts of one length are ordered by these parts first. -/
theorem append_lt_append {a b x y : List Char} (h : a.length = b.length) :
    a ++ x < b ++ y ↔ a < b ∨ a = b ∧ x < y := by
  induction a generalizing b with
  | nil =>
    obtain rfl : b = [] := List.length_eq_zero_iff.mp h.symm
    simp
  | cons c a ih =>
    obtain _ | ⟨d, b⟩ := b
    · cases h
    · simp only [List.cons_append, List.cons_lt_cons_iff, ih (Nat.succ.inj h), List.cons.injEq]
      tauto

/-- Digits are ordered as the numbers that they stand for. -/
theorem digitChar_lt_digitChar : ∀ {m n : Nat}, m < 10 → n < 10 →
    (Nat.digitChar m < Nat.digitChar n ↔ m < n) := by
  have hdigits : ∀ m n : Fin 10, Nat.digitChar m < Nat.digitChar n ↔ m < n := by decide
  exact fun {m n} hm hn ↦ hdigits ⟨m, hm⟩ ⟨n, hn⟩

private theorem digitChar_inj : ∀ {m n : Nat}, m < 10 → n < 10 →
    (Nat.digitChar m = Nat.digitChar n ↔ m = n) := by
  have hdigits : ∀ m n : Fin 10, Nat.digitChar m = Nat.digitChar n ↔ m.val = n.val := by decide
  exact fun {m n} hm hn ↦ hdigits ⟨m, hm⟩ ⟨n, hn⟩

variable {width m n : Nat}

/-- Numbers that fit into a width are written differently in it. -/
theorem fixed_inj (hm : m < 10 ^ width) (hn : n < 10 ^ width) :
    fixed width m = fixed width n ↔ m = n := by
  induction width generalizing m n with
  | zero =>
    rw [Nat.pow_zero] at hm hn
    exact ⟨fun _ ↦ by omega, fun _ ↦ rfl⟩
  | succ width ih =>
    rw [Nat.pow_succ] at hm hn
    refine ⟨fun h ↦ ?_, fun h ↦ by rw [h]⟩
    obtain ⟨htens, hones⟩ := List.append_inj h (by rw [length_fixed, length_fixed])
    have htens := (ih (by omega) (by omega)).mp htens
    have hones := (digitChar_inj (Nat.mod_lt m (by decide)) (Nat.mod_lt n (by decide))).mp
      (List.singleton_inj.mp hones)
    omega

/-- Numbers written in one width are ordered as numbers. -/
theorem fixed_lt_fixed (hm : m < 10 ^ width) (hn : n < 10 ^ width) :
    fixed width m < fixed width n ↔ m < n := by
  induction width generalizing m n with
  | zero =>
    rw [Nat.pow_zero] at hm hn
    obtain rfl : m = n := by omega
    exact iff_of_false (List.lt_irrefl _) (Nat.lt_irrefl _)
  | succ width ih =>
    rw [Nat.pow_succ] at hm hn
    rw [fixed, fixed, append_lt_append (by rw [length_fixed, length_fixed]),
      ih (by omega) (by omega), fixed_inj (by omega) (by omega), List.cons_lt_cons_iff,
      digitChar_lt_digitChar (Nat.mod_lt _ (by decide)) (Nat.mod_lt _ (by decide))]
    simp only [List.not_lt_nil, and_false, or_false]
    omega

/-- Texts that begin with numbers of one width are ordered by these numbers first. -/
theorem fixed_append_lt {x y : List Char} (hm : m < 10 ^ width) (hn : n < 10 ^ width) :
    fixed width m ++ x < fixed width n ++ y ↔ m < n ∨ m = n ∧ x < y := by
  rw [append_lt_append (by rw [length_fixed, length_fixed]), fixed_lt_fixed hm hn, fixed_inj hm hn]

/-- The digits are ten characters in a row. -/
theorem toNat_of_isDigit {c : Char} (h : c.isDigit = true) : 48 ≤ c.toNat ∧ c.toNat ≤ 57 := by
  simp only [Char.isDigit, Bool.and_eq_true, decide_eq_true_eq] at h
  exact h

/-- A number is written in digits only. -/
theorem isDigit_of_mem_fixed {c : Char} (h : c ∈ fixed width n) : c.isDigit = true := by
  induction width generalizing n with
  | zero => cases h
  | succ width ih =>
    rw [fixed, List.mem_append, List.mem_singleton] at h
    rcases h with h | rfl
    · exact ih h
    · rw [Nat.isDigit_digitChar, decide_eq_true_iff]
      omega

/-- A text that begins with a number follows all texts that begin with a lesser character. -/
theorem not_fixed_append_lt {c : Char} {x y : List Char} (hwidth : width ≠ 0) (hc : c < '0') :
    ¬ fixed width n ++ x < c :: y := by
  cases hdigits : fixed width n with
  | nil => exact absurd (hdigits ▸ length_fixed width n).symm hwidth
  | cons d digits =>
    have hd : '0' ≤ d :=
      (toNat_of_isDigit (isDigit_of_mem_fixed (hdigits ▸ List.mem_cons_self))).1
    have hcd : c < d := Std.lt_of_lt_of_le hc hd
    rw [List.cons_append, List.cons_lt_cons_iff]
    rintro (hlt | ⟨rfl, -⟩)
    · exact Char.lt_asymm hlt hcd
    · exact Char.lt_irrefl _ hcd

/-- A number written without leading zeros has the value that it had. -/
theorem value_plain (n : Nat) : value (plain n) = n := Nat.ofDigitChars_ten_toDigits

/-- A number is written with digits only. -/
theorem isDigit_of_mem_plain {c : Char} (h : c ∈ plain n) : c.isDigit = true :=
  Nat.isDigit_of_mem_toDigits (by decide) (Nat.le_refl 10) h

/-- Only the number 0 begins with a zero, and nothing follows it. -/
theorem exists_plain_eq_cons (n : Nat) :
    ∃ c digits, plain n = c :: digits ∧ (c = '0' → n = 0 ∧ digits = []) := by
  induction n using Nat.strongRecOn with
  | ind n ih =>
    by_cases hn : n < 10
    · refine ⟨Nat.digitChar n, [], Nat.toDigits_of_lt_base hn, fun hzero ↦ ⟨?_, rfl⟩⟩
      exact Nat.digitChar_eq_zero.mp hzero
    · obtain ⟨c, digits, hplain, hlead⟩ := ih (n / 10) (by omega)
      have hsplit : plain n = plain (n / 10) ++ [Nat.digitChar (n % 10)] :=
        Nat.toDigits_of_base_le (by decide) (by omega)
      refine ⟨c, digits ++ [Nat.digitChar (n % 10)], by rw [hsplit, hplain]; rfl, fun hzero ↦ ?_⟩
      have := (hlead hzero).1
      omega

/-! ## Reading what was written -/

private theorem value_append (digits : List Char) (c : Char) :
    value (digits ++ [c]) = 10 * value digits + (c.toNat - '0'.toNat) := by
  rw [value, List.foldl_append]
  rfl

/-- The last digit of a number counts ones, the one before it tens, and so on. -/
theorem value_eq_ofDigits (digits : List Char) :
    value digits = Nat.ofDigits 10 (digits.reverse.map fun c ↦ c.toNat - '0'.toNat) := by
  induction digits using List.reverseRecOn with
  | nil => rfl
  | append_singleton digits c ih =>
    rw [value_append, ih, List.reverse_append, List.reverse_singleton, List.singleton_append,
      List.map_cons, Nat.ofDigits_cons, Nat.add_comm]

/-- Zeros behind a number multiply it by powers of ten. -/
theorem value_append_zeros (digits : List Char) (count : Nat) :
    value (digits ++ List.replicate count '0') = value digits * 10 ^ count := by
  induction count with
  | zero => rw [List.replicate_zero, List.append_nil, Nat.pow_zero, Nat.mul_one]
  | succ count ih =>
    have hzero : '0'.toNat - '0'.toNat = 0 := rfl
    rw [List.replicate_succ', ← List.append_assoc, value_append, ih, hzero, Nat.pow_succ]
    generalize 10 ^ count = power
    rw [Nat.add_zero, Nat.mul_comm 10, Nat.mul_assoc]

/-- So many digits write a number of that size at most. -/
theorem value_lt {digits : List Char} (h : ∀ c ∈ digits, c.isDigit = true) :
    value digits < 10 ^ digits.length := by
  induction digits using List.reverseRecOn with
  | nil => decide
  | append_singleton digits c ih =>
    obtain ⟨hdigits, hlast⟩ := List.forall_mem_append.mp h
    have hbounds := toNat_of_isDigit (hlast c (List.mem_singleton_self c))
    have hdigit : c.toNat - '0'.toNat < 10 := by
      change c.toNat - 48 < 10
      omega
    have hfront := ih hdigits
    rw [value_append, List.length_append, List.length_singleton, Nat.pow_succ]
    omega

/-- A number that fits into a width is written in it with its value. -/
theorem value_fixed (h : n < 10 ^ width) : value (fixed width n) = n := by
  induction width generalizing n with
  | zero =>
    rw [Nat.pow_zero] at h
    change 0 = n
    omega
  | succ width ih =>
    rw [Nat.pow_succ] at h
    have hdigit : (Nat.digitChar (n % 10)).toNat - '0'.toNat = n % 10 :=
      Nat.toNat_digitChar_sub_48_of_lt_ten (by omega)
    rw [fixed, value_append, ih (by omega), hdigit]
    omega

/-- A number written in a width ends there, whatever is written behind it. -/
theorem run_fixed_append (width n : Nat) (rest : List Char) :
    run width (fixed width n ++ rest) = fixed width n := by
  rw [run, List.take_left' (length_fixed width n), List.takeWhile_eq_self_iff]
  intro c hc
  exact isDigit_of_mem_fixed hc

/-- A number of a fixed width is read back, and so is the text behind it. -/
theorem exactly_fixed_append (h : n < 10 ^ width) (rest : List Char) :
    exactly width (fixed width n ++ rest) = some (n, rest) := by
  have hlength := length_fixed width n
  rw [exactly, run_fixed_append, if_pos hlength, List.take_left' hlength, List.drop_left' hlength,
    value_fixed h]

/-- A number of a fixed width is not read off anything but a digit. -/
theorem exactly_cons_of_not_isDigit {c : Char} (hwidth : width ≠ 0) (hc : c.isDigit = false)
    (rest : List Char) : exactly width (c :: rest) = none := by
  obtain ⟨width, rfl⟩ := Nat.exists_eq_succ_of_ne_zero hwidth
  have hrun : run (width + 1) (c :: rest) = [] := by simp [run, hc]
  rw [exactly, hrun]
  exact if_neg (by simp)

/-- Also a reader of up to so many digits takes all of them. -/
theorem upTo_fixed_append (hwidth : width ≠ 0) (h : n < 10 ^ width) (rest : List Char) :
    upTo width (fixed width n ++ rest) = some (n, rest) := by
  have hlength := length_fixed width n
  have hvalue := value_fixed h
  rw [upTo, run_fixed_append]
  cases hfixed : fixed width n with
  | nil =>
    rw [hfixed] at hlength
    exact absurd hlength.symm hwidth
  | cons c digits =>
    rw [hfixed] at hlength hvalue
    dsimp only
    rw [hvalue, List.drop_left' rfl]

end BotOps.Text.Decimal
