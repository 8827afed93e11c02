/-!
# Dates of the Gregorian calendar

The calendar is carried back before its introduction and has a year zero. A date is tied to the
number of its day, counted from 1970-01-01; `dayNumber_ofDayNumber` and `ofDayNumber_dayNumber`
say that the two ways of naming a day are inverse.
-/

namespace BotOps.Time

/-- A year, a month from 1 and a day from 1. -/
structure Date where
  year : Int
  month : Nat
  day : Nat
deriving DecidableEq, Repr, Inhabited

/-- A year is a leap year when 4 divides it, save that of the centuries only every fourth is. -/
def isLeapYear (year : Int) : Bool :=
  year % 4 = 0 && (year % 100 ≠ 0 || year % 400 = 0)

/-- The days of each month in turn. -/
def monthLengths (leap : Bool) : List Nat :=
  [31, if leap then 29 else 28, 31, 30, 31, 30, 31, 31, 30, 31, 30, 31]

/-- The days from the first day of year zero to the first day of a year. -/
def daysBeforeYear (year : Int) : Int :=
  365 * year + (year + 3) / 4 - (year + 99) / 100 + (year + 399) / 400

/-- The days of some months together. -/
def daysOf : List Nat → Nat
  | [] => 0
  | length :: lengths => length + daysOf lengths

/-- The days of a year before its month with the given number, which counts from 1. -/
def daysBeforeMonth (leap : Bool) (month : Nat) : Nat :=
  daysOf ((monthLengths leap).take (month - 1))

/-- The number of the first day of year zero, the day 1970-01-01 being number 0. -/
def yearZero : Int := -719528

/-- The year in which a day lies, the day being counted from the first day of year zero. -/
def yearOf (day : Int) : Int :=
  let guess := 400 * day / 146097
  if day < daysBeforeYear guess then guess - 1
  else if daysBeforeYear (guess + 1) ≤ day then guess + 1
  else guess

/-- Finds the month that holds a day of the year: how many months are over before it, and how many
of its own days. -/
def locate : List Nat → Nat → Nat × Nat
  | [], day => (0, day)
  | length :: lengths, day =>
    if day < length then (0, day)
    else
      let (months, rest) := locate lengths (day - length)
      (months + 1, rest)

namespace Date

/-- A date names a day when its month and its day exist. -/
def IsValid (date : Date) : Prop :=
  1 ≤ date.month ∧ date.month ≤ 12 ∧ 1 ≤ date.day ∧
    date.day ≤ (monthLengths (isLeapYear date.year)).getD (date.month - 1) 0

instance (date : Date) : Decidable date.IsValid := by unfold IsValid; infer_instance

/-- The number of a date's day, counted from 1970-01-01. -/
def dayNumber (date : Date) : Int :=
  yearZero + daysBeforeYear date.year
    + (daysBeforeMonth (isLeapYear date.year) date.month + (date.day - 1) : Nat)

/-- The date of the day with a given number. -/
def ofDayNumber (number : Int) : Date :=
  let day := number - yearZero
  let year := yearOf day
  let (months, rest) :=
    locate (monthLengths (isLeapYear year)) (day - daysBeforeYear year).toNat
  ⟨year, months + 1, rest + 1⟩

end Date

/-- The next year begins 365 days later, or 366 after a leap year. -/
theorem daysBeforeYear_succ (year : Int) :
    daysBeforeYear (year + 1) = daysBeforeYear year + if isLeapYear year then 366 else 365 := by
  unfold daysBeforeYear isLeapYear
  split <;> simp_all <;> omega

/-- A day lies in the year that `yearOf` gives. -/
theorem yearOf_bounds (day : Int) :
    daysBeforeYear (yearOf day) ≤ day ∧ day < daysBeforeYear (yearOf day + 1) := by
  unfold yearOf
  simp only
  split
  · rw [show 400 * day / 146097 - 1 + 1 = 400 * day / 146097 by omega]
    refine ⟨?_, by assumption⟩
    unfold daysBeforeYear at *
    omega
  · split
    · refine ⟨by assumption, ?_⟩
      unfold daysBeforeYear at *
      omega
    · omega

/-- A later year begins at least a year of 365 days later. -/
theorem daysBeforeYear_lt {a b : Int} (h : a < b) :
    daysBeforeYear a + 365 ≤ daysBeforeYear b := by
  unfold daysBeforeYear
  omega

/-- Only one year holds a day. -/
theorem yearOf_eq {day year : Int} (h₁ : daysBeforeYear year ≤ day)
    (h₂ : day < daysBeforeYear (year + 1)) : yearOf day = year := by
  have h := yearOf_bounds day
  rcases Int.lt_trichotomy (yearOf day) year with hlt | heq | hgt
  · rcases Int.lt_or_eq_of_le (Int.add_one_le_iff.mpr hlt) with h' | h'
    · have := daysBeforeYear_lt h'; omega
    · rw [h'] at h; omega
  · exact heq
  · rcases Int.lt_or_eq_of_le (Int.add_one_le_iff.mpr hgt) with h' | h'
    · have := daysBeforeYear_lt h'; omega
    · rw [h'] at h₂; omega

/-- The month that `locate` finds exists, holds the day, and is preceded by the other days. -/
theorem locate_spec (lengths : List Nat) (day : Nat) (h : day < daysOf lengths) :
    (locate lengths day).1 < lengths.length ∧
      (locate lengths day).2 < lengths.getD (locate lengths day).1 0 ∧
      daysOf (lengths.take (locate lengths day).1) + (locate lengths day).2 = day := by
  induction lengths generalizing day with
  | nil => simp [daysOf] at h
  | cons length lengths ih =>
    unfold locate
    split
    · simp_all [daysOf]
    · simp only [daysOf] at h
      have := ih (day - length) (by omega)
      simp only [List.length_cons, List.getD_cons_succ, List.take_succ_cons, daysOf]
      omega

/-- A day that lies `rest` days into the month after `months` others is found there. -/
theorem locate_eq (lengths : List Nat) (months rest : Nat) (h : rest < lengths.getD months 0) :
    locate lengths (daysOf (lengths.take months) + rest) = (months, rest) := by
  induction lengths generalizing months with
  | nil => simp at h
  | cons length lengths ih =>
    cases months with
    | zero => simp_all [locate, daysOf]
    | succ months =>
      simp only [List.getD_cons_succ] at h
      have : length + daysOf (lengths.take months) + rest - length
          = daysOf (lengths.take months) + rest := by omega
      simp [locate, daysOf, ih months h, this]
      omega

/-- The days before one of some months and a few days into it are fewer than the days of all. -/
theorem daysOf_take_add_lt (lengths : List Nat) (months rest : Nat)
    (h : rest < lengths.getD months 0) :
    daysOf (lengths.take months) + rest < daysOf lengths := by
  induction lengths generalizing months with
  | nil => simp at h
  | cons length lengths ih =>
    cases months with
    | zero =>
      simp only [List.getD_cons_zero] at h
      simp only [List.take_zero, daysOf]
      omega
    | succ months =>
      simp only [List.getD_cons_succ] at h
      have := ih months h
      simp only [List.take_succ_cons, daysOf]
      omega

/-- The months of a year have its days. -/
theorem daysOf_monthLengths (leap : Bool) :
    daysOf (monthLengths leap) = if leap then 366 else 365 := by
  cases leap <;> rfl

namespace Date

/-- The day of the year that a day number falls on exists. -/
private theorem dayOfYear_lt (day : Int) :
    (day - daysBeforeYear (yearOf day)).toNat
      < daysOf (monthLengths (isLeapYear (yearOf day))) := by
  have h := yearOf_bounds day
  rw [daysBeforeYear_succ] at h
  rw [daysOf_monthLengths]
  split at h <;> simp_all <;> omega

/-- Every day number has a date that exists. -/
theorem isValid_ofDayNumber (number : Int) : (ofDayNumber number).IsValid := by
  have h := locate_spec _ _ (dayOfYear_lt (number - yearZero))
  simp only [IsValid, ofDayNumber]
  have hl : ∀ leap, (monthLengths leap).length = 12 := by intro leap; cases leap <;> rfl
  rw [hl] at h
  simp only [Nat.add_sub_cancel]
  omega

/-- The date of a day number has that number. -/
theorem dayNumber_ofDayNumber (number : Int) : (ofDayNumber number).dayNumber = number := by
  have h := locate_spec _ _ (dayOfYear_lt (number - yearZero))
  have hb := yearOf_bounds (number - yearZero)
  simp only [dayNumber, ofDayNumber, daysBeforeMonth, Nat.add_sub_cancel]
  omega

/-- A date that exists lies within the days of its year. -/
theorem IsValid.dayOfYear_lt {date : Date} (h : date.IsValid) :
    daysBeforeMonth (isLeapYear date.year) date.month + (date.day - 1)
      < if isLeapYear date.year then 366 else 365 := by
  obtain ⟨_, _, _, _⟩ := h
  unfold daysBeforeMonth
  rw [← daysOf_monthLengths]
  exact daysOf_take_add_lt _ _ _ (by omega)

/-- A date that exists is the date of its own day number. -/
theorem ofDayNumber_dayNumber {date : Date} (h : date.IsValid) :
    ofDayNumber date.dayNumber = date := by
  have hsum := h.dayOfYear_lt
  obtain ⟨year, month, day⟩ := date
  obtain ⟨h₁, h₂, h₃, h₄⟩ := h
  simp only at h₁ h₂ h₃ h₄ hsum
  have hlt : day - 1 < (monthLengths (isLeapYear year)).getD (month - 1) 0 := by omega
  have hloc := locate_eq _ _ _ hlt
  have hyear : yearOf (dayNumber ⟨year, month, day⟩ - yearZero) = year := by
    apply yearOf_eq
    · simp only [dayNumber]; omega
    · rw [daysBeforeYear_succ]
      simp only [dayNumber]
      split at hsum <;> simp_all <;> omega
  simp only [ofDayNumber, hyear]
  have : (dayNumber ⟨year, month, day⟩ - yearZero - daysBeforeYear year).toNat
      = daysOf ((monthLengths (isLeapYear year)).take (month - 1)) + (day - 1) := by
    simp only [dayNumber, daysBeforeMonth]
    omega
  rw [this, hloc]
  simp only [mk.injEq, true_and]
  omega

end Date

end BotOps.Time
