import BotOps.Proofs.Text.Blank
import BotOps.Proofs.Text.Decimal
import BotOps.Proofs.Time.Order
import BotOps.Time.Zoned

/-!
# Spellings of an instant

The platform may spell one instant in many ways: with blanks around it, a `T` of either case or a
blank behind the date, a fraction of any length, and any zone. Whichever of them it uses, the
instant is read: `Spelling.parse?_text`.
-/

namespace BotOps.Time

open BotOps.Text

/-- What stands between the date and the time. -/
inductive Separator where
  | upper
  | lower
  | blank
deriving DecidableEq, Repr

/-- A separator as it is written. -/
def Separator.char : Separator → Char
  | .upper => 'T'
  | .lower => 't'
  | .blank => ' '

/-- The sign of a zone. There are two for a clock that is behind. -/
inductive ZoneSign where
  | plus
  | hyphen
  | minus
deriving DecidableEq, Repr

namespace ZoneSign

/-- A sign as it is written. -/
def char : ZoneSign → Char
  | plus => '+'
  | hyphen => '-'
  | minus => '\u2212'

/-- The direction in which a sign moves a clock. -/
def direction : ZoneSign → Int
  | plus => 1
  | hyphen => -1
  | minus => -1

end ZoneSign

/-- A zone as it may be spelled: universal time by its letter in either case, or a number of hours
and minutes by which the clock is moved. -/
inductive Zone where
  | upper
  | lower
  | moved (sign : ZoneSign) (hours : Fin 24) (minutes : Fin 60)
deriving DecidableEq, Repr

namespace Zone

/-- A zone as it is written. -/
def digits : Zone → List Char
  | upper => ['Z']
  | lower => ['z']
  | moved sign hours minutes =>
    sign.char :: (Decimal.fixed 2 hours ++ ':' :: Decimal.fixed 2 minutes)

/-- The seconds by which the clock of a zone is ahead of universal time. -/
def ahead : Zone → Int
  | upper => 0
  | lower => 0
  | moved sign hours minutes => sign.direction * (hours * 3600 + minutes * 60 : Nat)

end Zone

/-- A timestamp as it may be spelled. Without digits of a fraction there is no point either. -/
structure Spelling where
  before : List Char
  reading : Reading
  separator : Separator
  fraction : List Char
  zone : Zone
  after : List Char
  isBlank_before : ∀ c ∈ before, isBlank c = true
  isBlank_after : ∀ c ∈ after, isBlank c = true
  isDigit_fraction : ∀ c ∈ fraction, c.isDigit = true
  isValid : reading.IsValid
  plainYear : reading.date.HasPlainYear

/-- A fraction of a second with its point, or nothing. -/
def fractionDigits (fraction : List Char) : List Char :=
  if fraction = [] then [] else '.' :: fraction

namespace Spelling

/-- The timestamp without the blanks around it. -/
def digits (s : Spelling) : List Char :=
  s.reading.digits s.separator.char ++ (fractionDigits s.fraction ++ s.zone.digits)

/-- The text of a spelling, with what stands before and behind it. -/
def text (s : Spelling) : String := String.ofList (s.before ++ (s.digits ++ s.after))

/-- The nanoseconds of the fraction: its first nine digits, with zeros for those that it lacks. -/
def nanos (s : Spelling) : Nat := Decimal.value ((s.fraction ++ List.replicate 9 '0').take 9)

end Spelling

/-! ## The instant -/

private theorem Date.dayNumber_bounds {date : Date} (h : date.IsValid) (hyear : date.HasPlainYear) :
    yearZero ≤ date.dayNumber ∧ date.dayNumber < yearZero + 3652425 := by
  have hwithin := h.dayOfYear_lt
  obtain ⟨hzero, hlast⟩ := hyear
  have hbefore : daysBeforeYear date.year + (if isLeapYear date.year then 366 else 365) ≤
      3652425 := by
    rw [← daysBeforeYear_succ]
    unfold daysBeforeYear
    omega
  have hstart : 0 ≤ daysBeforeYear date.year := by
    unfold daysBeforeYear
    omega
  unfold dayNumber
  split at hwithin <;> split at hbefore <;> omega

private theorem Zone.ahead_bounds (zone : Zone) : -86400 < zone.ahead ∧ zone.ahead < 86400 := by
  cases zone with
  | upper => exact ⟨by decide, by decide⟩
  | lower => exact ⟨by decide, by decide⟩
  | moved sign hours minutes =>
    cases sign <;> simp only [ahead, ZoneSign.direction] <;> omega

/-- Clocks are moved by whole minutes. -/
theorem Zone.ahead_mod (zone : Zone) : zone.ahead % 60 = 0 := by
  cases zone with
  | upper => rfl
  | lower => rfl
  | moved sign hours minutes =>
    cases sign <;> simp only [ahead, ZoneSign.direction] <;> omega

private theorem Spelling.nanos_lt (s : Spelling) : s.nanos < nanosPerSecond := by
  have hdigits : ∀ c ∈ (s.fraction ++ List.replicate 9 '0').take 9, c.isDigit = true := by
    intro c hc
    rcases List.mem_append.mp (List.mem_of_mem_take hc) with hfraction | hzero
    · exact s.isDigit_fraction c hfraction
    · rw [List.eq_of_mem_replicate hzero]
      rfl
  have hlength : ((s.fraction ++ List.replicate 9 '0').take 9).length = 9 := by
    rw [List.length_take, List.length_append, List.length_replicate]
    omega
  have hlt := Decimal.value_lt hdigits
  rwa [hlength] at hlt

/-- The instant that is spelled: the seconds of its clock less those by which the clock is ahead,
and the nanoseconds of the fraction, which begin anew in second 60. -/
def Spelling.instant (s : Spelling) : Instant where
  seconds := s.reading.toSeconds - s.zone.ahead
  nanos := s.reading.leapNanos + s.nanos
  isValid := by
    obtain ⟨hdate, hhour, hminute, hsecond⟩ := s.isValid
    obtain ⟨hfirst, hlast⟩ := Date.dayNumber_bounds hdate s.plainYear
    obtain ⟨hbehind, hahead⟩ := s.zone.ahead_bounds
    have hminutes := s.zone.ahead_mod
    have hnanos := s.nanos_lt
    unfold Reading.toSeconds Reading.leapNanos
    unfold nanosPerSecond firstSecond lastSecond secondsPerDay yearZero at *
    refine ⟨by omega, by omega, by split <;> omega, fun hleap ↦ ?_⟩
    split at hleap <;> omega

/-! ## Reading it -/

/-- An expected character is passed over. -/
theorem expect_cons (c : Char) (rest : List Char) : expect c (c :: rest) = some rest := if_pos rfl

namespace Zoned

/-- Zeros for the digits that a fraction lacks do not change its nanoseconds. -/
theorem nanosOf_eq (digits : List Char) :
    nanosOf digits = Decimal.value ((digits ++ List.replicate 9 '0').take 9) := by
  have hlength : (digits.take 9).length = min 9 digits.length := List.length_take
  have hcount : min (9 - digits.length) 9 = 9 - (digits.take 9).length := by omega
  rw [List.take_append, List.take_replicate, hcount, Decimal.value_append_zeros]
  rfl

/-- A zone does not go on with the digits of a fraction. -/
theorem takeWhile_isDigit_digits (zone : Zone) : zone.digits.takeWhile Char.isDigit = [] := by
  cases zone with
  | upper => rfl
  | lower => rfl
  | moved sign hours minutes => cases sign <;> rfl

/-- A fraction is read up to the zone behind it. -/
theorem fraction_append {digits : List Char} (h : ∀ c ∈ digits, c.isDigit = true) (zone : Zone) :
    fraction (fractionDigits digits ++ zone.digits) = some (nanosOf digits, zone.digits) := by
  by_cases hempty : digits = []
  · subst hempty
    cases zone with
    | upper => rfl
    | lower => rfl
    | moved sign hours minutes => cases sign <;> rfl
  · have hrun : (digits ++ zone.digits).takeWhile Char.isDigit = digits := by
      rw [List.takeWhile_append_of_pos h, takeWhile_isDigit_digits, List.append_nil]
    rw [fractionDigits, if_neg hempty, List.cons_append, fraction, hrun]
    split
    · exact absurd rfl hempty
    · rw [List.drop_left' rfl]

/-- A zone is read as what it says. -/
theorem zone_digits (zone : Zone) : Zoned.zone zone.digits = some zone.ahead := by
  cases zone with
  | upper => rfl
  | lower => rfl
  | moved sign hours minutes =>
    have hhours : (hours : Nat) < 10 ^ 2 := by omega
    have hminutes : (minutes : Nat) < 10 ^ 2 := by omega
    have hminutesEnd := Decimal.exactly_fixed_append hminutes []
    rw [List.append_nil] at hminutesEnd
    -- Whichever sign it is, hours and minutes are read in turn.
    have hread : Zoned.zone (Zone.moved sign hours minutes).digits =
        (Decimal.exactly 2 (Decimal.fixed 2 hours ++ ':' :: Decimal.fixed 2 minutes)).bind
          fun first ↦ (expect ':' first.2).bind fun rest ↦ (Decimal.exactly 2 rest).bind fun last ↦
            if last.2 = [] ∧ first.1 < 24 ∧ last.1 < 60 then
              some (sign.direction * (first.1 * 3600 + last.1 * 60 : Nat))
            else none := by
      cases sign <;> rfl
    rw [hread, Decimal.exactly_fixed_append hhours]
    simp [expect, hminutesEnd, Zone.ahead]

private theorem separator_char (mark : Separator) (rest : List Char) :
    separator (mark.char :: rest) = some rest := by
  cases mark <;> rfl

/-- A reading is read from its digits, with whatever fraction and zone stand behind them. -/
theorem parse_digits_append {reading : Reading} (h : reading.IsValid)
    (hyear : reading.date.HasPlainYear) (mark : Separator) (rest : List Char) :
    parse (reading.digits mark.char ++ rest) = (do
      let (nanos, rest) ← fraction rest
      let ahead ← Zoned.zone rest
      Instant.ofReading? reading nanos ahead) := by
  have hday := h.1.day_le
  obtain ⟨⟨-, hmonth, -⟩, hhour, hminute, hsecond⟩ := h
  have hnumber : (reading.date.year.toNat : Int) = reading.date.year := Int.toNat_of_nonneg hyear.1
  unfold parse Reading.digits Date.digits Reading.timeDigits
  rw [hyear.yearDigits_eq]
  simp only [List.append_assoc, List.cons_append]
  rw [Decimal.exactly_fixed_append (by have := hyear.2; omega)]
  simp only [Option.bind_eq_bind, Option.bind_some, expect_cons]
  rw [Decimal.exactly_fixed_append (by omega)]
  simp only [Option.bind_some, expect_cons]
  rw [Decimal.exactly_fixed_append (by omega)]
  simp only [Option.bind_some, separator_char]
  rw [Decimal.exactly_fixed_append (by omega)]
  simp only [Option.bind_some, expect_cons]
  rw [Decimal.exactly_fixed_append (by omega)]
  simp only [Option.bind_some, expect_cons]
  rw [Decimal.exactly_fixed_append (by omega)]
  simp only [Option.bind_some, hnumber]

end Zoned

namespace Spelling

variable (s : Spelling)

private theorem parse_digits : Zoned.parse s.digits = some s.instant := by
  unfold digits
  rw [Zoned.parse_digits_append s.isValid s.plainYear, Zoned.fraction_append s.isDigit_fraction,
    Zoned.nanosOf_eq]
  simp only [Option.bind_eq_bind, Option.bind_some, Zoned.zone_digits]
  rw [Instant.ofReading?, if_pos s.isValid]
  exact dif_pos s.instant.isValid

/-- A spelling begins with a digit of the year. -/
theorem isBlank_of_mem_head? : ∀ c ∈ s.digits.head?, isBlank c = false := by
  unfold digits Reading.digits Date.digits
  rw [s.plainYear.yearDigits_eq]
  simp only [List.append_assoc]
  exact isBlank_of_mem_head?_fixed (by decide) _

/-- A spelling ends with the letter of universal time or with a digit of its zone. -/
theorem isBlank_of_mem_getLast? : ∀ c ∈ s.digits.getLast?, isBlank c = false := by
  have hzone : ∀ c ∈ s.zone.digits, isBlank c = false := by
    intro c hc
    cases hzone : s.zone with
    | upper =>
      rw [hzone] at hc
      obtain rfl := List.mem_singleton.mp hc
      decide
    | lower =>
      rw [hzone] at hc
      obtain rfl := List.mem_singleton.mp hc
      decide
    | moved sign hours minutes =>
      rw [hzone] at hc
      simp only [Zone.digits, List.mem_cons, List.mem_append] at hc
      rcases hc with rfl | hc | rfl | hc
      · cases sign <;> decide
      · exact isBlank_of_isDigit (Decimal.isDigit_of_mem_fixed hc)
      · decide
      · exact isBlank_of_isDigit (Decimal.isDigit_of_mem_fixed hc)
  have hne : s.zone.digits ≠ [] := by
    cases s.zone <;> exact List.cons_ne_nil _ _
  intro c hc
  rw [digits, ← List.append_assoc, List.getLast?_append_of_ne_nil _ hne] at hc
  exact hzone c (List.mem_of_getLast? hc)

/-- However an instant is spelled, it is read. -/
theorem parse?_text : Instant.parse? s.text = some s.instant := by
  rw [Instant.parse?, text, String.toList_ofList,
    trim_padded s.isBlank_before s.isBlank_after s.isBlank_of_mem_head? s.isBlank_of_mem_getLast?,
    s.parse_digits]

end Spelling

end BotOps.Time
