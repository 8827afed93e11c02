import BotOps.Time.Date

/-!
# Instants and clock readings

An instant is counted in whole seconds and nanoseconds. A leap second has no second of its own in
the count: it is the second before it with more than a billion nanoseconds. A clock reading shows
the same moment as a date and a time of day, where the leap second is second 60.
-/

namespace BotOps.Time

/-- The nanoseconds of a second. -/
def nanosPerSecond : Nat := 1000000000

/-- The seconds of a day. -/
def secondsPerDay : Int := 86400

/-- The first second of the calendar, at the start of the year -262143. -/
def firstSecond : Int := -8334601228800

/-- The last second of the calendar, at the end of the year 262142. -/
def lastSecond : Int := 8210266876799

/-- A moment: seconds since 1970-01-01T00:00:00 and nanoseconds into the second. It lies within
the calendar, and only the last second of a minute is followed by a leap second. -/
structure Instant where
  seconds : Int
  nanos : Nat
  isValid : firstSecond ≤ seconds ∧ seconds ≤ lastSecond ∧ nanos < 2 * nanosPerSecond ∧
    (nanosPerSecond ≤ nanos → seconds % 60 = 59)
deriving DecidableEq, Repr

namespace Instant

/-- The instant with the given seconds and nanoseconds, if there is one. -/
def of? (seconds : Int) (nanos : Nat) : Option Instant :=
  if h : firstSecond ≤ seconds ∧ seconds ≤ lastSecond ∧ nanos < 2 * nanosPerSecond ∧
      (nanosPerSecond ≤ nanos → seconds % 60 = 59) then
    some ⟨seconds, nanos, h⟩
  else none

/-- The start of 1970-01-01. -/
def epoch : Instant := ⟨0, 0, by decide⟩

instance : Inhabited Instant := ⟨epoch⟩

/-- Instants are ordered by their seconds and then by their nanoseconds, so that a leap second lies
between the second before it and the next minute. -/
def Precedes (a b : Instant) : Prop :=
  a.seconds < b.seconds ∨ (a.seconds = b.seconds ∧ a.nanos < b.nanos)

instance : LT Instant := ⟨Precedes⟩

instance : LE Instant := ⟨fun a b ↦ ¬ b < a⟩

instance (a b : Instant) : Decidable (a < b) :=
  inferInstanceAs (Decidable (a.seconds < b.seconds ∨ (a.seconds = b.seconds ∧ a.nanos < b.nanos)))

instance (a b : Instant) : Decidable (a ≤ b) := inferInstanceAs (Decidable (¬ b < a))

/-- An instant is in a leap second when its nanoseconds have passed a full second. -/
def isLeap (t : Instant) : Bool := nanosPerSecond ≤ t.nanos

/-- The instant a number of whole seconds earlier, if the calendar reaches back so far. No step
leaves a leap second where it is; a longer one is counted from the second behind it. -/
def ago (t : Instant) (seconds : Nat) : Option Instant :=
  if seconds = 0 then some t
  else if t.isLeap then of? (t.seconds + 1 - seconds) (t.nanos - nanosPerSecond)
  else of? (t.seconds - seconds) t.nanos

end Instant

/-- What a clock with a calendar shows: a date and a time of day. Second 60 is a leap second. -/
structure Reading where
  date : Date
  hour : Nat
  minute : Nat
  second : Nat
deriving DecidableEq, Repr

namespace Reading

/-- A reading exists when its date does and its hour, minute and second are in range. -/
def IsValid (reading : Reading) : Prop :=
  reading.date.IsValid ∧ reading.hour < 24 ∧ reading.minute < 60 ∧ reading.second ≤ 60

instance (reading : Reading) : Decidable reading.IsValid := by unfold IsValid; infer_instance

/-- The second that a reading counts as; a leap second counts as the second before it. -/
def toSeconds (reading : Reading) : Int :=
  reading.date.dayNumber * secondsPerDay + (reading.hour * 3600 + reading.minute * 60
    + min reading.second 59 : Nat)

/-- The nanoseconds at which the second of a reading begins. -/
def leapNanos (reading : Reading) : Nat := if reading.second = 60 then nanosPerSecond else 0

end Reading

namespace Instant

/-- What a clock shows at an instant. -/
def reading (t : Instant) : Reading :=
  let ofDay := (t.seconds % secondsPerDay).toNat
  { date := Date.ofDayNumber (t.seconds / secondsPerDay)
    hour := ofDay / 3600
    minute := ofDay / 60 % 60
    second := ofDay % 60 + if t.isLeap then 1 else 0 }

/-- The instant of a reading on a clock that is ahead by `ahead` seconds, `nanos` nanoseconds into
the second, if the reading exists and the calendar holds the instant. -/
def ofReading? (reading : Reading) (nanos : Nat) (ahead : Int) : Option Instant :=
  if reading.IsValid then of? (reading.toSeconds - ahead) (reading.leapNanos + nanos) else none

end Instant

end BotOps.Time
