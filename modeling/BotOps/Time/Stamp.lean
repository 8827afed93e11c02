import BotOps.Text.Decimal
import BotOps.Time.Instant

/-!
# Written timestamps

The two ways in which an instant is written: `stored` for the database and `shown` for the log.
Both give whole seconds, and both write years of four digits plainly and all others with a sign.
-/

namespace BotOps.Time

open BotOps.Text

/-- A year in at least four digits, with a sign unless it lies in 0..9999. -/
def yearDigits (year : Int) : List Char :=
  if 0 ≤ year ∧ year ≤ 9999 then Decimal.fixed 4 year.toNat
  else
    let size := year.natAbs
    (if year < 0 then '-' else '+') ::
      if size ≤ 9999 then Decimal.fixed 4 size else Decimal.plain size

/-- A date as year, month and day. -/
def Date.digits (date : Date) : List Char :=
  yearDigits date.year ++ '-' :: Decimal.fixed 2 date.month ++ '-' :: Decimal.fixed 2 date.day

/-- A time of day as hour, minute and second. -/
def Reading.timeDigits (reading : Reading) : List Char :=
  Decimal.fixed 2 reading.hour ++ ':' :: Decimal.fixed 2 reading.minute ++
    ':' :: Decimal.fixed 2 reading.second

/-- A reading as date and time with a mark between them. -/
def Reading.digits (reading : Reading) (mark : Char) : List Char :=
  reading.date.digits ++ mark :: reading.timeDigits

/-- The form in which the database keeps an instant: whole seconds in universal time. -/
def Instant.stored (t : Instant) : String := String.ofList (t.reading.digits 'T' ++ ['Z'])

/-- The form in which the log shows an instant. -/
def Instant.shown (t : Instant) : String := String.ofList (t.reading.digits ' ')

/-- The form in which the log shows an instant that may be missing. -/
def shownOrMissing : Option Instant → String
  | some t => t.shown
  | none => "N/A"

end BotOps.Time
