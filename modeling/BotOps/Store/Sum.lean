import BotOps.Store.Row

/-!
# Sums of columns

A column of whole numbers is summed up in 64 bits. A sum that leaves the range on the way has no
value, unless a double among the rows makes it a double.
-/

namespace BotOps.Store

open BotOps.Metrics

/-- The sum of two integers, if it fits in 64 bits. -/
def addExact? (a b : Int64) : Option Int64 :=
  let sum := a.toInt + b.toInt
  if Int64.minValue.toInt ≤ sum ∧ sum ≤ Int64.maxValue.toInt then some (Int64.ofInt sum) else none

/-- The sum of integers added up in turn, if each step fits in 64 bits. -/
def sumExact? (column : List Int64) : Option Int64 := column.foldlM addExact? 0

/-- The sum of tallies, as far as it is known. -/
inductive TallySum where
  | exact (count : Int64)
  | overflowed
  | inexact
deriving DecidableEq, Repr, Inhabited

/-- Adds a tally to a sum. -/
def TallySum.add : TallySum → Tally → TallySum
  | .exact sum, .exact count =>
    match addExact? sum count with
    | some sum => .exact sum
    | none => .overflowed
  | .overflowed, .exact _ => .overflowed
  | .inexact, .exact _ => .inexact
  | _, .inexact _ => .inexact

/-- The sum of tallies. -/
def TallySum.of (tallies : List Tally) : TallySum := tallies.foldl TallySum.add (.exact 0)

/-- A tally after more questions were asked. A sum out of range becomes a double, and a double
that is a whole number in range becomes exact again. -/
def Tally.add (tally : Tally) (more : Int64) : Tally :=
  let ofDouble (x : Double) : Tally :=
    match x.toInt64? with
    | some count => .exact count
    | none => .inexact x
  match tally with
  | .exact count =>
    match addExact? count more with
    | some sum => .exact sum
    | none => ofDouble ((Double.ofInt64 count).add (Double.ofInt64 more))
  | .inexact x => ofDouble (x.add (Double.ofInt64 more))

end BotOps.Store
