import BotOps.Store.Basic
import BotOps.Store.Sum

/-!
# The counter of questions asked

The bot counts the questions that it asks in the one row of a table. Taking the counter reads it
and sets it back to 0.
-/

namespace BotOps.Store

namespace Statement

/-- The questions asked so far: the sum over the rows of the counter. -/
def questionsAsked : Statement Int64 := do
  match TallySum.of (← content .counters Store.counters) with
  | .exact sum => return sum
  | .overflowed => throw .overflow
  | .inexact => throw (.mistyped .real 0 "COALESCE(SUM(asked), 0)")

/-- Changes every row of the counter. -/
def updateCounters (change : Tally → Tally) : Statement Unit := do
  let tallies ← content .counters Store.counters
  permit .update .counters none (tallies ≠ []) none
  modify fun store ↦ { store with counters := some (tallies.map change) }

end Statement

/-- The questions asked since the counter was last taken. -/
def questionsAsked : Operation Int64 := execute Statement.questionsAsked

/-- Counts more questions. -/
def incrementQuestionsAsked (more : Int64) : Operation Unit :=
  execute (Statement.updateCounters fun tally ↦ tally.add more)

/-- Reads the counter and sets it to 0, as a part of a transaction. -/
def takeWithin : Operation Int64 := do
  let asked ← execute Statement.questionsAsked
  execute (Statement.updateCounters fun _ ↦ .exact 0)
  return asked

/-- Reads the counter and sets it to 0. -/
def takeQuestionsAsked : Operation Int64 := transaction takeWithin

end BotOps.Store
