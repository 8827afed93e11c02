import BotOps.Log.Line
import BotOps.Log.Window
import BotOps.Text.Utf8

/-!
# Counting the reports of a log

A log is bytes. Newlines cut it into lines, each line is read as text with replacement characters
where it is not UTF-8, and a report counts when its line is stamped inside the window.
-/

namespace BotOps.Log

open BotOps.Text

/-- The byte that ends a line. -/
def newline : UInt8 := 10

/-- How many kicks and commands were reported. -/
structure Counts where
  kicks : Nat
  commands : Nat
deriving DecidableEq, Repr

namespace Counts

/-- Nothing was reported. -/
def none : Counts := ⟨0, 0⟩

instance : Inhabited Counts := ⟨none⟩

/-- Counts add up field by field. -/
def add (a b : Counts) : Counts := ⟨a.kicks + b.kicks, a.commands + b.commands⟩

instance : Add Counts := ⟨add⟩

/-- A count is kept in 64 bits. -/
def Fits (counts : Counts) : Prop :=
  counts.kicks < UInt64.size ∧ counts.commands < UInt64.size

instance (counts : Counts) : Decidable counts.Fits := by unfold Fits; infer_instance

/-- The sum of two counts, if it can be kept. -/
def merge? (a b : Counts) : Option Counts := if (a + b).Fits then some (a + b) else Option.none

/-- The count of one report. -/
def ofReport : Report → Counts
  | .kick => ⟨1, 0⟩
  | .command => ⟨0, 1⟩

end Counts

/-- Puts a byte in front of lines: a newline opens a new first line, any other byte extends the
first one. -/
def pushByte (b : UInt8) : List (List UInt8) → List (List UInt8)
  | [] => [[b]]
  | line :: lines => if b = newline then [] :: line :: lines else (b :: line) :: lines

/-- The lines of a log without their newlines; there is one line more than there are newlines. -/
def linesOf (content : List UInt8) : List (List UInt8) := content.foldr pushByte [[]]

/-- What one line adds to the counts. -/
def countLine (window : Window) (line : List UInt8) : Counts :=
  let text := Utf8.decodeLossy line
  match stamp? text with
  | some t =>
    if window.contains t then
      match report? text with
      | some report => .ofReport report
      | none => .none
    else .none
  | none => .none

/-- The reports of a log whose lines are stamped inside a window. -/
def count (content : List UInt8) (window : Window) : Counts :=
  (linesOf content).foldl (fun counts line ↦ counts + countLine window line) .none

end BotOps.Log
