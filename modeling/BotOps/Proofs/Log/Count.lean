import BotOps.Proofs.Log.Line
import Mathlib.Algebra.BigOperators.Group.List.Basic

/-!
# Counting line by line

The count of a log is the sum of what its lines add, so a log that is cut at a newline is counted
piece by piece: `count_append_newline`.
-/

namespace BotOps.Log

open BotOps.Text BotOps.Time

namespace Counts

/-- Kicks add up by themselves. -/
@[simp] theorem kicks_add (a b : Counts) : (a + b).kicks = a.kicks + b.kicks := rfl

/-- Commands add up by themselves. -/
@[simp] theorem commands_add (a b : Counts) : (a + b).commands = a.commands + b.commands := rfl

/-- Two counts with the same fields are the same. -/
@[ext] theorem ext {a b : Counts} (hkicks : a.kicks = b.kicks)
    (hcommands : a.commands = b.commands) : a = b := by
  cases a
  cases b
  cases hkicks
  cases hcommands
  rfl

instance : Zero Counts := ⟨none⟩

/-- There are no kicks among no reports. -/
@[simp] theorem kicks_zero : (0 : Counts).kicks = 0 := rfl

/-- There are no commands among no reports. -/
@[simp] theorem commands_zero : (0 : Counts).commands = 0 := rfl

/-- Counts add up in any order. -/
instance : AddCommMonoid Counts where
  add_assoc a b c := by ext <;> simp [Nat.add_assoc]
  zero_add a := by ext <;> simp
  add_zero a := by ext <;> simp
  add_comm a b := by ext <;> simp [Nat.add_comm]
  nsmul := nsmulRec

end Counts

/-- A log has at least one line. -/
theorem linesOf_ne_nil (content : List UInt8) : linesOf content ≠ [] := by
  cases content with
  | nil => simp [linesOf]
  | cons b content =>
    rw [linesOf, List.foldr_cons]
    cases content.foldr pushByte [[]] with
    | nil => simp [pushByte]
    | cons line lines =>
      rw [pushByte]
      split <;> simp

/-- A byte goes in front of the first of several lines. -/
theorem pushByte_append (b : UInt8) {lines : List (List UInt8)} (h : lines ≠ [])
    (more : List (List UInt8)) : pushByte b (lines ++ more) = pushByte b lines ++ more := by
  cases lines with
  | nil => exact absurd rfl h
  | cons line lines =>
    simp only [List.cons_append, pushByte]
    split <;> simp

/-- A newline parts the lines before it from the lines behind it. -/
theorem linesOf_append_newline (front rest : List UInt8) :
    linesOf (front ++ newline :: rest) = linesOf front ++ linesOf rest := by
  induction front with
  | nil =>
    obtain ⟨line, lines, hlines⟩ := List.exists_cons_of_ne_nil (linesOf_ne_nil rest)
    change pushByte newline (linesOf rest) = [[]] ++ linesOf rest
    rw [hlines, pushByte, if_pos rfl]
    rfl
  | cons b front ih =>
    change pushByte b (linesOf (front ++ newline :: rest)) = pushByte b (linesOf front) ++ _
    rw [ih, pushByte_append b (linesOf_ne_nil front)]

/-- Bytes without a newline are one line. -/
theorem linesOf_of_notMem {line : List UInt8} (h : newline ∉ line) : linesOf line = [line] := by
  induction line with
  | nil => rfl
  | cons b line ih =>
    rw [List.mem_cons, not_or] at h
    change pushByte b (linesOf line) = [b :: line]
    rw [ih h.2, pushByte, if_neg (Ne.symm h.1)]

/-- The count of a log is the sum of what its lines add. -/
theorem count_eq_sum (content : List UInt8) (window : Window) :
    count content window = ((linesOf content).map (countLine window)).sum := by
  rw [List.sum_eq_foldl, List.foldl_map]
  rfl

/-- A log that is cut at a newline is counted piece by piece. -/
theorem count_append_newline (front rest : List UInt8) (window : Window) :
    count (front ++ newline :: rest) window = count front window + count rest window := by
  simp only [count_eq_sum, linesOf_append_newline, List.map_append, List.sum_append]

/-- A line that is not stamped inside the window adds nothing. -/
theorem countLine_eq_zero {window : Window} {line : List UInt8}
    (h : ∀ t, lineStamp line = some t → window.contains t = false) : countLine window line = 0 := by
  unfold countLine
  dsimp only
  split
  · next t ht => simp [h t ht]; rfl
  · rfl

end BotOps.Log
