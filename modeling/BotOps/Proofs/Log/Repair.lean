import BotOps.Proofs.Log.Count
import BotOps.Proofs.Text.Encoding
import Mathlib.Algebra.Ring.Nat

/-!
# Repairing a log

A newline is never part of a longer character and never comes of a repair, so a log falls into the
same lines whether it is repaired before it is cut or after: `count_repaired`.
-/

namespace BotOps.Log

open BotOps.Text

section

variable {α β : Type} [BEq α] [LawfulBEq α] [BEq β] [LawfulBEq β]

/-- What turns one separator into another, piece by piece, and makes none of a piece commutes with
cutting. -/
theorem splitOn_map {f : List α → List β} {a : α} {b : β}
    (hcut : ∀ front rest, f (front ++ a :: rest) = f front ++ b :: f rest)
    (hpiece : ∀ piece, a ∉ piece → b ∉ f piece) (text : List α) :
    (f text).splitOn b = (text.splitOn a).map f := by
  by_cases hmem : a ∈ text
  · obtain ⟨front, rest, htext, hfront⟩ := List.eq_append_cons_of_mem hmem
    have hshorter : rest.length < text.length := by
      rw [htext, List.length_append, List.length_cons]
      omega
    rw [htext, hcut, List.splitOn_append_cons_self_of_not_mem (hpiece front hfront),
      List.splitOn_append_cons_self_of_not_mem hfront, List.map_cons, splitOn_map hcut hpiece rest]
  · rw [List.splitOn_eq_singleton hmem, List.splitOn_eq_singleton (hpiece text hmem)]
    rfl
termination_by text.length

end

/-- A log is cut at its newlines. -/
theorem linesOf_eq_splitOn (content : List UInt8) : linesOf content = content.splitOn newline := by
  induction content with
  | nil => rfl
  | cons b content ih =>
    obtain ⟨line, lines, hlines⟩ := List.exists_cons_of_ne_nil (linesOf_ne_nil content)
    change pushByte b (linesOf content) = _
    rw [List.splitOn_cons_eq_if_modifyHead, ← ih, hlines, pushByte]
    simp only [beq_iff_eq]
    rfl

/-- The lines of a repaired log are the repaired lines. -/
theorem splitOn_decodeLossy (content : List UInt8) :
    (Utf8.decodeLossy content).splitOn '\n' = (linesOf content).map Utf8.decodeLossy := by
  rw [linesOf_eq_splitOn]
  apply splitOn_map
  · intro front rest
    exact Utf8.decodeLossy_append_cons front rest newline (by decide)
  · intro line hline hmem
    obtain ⟨b, hb, hnewline⟩ := Utf8.exists_mem_of_mem_decodeLossy (by decide) hmem
    obtain rfl : newline = b := UInt8.toNat_inj.mp hnewline
    exact hline hb

/-- A newline ends a character that is cut off, and the rest of it begins none. -/
example : Utf8.decodeLossy [0xe2, 0x82, newline, 0xac] = ['\ufffd', '\n', '\ufffd'] := by decide

/-- The lines of a text that is written to a log are its own lines. -/
theorem linesOf_encode (text : List Char) :
    linesOf (Utf8.encode text) = (text.splitOn '\n').map Utf8.encode := by
  rw [linesOf_eq_splitOn]
  apply splitOn_map
  · intro front rest
    exact List.flatMap_append ..
  · intro line hline hmem
    exact hline (Utf8.mem_of_mem_encode hmem (by decide))

/-- A line adds no more reports than it has bytes. -/
theorem countLine_le_length (window : Window) (line : List UInt8) :
    (countLine window line).kicks + (countLine window line).commands ≤ line.length := by
  cases line with
  | nil => exact Nat.le_refl 0
  | cons b line =>
    generalize hline : b :: line = bytes
    have hpos : 1 ≤ bytes.length := by simp [← hline]
    unfold countLine
    dsimp only
    split
    · split
      · split
        · next report hreport =>
          cases report with
          | kick => exact hpos
          | command => exact hpos
        · exact Nat.zero_le _
      · exact Nat.zero_le _
    · exact Nat.zero_le _

/-- The lines of a log have no more bytes than the log. -/
theorem sum_length_linesOf_le (content : List UInt8) :
    ((linesOf content).map List.length).sum ≤ content.length := by
  induction content with
  | nil => exact Nat.le_refl 0
  | cons b content ih =>
    obtain ⟨line, lines, hlines⟩ := List.exists_cons_of_ne_nil (linesOf_ne_nil content)
    change ((pushByte b (linesOf content)).map List.length).sum ≤ content.length + 1
    rw [hlines] at ih ⊢
    rw [pushByte]
    split
    · simp only [List.map_cons, List.sum_cons, List.length_nil] at ih ⊢
      omega
    · simp only [List.map_cons, List.sum_cons, List.length_cons] at ih ⊢
      omega

/-- A log has no more reports than bytes. -/
theorem count_le_length (content : List UInt8) (window : Window) :
    (count content window).kicks + (count content window).commands ≤ content.length := by
  have hlines (lines : List (List UInt8)) :
      (lines.map (countLine window)).sum.kicks + (lines.map (countLine window)).sum.commands ≤
        (lines.map List.length).sum := by
    induction lines with
    | nil => exact Nat.le_refl 0
    | cons line lines ih =>
      have hline := countLine_le_length window line
      simp only [List.map_cons, List.sum_cons, Counts.kicks_add, Counts.commands_add]
      omega
  rw [count_eq_sum]
  exact Nat.le_trans (hlines _) (sum_length_linesOf_le content)

/-- A log can be repaired as a whole or line by line. A repaired log has the same lines as repairing
each line gives, so its count is that of the log; and as no line reports twice, the count of a log
that fits in memory fits in its 64 bits. -/
theorem count_repaired (content : List UInt8) (window : Window) :
    (Utf8.decodeLossy content).splitOn '\n' = (linesOf content).map Utf8.decodeLossy ∧
      linesOf (Utf8.encode (Utf8.decodeLossy content)) =
        (linesOf content).map (fun line ↦ Utf8.encode (Utf8.decodeLossy line)) ∧
      count (Utf8.encode (Utf8.decodeLossy content)) window = count content window ∧
      (count content window).kicks + (count content window).commands ≤ content.length := by
  have hlines : linesOf (Utf8.encode (Utf8.decodeLossy content)) =
      (linesOf content).map fun line ↦ Utf8.encode (Utf8.decodeLossy line) := by
    rw [linesOf_encode, splitOn_decodeLossy, List.map_map]
    rfl
  have hline (line : List UInt8) :
      countLine window (Utf8.encode (Utf8.decodeLossy line)) = countLine window line := by
    rw [countLine, Utf8.decodeLossy_encode, countLine]
  refine ⟨splitOn_decodeLossy content, hlines, ?_, count_le_length content window⟩
  rw [count_eq_sum, count_eq_sum, hlines, List.map_map]
  congr 1
  exact List.map_congr_left fun line _ ↦ hline line

end BotOps.Log
