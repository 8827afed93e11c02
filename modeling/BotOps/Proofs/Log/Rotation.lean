import BotOps.Proofs.Log.Report
import BotOps.Proofs.Log.Tail
import Mathlib.Data.List.Forall2

/-!
# Rotating a log

A log may be cut between its lines, and its lines may end with a carriage return before the newline.
The pieces together have the reports of the whole: `count_rotated`. A cut adds at most an empty
line, and neither a stamp nor a report ends with a carriage return.
-/

namespace BotOps.Log

open BotOps.Text

/-- The byte that some programs write before a newline. -/
def carriageReturn : UInt8 := 13

/-- A log is cut at line boundaries into pieces, in order. The newline of a cut stays at the end of
the piece before it or is lost. -/
inductive CutAtLines : List UInt8 → List (List UInt8) → Prop where
  | whole (content : List UInt8) : CutAtLines content [content]
  /-- The cut is behind a newline. -/
  | behind {front rest : List UInt8} {pieces : List (List UInt8)} (later : CutAtLines rest pieces) :
      CutAtLines (front ++ newline :: rest) ((front ++ [newline]) :: pieces)
  /-- The cut takes a newline away. -/
  | without {front rest : List UInt8} {pieces : List (List UInt8)}
      (later : CutAtLines rest pieces) : CutAtLines (front ++ newline :: rest) (front :: pieces)
  /-- The first piece is empty. -/
  | empty {content : List UInt8} {pieces : List (List UInt8)} (later : CutAtLines content pieces) :
      CutAtLines content ([] :: pieces)

/-- A log is written again with a carriage return before some or all of its newlines. -/
inductive Returned : List UInt8 → List UInt8 → Prop where
  | nil : Returned [] []
  | byte (b : UInt8) {content other : List UInt8} (later : Returned content other) :
      Returned (b :: content) (b :: other)
  | newline {content other : List UInt8} (later : Returned content other) :
      Returned (newline :: content) (carriageReturn :: newline :: other)

/-- A log is written again with a carriage return before each of its newlines. -/
def withReturns (content : List UInt8) : List UInt8 :=
  content.flatMap fun b ↦ if b = newline then [carriageReturn, newline] else [b]

section

variable {window : Window} {content other : List UInt8} {pieces : List (List UInt8)}

/-- A log without bytes has no reports. -/
theorem count_nil (window : Window) : count [] window = 0 := by
  rw [count_eq_sum, linesOf_of_notMem List.not_mem_nil, List.map_singleton, List.sum_singleton]
  exact countLine_eq_zero fun t ht ↦ by cases ht

/-- A newline at the end of a log adds no reports. -/
theorem count_concat_newline (content : List UInt8) (window : Window) :
    count (content ++ [newline]) window = count content window := by
  rw [count_append_newline, count_nil, add_zero]

/-- A log that is cut at line boundaries is counted piece by piece. -/
theorem CutAtLines.sum_count (h : CutAtLines content pieces) (window : Window) :
    (pieces.map (count · window)).sum = count content window := by
  induction h with
  | whole content => rw [List.map_singleton, List.sum_singleton]
  | behind _ ih => rw [List.map_cons, List.sum_cons, ih, count_concat_newline, count_append_newline]
  | without _ ih => rw [List.map_cons, List.sum_cons, ih, count_append_newline]
  | empty _ ih => rw [List.map_cons, List.sum_cons, ih, count_nil, zero_add]

/-- An empty line is not stamped before a window. -/
theorem not_stampedBefore_nil (window : Window) : ¬ StampedBefore window [] := by
  rintro ⟨t, ht, -⟩
  cases ht

/-- A log without bytes is in order. -/
theorem inOrder_nil (window : Window) : InOrder window [] := List.pairwise_singleton _ _

/-- A newline at the end of a log leaves it in order. -/
theorem InOrder.concat_newline (h : InOrder window content) :
    InOrder window (content ++ [newline]) := by
  rw [InOrder, linesOf_append_newline, List.pairwise_append]
  refine ⟨h, inOrder_nil window, fun earlier _ later hlater _ ↦ ?_⟩
  rw [linesOf_of_notMem List.not_mem_nil, List.mem_singleton] at hlater
  exact hlater ▸ not_stampedBefore_nil window

/-- The pieces of a log in order are in order. -/
theorem CutAtLines.inOrder (h : CutAtLines content pieces) (order : InOrder window content) :
    ∀ piece ∈ pieces, InOrder window piece := by
  induction h with
  | whole content => exact List.forall_mem_singleton.mpr order
  | behind _ ih =>
    rw [InOrder, linesOf_append_newline, List.pairwise_append] at order
    exact List.forall_mem_cons.mpr ⟨InOrder.concat_newline order.1, ih order.2.1⟩
  | without _ ih =>
    rw [InOrder, linesOf_append_newline, List.pairwise_append] at order
    exact List.forall_mem_cons.mpr ⟨order.1, ih order.2.1⟩
  | empty _ ih => exact List.forall_mem_cons.mpr ⟨inOrder_nil window, ih order⟩

/-- A carriage return at the end of a line changes nothing about what the line adds. -/
theorem countLine_concat_return (window : Window) (line : List UInt8) :
    countLine window (line ++ [carriageReturn]) = countLine window line := by
  have hreturn : Char.ofNat carriageReturn.toNat = '\r' := rfl
  unfold countLine
  rw [decodeLossy_concat (by decide), hreturn]
  dsimp only
  rw [stamp?_concat (by decide), report?_concat (by decide) (by decide)]

/-- Line by line, a carriage return is added or not. -/
theorem Returned.forall₂_linesOf (h : Returned content other) :
    List.Forall₂ (fun line other ↦ other = line ∨ other = line ++ [carriageReturn])
      (linesOf content) (linesOf other) := by
  induction h with
  | nil => exact .cons (.inl rfl) .nil
  | @byte b content other _ ih =>
    change List.Forall₂ _ (pushByte b (linesOf content)) (pushByte b (linesOf other))
    generalize linesOf content = lines, linesOf other = otherLines at ih ⊢
    cases ih with
    | nil => exact .cons (.inl rfl) .nil
    | cons hline hlines =>
      rw [pushByte, pushByte]
      split
      · exact .cons (.inl rfl) (.cons hline hlines)
      · refine .cons ?_ hlines
        rcases hline with rfl | rfl
        · exact .inl rfl
        · exact .inr rfl
  | @newline content other _ ih =>
    have hcontent : linesOf (Log.newline :: content) = [] :: linesOf content :=
      linesOf_append_newline [] content
    have hother : linesOf (carriageReturn :: Log.newline :: other) =
        [carriageReturn] :: linesOf other :=
      linesOf_append_newline [carriageReturn] other
    rw [hcontent, hother]
    exact .cons (.inr rfl) ih

/-- Carriage returns before newlines change no count. -/
theorem Returned.count_eq (h : Returned content other) (window : Window) :
    count other window = count content window := by
  have hlines : List.Forall₂ (fun a b ↦ a = b) ((linesOf content).map (countLine window))
      ((linesOf other).map (countLine window)) := by
    rw [List.forall₂_map_left_iff, List.forall₂_map_right_iff]
    refine h.forall₂_linesOf.imp fun line other hline ↦ ?_
    rcases hline with rfl | rfl
    · rfl
    · exact (countLine_concat_return window line).symm
  rw [List.forall₂_eq_eq_eq] at hlines
  rw [count_eq_sum, count_eq_sum, hlines]

/-- Every newline may get its carriage return. -/
theorem returned_withReturns (content : List UInt8) : Returned content (withReturns content) := by
  induction content with
  | nil => exact .nil
  | cons b content ih =>
    rw [withReturns, List.flatMap_cons]
    split
    · next hb =>
      subst hb
      exact .newline ih
    · exact .byte b ih

/-- The total of some logs in order is the sum of their whole counts, if that fits. -/
theorem total_eq_of_inOrder {files : List File} (h : ∀ file ∈ files, file.InOrder window) :
    total files window =
      if (files.map (File.wholeCount · window)).sum.Fits then
        some (files.map (File.wholeCount · window)).sum
      else none := by
  have hnone : Counts.none = 0 := rfl
  rw [total, foldl_addFile files window _ (by decide) h, hnone, zero_add]

/-- The pieces of a log in order give the total of the log, whatever their files are called and in
whichever order they are given. -/
theorem CutAtLines.total_eq (h : CutAtLines content pieces) (order : InOrder window content)
    {files : List File} (path : String)
    (hfiles : (files.map File.content).Perm (pieces.map .ok)) :
    total files window = total [⟨path, .ok content⟩] window := by
  have hpieces : ∀ file ∈ files, file.InOrder window := by
    intro file hfile piece hpiece
    have hmem := hfiles.mem_iff.mp (List.mem_map_of_mem hfile)
    rw [hpiece] at hmem
    obtain ⟨found, hfound, heq⟩ := List.mem_map.mp hmem
    exact Except.ok.inj heq ▸ h.inOrder order found hfound
  have hwhole : ∀ file ∈ [File.mk path (.ok content)], file.InOrder window := by
    intro file hfile found hfound
    obtain rfl := List.mem_singleton.mp hfile
    exact Except.ok.inj hfound ▸ order
  let adds (read : Except ReadFailure (List UInt8)) : Counts := File.wholeCount ⟨"", read⟩ window
  have hsum : (files.map (File.wholeCount · window)).sum = count content window := by
    have hmap : files.map (File.wholeCount · window) = (files.map File.content).map adds := by
      rw [List.map_map]
      rfl
    rw [hmap, (hfiles.map adds).sum_eq, List.map_map]
    exact h.sum_count window
  rw [total_eq_of_inOrder hpieces, total_eq_of_inOrder hwhole, hsum, List.map_singleton,
    List.sum_singleton]
  rfl

end

/-- A newline between two logs makes one log of them with the reports of both. So cutting a log at
line boundaries leaves the sum of the reports as it is, and so do carriage returns before all or
some of its newlines. The pieces of a log in order, scanned as files of their own, give the same
total as the log. -/
theorem count_rotated (window : Window) :
    (∀ front rest,
      count (front ++ [newline] ++ rest) window = count front window + count rest window) ∧
      (∀ content pieces, CutAtLines content pieces →
        (pieces.map (count · window)).sum = count content window) ∧
      (∀ content, count (withReturns content) window = count content window) ∧
      (∀ content other, Returned content other → count other window = count content window) ∧
      ∀ content pieces, CutAtLines content pieces → InOrder window content →
        ∀ files path, (files.map File.content).Perm (pieces.map .ok) →
          total files window = total [⟨path, .ok content⟩] window := by
  refine ⟨fun front rest ↦ ?_, fun content pieces h ↦ h.sum_count window,
    fun content ↦ (returned_withReturns content).count_eq window,
    fun content other h ↦ h.count_eq window,
    fun content pieces h order files path hfiles ↦ h.total_eq order path hfiles⟩
  rw [List.append_assoc]
  exact count_append_newline front rest window

/-- A line that reports a command in the new year. -/
def newYearLine : List UInt8 := Utf8.encode "2024-01-01 00:01:00.CMD (USER=1, GUILD=2):".toList

/-- Two such lines give the same total when the first one was moved to another file, and the same
count when they end with carriage returns. -/
theorem count_rotated_newYear :
    let log := newYearLine ++ [newline] ++ newYearLine
    CutAtLines log [newYearLine ++ [newline], newYearLine] ∧ InOrder newYearWindow log ∧
    count log newYearWindow = ⟨0, 2⟩ ∧
    total [⟨"bot.log", .ok newYearLine⟩, ⟨"bot.log.1", .ok (newYearLine ++ [newline])⟩]
      newYearWindow = total [⟨"bot.log", .ok log⟩] newYearWindow ∧
    count (withReturns log) newYearWindow = ⟨0, 2⟩ := by
  intro log
  obtain ⟨hjoined, -, hreturned, -, hrotated⟩ := count_rotated newYearWindow
  have hlog : log = newYearLine ++ newline :: newYearLine :=
    List.append_assoc newYearLine [newline] newYearLine
  have hcut : CutAtLines log [newYearLine ++ [newline], newYearLine] := by
    rw [hlog]
    exact .behind (.whole newYearLine)
  have horder : InOrder newYearWindow log := by decide +kernel
  have hcount : count log newYearWindow = ⟨0, 2⟩ := by
    have hline : count newYearLine newYearWindow = ⟨0, 1⟩ := by decide +kernel
    rw [hjoined, hline]
    rfl
  exact ⟨hcut, horder, hcount, hrotated _ _ hcut horder _ _ (List.Perm.swap ..),
    (hreturned log).trans hcount⟩

end BotOps.Log
