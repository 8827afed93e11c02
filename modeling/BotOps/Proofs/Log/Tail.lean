import BotOps.Log.Files
import BotOps.Proofs.Log.Count
import Mathlib.Data.List.TakeWhile

/-!
# What the tail scan may skip

A scan starts at the start of a log or behind a newline, and in the latter case some line from there
on is stamped before the window. A log in which no line stamped inside the window comes before such
a line therefore loses nothing to the scan, and neither do several such logs:
`total_eq_sum_wholeCount`.
-/

namespace BotOps.Log

open BotOps.Text BotOps.Time

/-- A line is stamped inside a window. -/
def StampedInside (window : Window) (line : List UInt8) : Prop :=
  ∃ t ∈ lineStamp line, window.contains t = true

instance (window : Window) (line : List UInt8) : Decidable (StampedInside window line) :=
  inferInstanceAs (Decidable (∃ t ∈ lineStamp line, window.contains t = true))

/-- A line is stamped before a window. -/
def StampedBefore (window : Window) (line : List UInt8) : Prop :=
  ∃ t ∈ lineStamp line, t < window.first

instance (window : Window) (line : List UInt8) : Decidable (StampedBefore window line) :=
  inferInstanceAs (Decidable (∃ t ∈ lineStamp line, t < window.first))

/-- No line that is stamped inside the window comes before one that is stamped before it. -/
def InOrder (window : Window) (content : List UInt8) : Prop :=
  (linesOf content).Pairwise fun earlier later ↦
    StampedInside window earlier → ¬ StampedBefore window later

instance (window : Window) (content : List UInt8) : Decidable (InOrder window content) :=
  inferInstanceAs (Decidable (List.Pairwise _ _))

/-- The stamped lines of a log follow one another in time. -/
def Chronological (content : List UInt8) : Prop :=
  (linesOf content).Pairwise fun earlier later ↦
    ∀ s t, lineStamp earlier = some s → lineStamp later = some t → s ≤ t

/-- A log that was written in the order of time is in order for every window. -/
theorem Chronological.inOrder {content : List UInt8} (h : Chronological content)
    (window : Window) : InOrder window content := by
  refine List.Pairwise.imp ?_ h
  rintro earlier later hle ⟨s, hs, hinside⟩ ⟨t, ht, hbefore⟩
  have hst : ¬ t < s := hle s t hs ht
  have hfirst : ¬ s < window.first := by
    simp only [Window.contains, Bool.and_eq_true, decide_eq_true_eq] at hinside
    exact hinside.1
  change Instant.Precedes t window.first at hbefore
  change ¬ Instant.Precedes t s at hst
  change ¬ Instant.Precedes s window.first at hfirst
  unfold Instant.Precedes at hbefore hst hfirst
  omega

/-- The first line of some bytes ends at the first newline, if there is one. -/
theorem takeLine_eq (line rest : List UInt8) (h : newline ∉ line) :
    takeLine (line ++ newline :: rest) = (line ++ [newline], rest) := by
  have hline : ∀ b ∈ line, decide (b ≠ newline) = true := by
    intro b hb
    exact decide_eq_true (fun heq ↦ h (heq ▸ hb))
  have hdrop : (line ++ newline :: rest).dropWhile (· ≠ newline) = newline :: rest := by
    rw [List.dropWhile_append_of_pos hline]
    rfl
  have htake : (line ++ newline :: rest).takeWhile (· ≠ newline) = line := by
    rw [List.takeWhile_append_of_pos hline]
    simp
  unfold takeLine
  rw [hdrop, htake]

/-- Bytes without a newline are their own first line. -/
theorem takeLine_of_notMem {bytes : List UInt8} (h : newline ∉ bytes) :
    takeLine bytes = (bytes, []) := by
  have hdrop : bytes.dropWhile (· ≠ newline) = [] := by
    rw [List.dropWhile_eq_nil_iff]
    intro b hb
    exact decide_eq_true (fun heq ↦ h (heq ▸ hb))
  unfold takeLine
  rw [hdrop]

/-- Where a block opens before the window, some line from there on is stamped before it. -/
theorem exists_stampedBefore_of_opensBefore {window : Window} {room : Nat} {bytes : List UInt8}
    (h : opensBefore window.first room bytes = true) :
    ∃ line ∈ linesOf bytes, StampedBefore window line := by
  fun_induction opensBefore window.first room bytes with
  | case1 room bytes hempty => cases h
  | case2 room bytes hempty t ht =>
    have hbefore : t < window.first := of_decide_eq_true h
    by_cases hmem : newline ∈ bytes
    · obtain ⟨line, rest, rfl, hline⟩ := List.eq_append_cons_of_mem hmem
      rw [takeLine_eq line rest hline] at ht
      rw [linesOf_append_newline, linesOf_of_notMem hline]
      exact ⟨line, by simp, t, (lineStamp_append_newline line).symm.trans ht, hbefore⟩
    · rw [takeLine_of_notMem hmem] at ht
      exact ⟨bytes, by simp [linesOf_of_notMem hmem], t, ht, hbefore⟩
  | case3 room bytes hempty hstamp ih =>
    by_cases hmem : newline ∈ bytes
    · obtain ⟨line, rest, rfl, hline⟩ := List.eq_append_cons_of_mem hmem
      rw [takeLine_eq line rest hline] at h ih
      obtain ⟨found, hfound, hbefore⟩ := ih h
      rw [linesOf_append_newline]
      exact ⟨found, List.mem_append_right _ hfound, hbefore⟩
    · rw [takeLine_of_notMem hmem, opensBefore] at h
      simp at h

/-- A place to start from is the start of the log, lies behind a newline, or leaves nothing. -/
theorem lineStart_cases (content : List UInt8) (place : Nat) :
    lineStart content place = 0 ∨ content.drop (lineStart content place) = [] ∨
      ∃ front, content = front ++ newline :: content.drop (lineStart content place) := by
  unfold lineStart
  split
  · exact .inl rfl
  · refine .inr ?_
    rw [← List.drop_drop]
    by_cases hmem : newline ∈ content.drop place
    · obtain ⟨line, rest, heq, hline⟩ := List.eq_append_cons_of_mem hmem
      refine .inr ⟨content.take place ++ line, ?_⟩
      have hsplit := List.take_append_drop place content
      have hrest : (content.drop place).drop (takeLine (content.drop place)).1.length = rest := by
        rw [heq, takeLine_eq line rest hline]
        simp
      rw [hrest, List.append_assoc, ← heq, hsplit]
    · rw [takeLine_of_notMem hmem]
      exact .inl (List.drop_length)

/-- A scan that goes back from some place starts at the start of the log, or behind a newline where
some line from there on is stamped before the window. -/
theorem startBefore_cases (content : List UInt8) (window : Window) (place : Nat) :
    startBefore content window place = 0 ∨
      (∃ front, content = front ++ newline :: content.drop (startBefore content window place)) ∧
        ∃ line ∈ linesOf (content.drop (startBefore content window place)),
          StampedBefore window line := by
  fun_induction startBefore content window place with
  | case1 => exact .inl rfl
  | case2 place hplace block start hopens =>
    have hlater := exists_stampedBefore_of_opensBefore hopens
    rcases lineStart_cases content block with hzero | hnil | hfront
    · exact .inl hzero
    · obtain ⟨line, hline, t, ht, -⟩ := hlater
      rw [hnil, linesOf_of_notMem List.not_mem_nil, List.mem_singleton] at hline
      rw [hline, lineStamp_nil] at ht
      cases ht
    · exact .inr ⟨hfront, hlater⟩
  | case3 place hplace block start hopens ih => exact ih

/-- Lines none of which is stamped inside the window add nothing. -/
theorem count_eq_zero {window : Window} {content : List UInt8}
    (h : ∀ line ∈ linesOf content, ¬ StampedInside window line) : count content window = 0 := by
  rw [count_eq_sum]
  apply List.sum_eq_zero
  intro counts hcounts
  obtain ⟨line, hline, rfl⟩ := List.mem_map.mp hcounts
  apply countLine_eq_zero
  intro t ht
  rw [← Bool.not_eq_true]
  exact fun hinside ↦ h line hline ⟨t, ht, hinside⟩

/-- What a scan skips of a log in order adds nothing to the count. -/
theorem countTail_eq_count {window : Window} {content : List UInt8} (h : InOrder window content) :
    countTail content window = count content window := by
  unfold countTail
  rcases startBefore_cases content window content.length with hzero | ⟨⟨front, hfront⟩, hlater⟩
  · rw [tailStart, hzero, List.drop_zero]
  · obtain ⟨later, hlater, hbefore⟩ := hlater
    change content = front ++ newline :: content.drop (tailStart content window) at hfront
    change later ∈ linesOf (content.drop (tailStart content window)) at hlater
    generalize content.drop (tailStart content window) = rest at hfront hlater ⊢
    subst hfront
    rw [InOrder, linesOf_append_newline, List.pairwise_append] at h
    have hskipped : count front window = 0 :=
      count_eq_zero fun line hline hinside ↦ h.2.2 line hline later hlater hinside hbefore
    rw [count_append_newline, hskipped, zero_add]

/-- The reports inside a window in a whole log; one that cannot be read has none. -/
def File.wholeCount (file : File) (window : Window) : Counts :=
  match file.content with
  | .ok content => Log.count content window
  | .error _ => 0

/-- A log that can be read is in order. -/
def File.InOrder (file : File) (window : Window) : Prop :=
  ∀ content, file.content = .ok content → Log.InOrder window content

/-- A sum that no longer fits does not fit later either. -/
theorem Counts.fits_of_fits_add {a b : Counts} (h : (a + b).Fits) : a.Fits := by
  unfold Counts.Fits at *
  simp only [Counts.kicks_add, Counts.commands_add] at h
  omega

/-- Once the total is lost it stays lost. -/
theorem foldl_addFile_none (files : List File) (window : Window) :
    files.foldl (addFile window) none = none := by
  induction files with
  | nil => rfl
  | cons file files ih =>
    rw [List.foldl_cons]
    have hstep : addFile window none file = none := by
      unfold addFile
      split <;> rfl
    rw [hstep, ih]

/-- What the scan of a log adds to the total; one that cannot be read adds nothing. -/
def File.scannedCount (file : File) (window : Window) : Counts :=
  match file.content with
  | .ok content => countTail content window
  | .error _ => 0

/-- Logs add what their scans count to a running total, as long as the sum fits. -/
theorem foldl_addFile_scannedCount (files : List File) (window : Window) (sum : Counts)
    (hsum : sum.Fits) :
    files.foldl (addFile window) (some sum) =
      if (sum + (files.map (File.scannedCount · window)).sum).Fits then
        some (sum + (files.map (File.scannedCount · window)).sum)
      else none := by
  induction files generalizing sum with
  | nil => simp [hsum]
  | cons file files ih =>
    have hstep : addFile window (some sum) file = sum.merge? (file.scannedCount window) := by
      unfold addFile File.count File.scannedCount
      cases file.content with
      | error failure => simp [Except.map, Counts.merge?, hsum]
      | ok content => rfl
    rw [List.foldl_cons, hstep, List.map_cons, List.sum_cons, ← add_assoc]
    unfold Counts.merge?
    split
    · next hfits => exact ih _ hfits
    · next hfits =>
      rw [foldl_addFile_none, if_neg fun hall ↦ hfits (Counts.fits_of_fits_add hall)]

/-- The total of some logs is the sum of what their scans count, if that fits. -/
theorem total_eq_sum_scannedCount (files : List File) (window : Window) :
    total files window =
      if (files.map (File.scannedCount · window)).sum.Fits then
        some (files.map (File.scannedCount · window)).sum
      else none := by
  have hnone : Counts.none = 0 := rfl
  rw [total, foldl_addFile_scannedCount files window _ (by decide), hnone, zero_add]

/-- Logs in order add their whole counts to a running total. -/
theorem foldl_addFile (files : List File) (window : Window) (sum : Counts) (hsum : sum.Fits)
    (h : ∀ file ∈ files, file.InOrder window) :
    files.foldl (addFile window) (some sum) =
      if (sum + (files.map (File.wholeCount · window)).sum).Fits then
        some (sum + (files.map (File.wholeCount · window)).sum)
      else none := by
  have hwhole : files.map (File.scannedCount · window) = files.map (File.wholeCount · window) := by
    refine List.map_congr_left fun file hfile ↦ ?_
    have horder := h file hfile
    unfold File.scannedCount File.wholeCount
    cases hcontent : file.content with
    | error failure => rfl
    | ok content => exact countTail_eq_count (horder content hcontent)
  rw [foldl_addFile_scannedCount files window sum hsum, hwhole]

/-- Scanning the tails of logs in order counts what reading them whole would count, in whichever
order the logs are given; the total is lost only if the whole counts do not fit. Logs written in
the order of time are in order for every window. -/
theorem total_eq_sum_wholeCount (window : Window) :
    (∀ content, Chronological content → InOrder window content) ∧
      ∀ files : List File, (∀ file ∈ files, file.InOrder window) →
        ∀ given : List File, given.Perm files →
          total given window =
            if (files.map (File.wholeCount · window)).sum.Fits then
              some (files.map (File.wholeCount · window)).sum
            else none := by
  refine ⟨fun content h ↦ h.inOrder window, ?_⟩
  intro files h given hgiven
  have hall : ∀ file ∈ given, file.InOrder window := fun f hf ↦ h f (hgiven.mem_iff.mp hf)
  have hnone : Counts.none = 0 := rfl
  rw [total, foldl_addFile given window _ (by decide) hall, (hgiven.map _).sum_eq, hnone, zero_add]

/-- A log with a line of the old year and one of the new. -/
def newYearLog : List UInt8 :=
  Utf8.encode
    ("2023-12-31 23:59:59.000 Guild 1 deleted (bot kicked?), removing active game states\n" ++
      "2024-01-01 00:05:00.000 Guild 2 deleted (bot kicked?), removing active game states").toList

/-- The first quarter of an hour of 2024. -/
def newYearWindow : Window := ⟨⟨1704067200, 0, by decide⟩, ⟨1704068100, 0, by decide⟩⟩

/-- Only the line of the new year counts, and a missing log adds nothing. -/
theorem total_newYear :
    (∀ file ∈ [File.mk "absent" (.error .missing), File.mk "bot" (.ok newYearLog)],
      file.InOrder newYearWindow) ∧
    total [File.mk "bot" (.ok newYearLog), File.mk "absent" (.error .missing)] newYearWindow =
      some ⟨1, 0⟩ := by
  have horder : ∀ file ∈ [File.mk "absent" (.error .missing), File.mk "bot" (.ok newYearLog)],
      file.InOrder newYearWindow := by
    intro file hfile content hcontent
    simp only [List.mem_cons, List.not_mem_nil, or_false] at hfile
    rcases hfile with rfl | rfl
    · cases hcontent
    · obtain rfl := Except.ok.inj hcontent
      decide +kernel
  have htotal := (total_eq_sum_wholeCount newYearWindow).2 _ horder
    [File.mk "bot" (.ok newYearLog), File.mk "absent" (.error .missing)] (List.Perm.swap _ _ _)
  have hsum : ([File.mk "absent" (.error .missing), File.mk "bot" (.ok newYearLog)].map
      (File.wholeCount · newYearWindow)).sum = ⟨1, 0⟩ := by decide +kernel
  rw [hsum] at htotal
  exact ⟨horder, htotal⟩

end BotOps.Log
