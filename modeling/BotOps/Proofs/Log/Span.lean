import BotOps.Proofs.Log.Tail
import BotOps.Proofs.Time.Order
import Mathlib.Data.List.Chain

/-!
# How far back the scan goes

A scan that starts behind the window loses reports, and one that starts long before it reads the log
for nothing. If stamped lines are never far apart the scan starts no later than the window begins
and at most one block and one such distance before that, however long the log is: `tailStart_spans`.
-/

namespace BotOps.Log

open BotOps.Text BotOps.Time

/-- A stamped line: the place where it begins, and its stamp. -/
structure Mark where
  place : Nat
  stamp : Instant
deriving DecidableEq, Repr

/-- The stamped lines among some lines, the first of which begins at a place. -/
def marksFrom (place : Nat) : List (List UInt8) → List Mark
  | [] => []
  | line :: lines =>
    (lineStamp line).toList.map (Mark.mk place) ++ marksFrom (place + line.length + 1) lines

/-- The stamped lines of a log. -/
def marks (content : List UInt8) : List Mark := marksFrom 0 (linesOf content)

/-- The start of a log, the places of its stamped lines and its end lie at most `gap`
bytes apart. -/
def Spaced (gap : Nat) (content : List UInt8) : Prop :=
  (0 :: (marks content).map Mark.place ++ [content.length]).IsChain fun a b ↦ b ≤ a + gap

/-- The place of the first line that is stamped when the window has begun, or the end of the log. -/
def windowPlace (content : List UInt8) (window : Window) : Nat :=
  match (marks content).find? fun mark ↦ window.first ≤ mark.stamp with
  | some mark => mark.place
  | none => content.length

section

variable {place : Nat} {mark : Mark}

private theorem mem_marksFrom {lines : List (List UInt8)} (h : mark ∈ marksFrom place lines) :
    place ≤ mark.place ∧ ∃ line ∈ lines, lineStamp line = some mark.stamp := by
  induction lines generalizing place with
  | nil => cases h
  | cons line lines ih =>
    rw [marksFrom, List.mem_append] at h
    rcases h with hfirst | hrest
    · obtain ⟨t, ht, rfl⟩ := List.mem_map.mp hfirst
      exact ⟨Nat.le_refl _, line, List.mem_cons_self, Option.mem_toList.mp ht⟩
    · obtain ⟨hplace, found, hfound, hstamp⟩ := ih hrest
      exact ⟨by omega, found, List.mem_cons_of_mem _ hfound, hstamp⟩

private theorem marksFrom_linesOf_of_notMem {line : List UInt8} (h : newline ∉ line) :
    marksFrom place (linesOf line) = (lineStamp line).toList.map (Mark.mk place) := by
  rw [linesOf_of_notMem h, marksFrom, marksFrom, List.append_nil]

/-- The bytes that some lines take up, each with a newline behind it. -/
def extent : List (List UInt8) → Nat
  | [] => 0
  | line :: lines => line.length + 1 + extent lines

private theorem marksFrom_append (place : Nat) (lines more : List (List UInt8)) :
    marksFrom place (lines ++ more) =
      marksFrom place lines ++ marksFrom (place + extent lines) more := by
  induction lines generalizing place with
  | nil => rfl
  | cons line lines ih =>
    have hextent : place + line.length + 1 + extent lines = place + extent (line :: lines) := by
      rw [extent]
      omega
    rw [List.cons_append, marksFrom, marksFrom, ih, hextent, List.append_assoc]

/-- The lines of a log take up its bytes, and one more for the newline that the last one lacks. -/
theorem extent_linesOf (content : List UInt8) : extent (linesOf content) = content.length + 1 := by
  induction content with
  | nil => rfl
  | cons b content ih =>
    have hpush : linesOf (b :: content) = pushByte b (linesOf content) := rfl
    rw [hpush]
    cases hlines : linesOf content with
    | nil => exact absurd hlines (linesOf_ne_nil content)
    | cons line lines =>
      rw [hlines] at ih
      rw [extent, List.length_cons, pushByte] at *
      split
      · simp only [extent, List.length_nil]
        omega
      · simp only [extent, List.length_cons]
        omega

/-- The marks of a log that is cut at a newline. -/
theorem marksFrom_append_newline (place : Nat) (front rest : List UInt8) :
    marksFrom place (linesOf (front ++ newline :: rest)) =
      marksFrom place (linesOf front) ++
        marksFrom (place + (front.length + 1)) (linesOf rest) := by
  rw [linesOf_append_newline, marksFrom_append, extent_linesOf]

/-- No line begins within what stands behind the last newline, except with it. -/
theorem place_le_of_mem_marksFrom {front line : List UInt8} (hline : newline ∉ line)
    (h : mark ∈ marksFrom place (linesOf (front ++ line))) : mark.place ≤ place + front.length := by
  induction hlength : front.length using Nat.strongRecOn generalizing front place with
  | ind length ih =>
    subst hlength
    by_cases hmem : newline ∈ front
    · obtain ⟨first, more, rfl, hfirst⟩ := List.eq_append_cons_of_mem hmem
      rw [List.append_assoc, List.cons_append, marksFrom_append_newline,
        marksFrom_linesOf_of_notMem hfirst, List.mem_append] at h
      rcases h with hhead | hrest
      · obtain ⟨t, -, rfl⟩ := List.mem_map.mp hhead
        exact Nat.le_add_right _ _
      · have hshort : more.length < (first ++ newline :: more).length := by
          rw [List.length_append, List.length_cons]
          omega
        have hle := ih more.length hshort hrest rfl
        rw [List.length_append, List.length_cons]
        omega
    · have hnone : newline ∉ front ++ line := by
        rw [List.mem_append, not_or]
        exact ⟨hmem, hline⟩
      rw [marksFrom_linesOf_of_notMem hnone] at h
      obtain ⟨t, -, rfl⟩ := List.mem_map.mp h
      exact Nat.le_add_right _ _

/-- A stamped line begins before the end of the log. -/
theorem place_le_of_mem_marks {content : List UInt8} (h : mark ∈ marks content) :
    mark.place ≤ content.length := by
  rw [marks, ← List.append_nil content] at h
  have hle := place_le_of_mem_marksFrom List.not_mem_nil h
  omega

/-- The marks of a log, one line at a time as a scan reads it. -/
theorem marksFrom_linesOf (place : Nat) (bytes : List UInt8) :
    marksFrom place (linesOf bytes) =
      (lineStamp (takeLine bytes).1).toList.map (Mark.mk place) ++
        marksFrom (place + (takeLine bytes).1.length) (linesOf (takeLine bytes).2) := by
  by_cases hmem : newline ∈ bytes
  · obtain ⟨line, rest, rfl, hline⟩ := List.eq_append_cons_of_mem hmem
    rw [takeLine_eq line rest hline, marksFrom_append_newline, marksFrom_linesOf_of_notMem hline,
      lineStamp_append_newline, List.length_append, List.length_singleton]
  · rw [takeLine_of_notMem hmem, marksFrom_linesOf_of_notMem hmem]
    exact (List.append_nil _).symm

/-- A block that does not open before the window has no stamped line or begins with one that is not
stamped before it. -/
theorem not_lt_of_not_opensBefore {first : Instant} {room : Nat} {bytes : List UInt8}
    (h : opensBefore first room bytes = false)
    (hmark : (marksFrom place (linesOf bytes)).head? = some mark)
    (hroom : mark.place < place + room) : ¬ mark.stamp < first := by
  fun_induction opensBefore first room bytes generalizing place with
  | case1 room bytes hempty =>
    rcases hempty with rfl | rfl
    · cases hmark
    · have hplace := (mem_marksFrom (List.mem_of_mem_head? hmark)).1
      omega
  | case2 room bytes hempty t ht =>
    have hnot : ¬ t < first := of_decide_eq_false h
    have hstamp : lineStamp (takeLine bytes).1 = some t := ht
    rw [marksFrom_linesOf, hstamp] at hmark
    obtain rfl := Option.some.inj hmark
    exact hnot
  | case3 room bytes hempty hstamp ih =>
    have hnone : lineStamp (takeLine bytes).1 = none := hstamp
    rw [marksFrom_linesOf, hnone] at hmark
    have hplace := (mem_marksFrom (List.mem_of_mem_head? hmark)).1
    exact ih h hmark (by omega)

end

section

variable {content : List UInt8} {window : Window} {gap block : Nat}

/-- Where the window begins, if that is behind some marks: with the first of the others, unless that
is too early as well. -/
theorem windowPlace_le {before behind : List Mark} (spaced : Spaced gap content)
    (hmarks : marks content = before ++ behind) (hbefore : ∀ mark ∈ before, mark.place ≤ block)
    (hfirst : ∀ mark ∈ behind.head?, mark.place ≤ block + gap → ¬ mark.stamp < window.first) :
    windowPlace content window ≤ block + gap := by
  -- The last of the places up to the block is followed closely by the next one.
  have hnext : ∀ next ∈ (behind.map Mark.place ++ [content.length]).head?, next ≤ block + gap := by
    have hchain := spaced
    rw [Spaced, hmarks, List.map_append, ← List.cons_append, List.append_assoc,
      List.isChain_append] at hchain
    intro next hnext
    have hlast : ∀ last ∈ (0 :: before.map Mark.place), last ≤ block :=
      List.forall_mem_cons.mpr ⟨Nat.zero_le _, List.forall_mem_map.mpr hbefore⟩
    have hne : (0 :: before.map Mark.place) ≠ [] := List.cons_ne_nil _ _
    have hclose := hchain.2.2 _ (List.getLast_mem_getLast? hne) next hnext
    have := hlast _ (List.getLast_mem hne)
    omega
  rw [windowPlace, hmarks, List.find?_append]
  cases hfound : before.find? fun mark ↦ window.first ≤ mark.stamp with
  | some mark =>
    have := hbefore mark (List.mem_of_find?_eq_some hfound)
    dsimp only [Option.or]
    omega
  | none =>
    cases behind with
    | nil => exact hnext _ rfl
    | cons mark behind =>
      have hplace : mark.place ≤ block + gap := hnext _ rfl
      have hreached : window.first ≤ mark.stamp := hfirst mark rfl hplace
      simp only [Option.none_or, List.find?_cons, hreached, decide_true]
      exact hplace

/-- Behind any place the next lines begin at its line start. -/
theorem exists_marks_eq_append (content : List UInt8) {place : Nat} (hplace : place ≠ 0) :
    ∃ before, marks content = before ++ marksFrom (lineStart content place)
        (linesOf (content.drop (lineStart content place))) ∧
      ∀ mark ∈ before, mark.place ≤ place := by
  have hcut : content.take place ++ content.drop place = content := List.take_append_drop _ _
  rw [lineStart, if_neg hplace, ← List.drop_drop]
  by_cases hmem : newline ∈ content.drop place
  · obtain ⟨line, rest, hdrop, hline⟩ := List.eq_append_cons_of_mem hmem
    have hlong : place < content.length := by
      by_contra hshort
      rw [List.drop_eq_nil_of_le (by omega)] at hmem
      exact List.not_mem_nil hmem
    have hfront : (content.take place).length = place := List.length_take_of_le (by omega)
    rw [hdrop, ← List.append_assoc] at hcut
    refine ⟨marksFrom 0 (linesOf (content.take place ++ line)), ?_, fun mark hmark ↦ ?_⟩
    · have hstart : 0 + ((content.take place ++ line).length + 1) =
          place + (line ++ [newline]).length := by
        simp only [List.length_append, List.length_singleton, hfront]
        omega
      have hrest : (line ++ newline :: rest).drop (line ++ [newline]).length = rest := by
        rw [List.append_cons line newline rest]
        exact List.drop_left
      rw [hdrop, takeLine_eq line rest hline, hrest, ← hstart, ← marksFrom_append_newline, hcut]
      rfl
    · have hle := place_le_of_mem_marksFrom hline hmark
      omega
  · refine ⟨marks content, ?_, fun mark hmark ↦ ?_⟩
    · rw [takeLine_of_notMem hmem, List.drop_length]
      exact (List.append_nil _).symm
    · rw [marks, ← hcut] at hmark
      have hle := place_le_of_mem_marksFrom hmem hmark
      have hfront : (content.take place).length ≤ place := List.length_take_le _ _
      omega

/-- Where a block does not open before the window, the window begins close to the begin of the block
or earlier. -/
theorem windowPlace_le_of_not_opensBefore (spaced : Spaced gap content) (hgap : gap < blockSize)
    (hblock : block ≠ 0)
    (h : opensBefore window.first (block + blockSize - lineStart content block)
      (content.drop (lineStart content block)) = false) :
    windowPlace content window ≤ block + gap := by
  obtain ⟨before, hmarks, hbefore⟩ := exists_marks_eq_append content hblock
  apply windowPlace_le spaced hmarks hbefore
  intro mark hmark hplace
  exact not_lt_of_not_opensBefore h hmark (by omega)

private theorem le_lineStart (content : List UInt8) (place : Nat) :
    place ≤ lineStart content place := by
  unfold lineStart
  split <;> omega

/-- A scan that goes back from close behind the begin of the window stops at most a block before. -/
theorem windowPlace_le_startBefore (spaced : Spaced gap content) (hgap : gap < blockSize)
    {place : Nat} (hplace : windowPlace content window ≤ place + gap) :
    windowPlace content window ≤ startBefore content window place + blockSize + gap := by
  fun_induction startBefore content window place with
  | case1 => omega
  | case2 place hstop block start hopens =>
    have hstart : block ≤ start := le_lineStart content block
    omega
  | case3 place hstop block start hopens ih =>
    by_cases hblock : block = 0
    · omega
    · apply ih
      exact windowPlace_le_of_not_opensBefore spaced hgap hblock (Bool.eq_false_iff.mpr hopens)

private theorem windowPlace_le_length (content : List UInt8) (window : Window) :
    windowPlace content window ≤ content.length := by
  unfold windowPlace
  split
  · next mark hmark => exact place_le_of_mem_marks (List.mem_of_find?_eq_some hmark)
  · exact Nat.le_refl _

/-- A scan starts at the start of the log, or behind a newline where some line from there on is
stamped before the window. -/
theorem tailStart_cases (content : List UInt8) (window : Window) :
    tailStart content window = 0 ∨ ∃ front rest, content = front ++ newline :: rest ∧
      tailStart content window = front.length + 1 ∧ ∃ line ∈ linesOf rest,
        StampedBefore window line := by
  rcases startBefore_cases content window content.length with hzero | ⟨⟨front, hfront⟩, hlater⟩
  · exact .inl hzero
  · change content = front ++ newline :: content.drop (tailStart content window) at hfront
    change ∃ line ∈ linesOf (content.drop (tailStart content window)), _ at hlater
    refine .inr ⟨front, _, hfront, ?_, hlater⟩
    have hwithin : tailStart content window < content.length := by
      by_contra hbehind
      rw [List.drop_eq_nil_of_le (by omega), linesOf_of_notMem List.not_mem_nil] at hlater
      obtain ⟨line, hline, t, ht, -⟩ := hlater
      obtain rfl := List.mem_singleton.mp hline
      cases ht
    have hlength := congrArg List.length hfront
    rw [List.length_append, List.length_cons, List.length_drop] at hlength
    omega

/-- In a log that was written in the order of time the scan starts before the window. -/
theorem tailStart_le_windowPlace (order : Chronological content) :
    tailStart content window ≤ windowPlace content window := by
  rcases tailStart_cases content window with
    hzero | ⟨front, rest, rfl, hstart, line, hline, t, ht, hbefore⟩
  · omega
  · rw [hstart, windowPlace]
    split
    · next mark hmark =>
      have hreached : window.first ≤ mark.stamp := by
        simpa using List.find?_some hmark
      have hmem := List.mem_of_find?_eq_some hmark
      rw [marks, marksFrom_append_newline, List.mem_append] at hmem
      rcases hmem with hfront | hrest
      · obtain ⟨-, earlier, hearlier, hstamp⟩ := mem_marksFrom hfront
        rw [Chronological, linesOf_append_newline, List.pairwise_append] at order
        have hle := order.2.2 earlier hearlier line hline mark.stamp t hstamp ht
        exact absurd hbefore (Instant.le_trans hreached hle)
      · have hplace := (mem_marksFrom hrest).1
        omega
    · rw [List.length_append, List.length_cons]
      omega

end

/-- In a log that was written in the order of time and whose stamped lines are never further
apart than a gap below the size of a block, the scan starts at the start of the log or directly
behind a newline. It starts no later than the window begins, and no more than a block and a gap
before that. -/
theorem tailStart_spans (content : List UInt8) (window : Window) (gap : Nat)
    (order : Chronological content) (spaced : Spaced gap content) (short : gap < blockSize) :
    (tailStart content window = 0 ∨
      0 < tailStart content window ∧ content[tailStart content window - 1]? = some newline) ∧
    tailStart content window ≤ windowPlace content window ∧
    windowPlace content window ≤ tailStart content window + blockSize + gap := by
  refine ⟨?_, tailStart_le_windowPlace order, ?_⟩
  · rcases tailStart_cases content window with hzero | ⟨front, rest, rfl, hstart, -⟩
    · exact .inl hzero
    · rw [hstart]
      exact .inr ⟨Nat.succ_pos _, by simp⟩
  · have hlength := windowPlace_le_length content window
    exact windowPlace_le_startBefore spaced short (by omega)

/-- A line that reports nothing. -/
def idleLine : List UInt8 := Utf8.encode "2024-01-01 00:00:00.000 idle".toList

/-- A log of many such lines. -/
def idleLog : Nat → List UInt8
  | 0 => []
  | count + 1 => idleLine ++ newline :: idleLog count

private theorem newline_notMem_idleLine : newline ∉ idleLine := by decide +kernel

private theorem lineStamp_idleLine :
    lineStamp idleLine = some newYearWindow.first := by decide +kernel

private theorem length_idleLog (count : Nat) : (idleLog count).length = 29 * count := by
  induction count with
  | zero => rfl
  | succ count ih =>
    have hline : idleLine.length = 28 := by decide +kernel
    rw [idleLog, List.length_append, List.length_cons, hline, ih]
    omega

/-- All stamps of an idle log are the same. -/
theorem lineStamp_of_mem_idleLog {count : Nat} {line : List UInt8} {t : Instant}
    (hline : line ∈ linesOf (idleLog count)) (ht : lineStamp line = some t) :
    t = newYearWindow.first := by
  induction count with
  | zero =>
    obtain rfl := List.mem_singleton.mp hline
    cases ht
  | succ count ih =>
    rw [idleLog, linesOf_append_newline, linesOf_of_notMem newline_notMem_idleLine] at hline
    rcases List.mem_cons.mp hline with rfl | hrest
    · exact Option.some.inj (ht.symm.trans lineStamp_idleLine)
    · exact ih hrest

private theorem chronological_idleLog (count : Nat) : Chronological (idleLog count) := by
  apply List.pairwise_of_forall_mem_list
  intro earlier hearlier later hlater s t hs ht
  rw [lineStamp_of_mem_idleLog hearlier hs, lineStamp_of_mem_idleLog hlater ht]
  exact Instant.le_refl _

private theorem spaced_idleLog (count : Nat) : Spaced 29 (idleLog count) := by
  -- The marks behind any line follow one another from there on.
  have hchain (place last : Nat) (hlast : last ≤ place) (hplace : place ≤ last + 29) :
      (last :: (marksFrom place (linesOf (idleLog count))).map Mark.place ++
        [place + (idleLog count).length]).IsChain fun a b ↦ b ≤ a + 29 := by
    induction count generalizing place last with
    | zero => exact List.isChain_pair.mpr hplace
    | succ count ih =>
      have hmarks : marksFrom place (linesOf (idleLog (count + 1))) =
          ⟨place, newYearWindow.first⟩ :: marksFrom (place + 29) (linesOf (idleLog count)) := by
        rw [idleLog, marksFrom_append_newline,
          marksFrom_linesOf_of_notMem newline_notMem_idleLine, lineStamp_idleLine]
        rfl
      have hend : place + (idleLog (count + 1)).length = place + 29 + (idleLog count).length := by
        rw [length_idleLog, length_idleLog]
        omega
      rw [hmarks, hend]
      exact List.isChain_cons_cons.mpr ⟨hplace, ih (place + 29) place (by omega) (Nat.le_refl _)⟩
  have hstart := hchain 0 0 (Nat.le_refl _) (by decide)
  rwa [Nat.zero_add] at hstart

/-- The second hour of 2024. -/
def secondHour : Window := ⟨⟨1704070800, 0, by decide⟩, ⟨1704074400, 0, by decide⟩⟩

/-- The window begins where an idle log ends. -/
theorem windowPlace_idleLog (count : Nat) :
    windowPlace (idleLog count) secondHour = 29 * count := by
  have hnone : (marks (idleLog count)).find? (fun mark ↦ secondHour.first ≤ mark.stamp) = none := by
    rw [List.find?_eq_none]
    intro mark hmark
    obtain ⟨-, line, hline, hstamp⟩ := mem_marksFrom hmark
    rw [lineStamp_of_mem_idleLog hline hstamp]
    decide
  rw [windowPlace, hnone]
  exact length_idleLog count

/-- Of more than a hundred thousand bytes before the window a scan reads less than
seventy thousand. -/
theorem tailStart_spans_idleLog :
    Chronological (idleLog 4000) ∧ Spaced 29 (idleLog 4000) ∧ 29 < blockSize ∧
      windowPlace (idleLog 4000) secondHour = 116000 ∧
      0 < tailStart (idleLog 4000) secondHour ∧
      (idleLog 4000)[tailStart (idleLog 4000) secondHour - 1]? = some newline ∧
      116000 ≤ tailStart (idleLog 4000) secondHour + 65565 := by
  have hshort : 29 < blockSize := by decide
  have hblock : blockSize = 65536 := rfl
  obtain ⟨hstart, -, hfar⟩ := tailStart_spans (idleLog 4000) secondHour 29
    (chronological_idleLog 4000) (spaced_idleLog 4000) hshort
  rw [windowPlace_idleLog] at hfar
  refine ⟨chronological_idleLog 4000, spaced_idleLog 4000, hshort, windowPlace_idleLog 4000, ?_⟩
  -- From here on the numbers are all that matters, and nothing should compute them.
  generalize tailStart (idleLog 4000) secondHour = start at hstart hfar ⊢
  generalize blockSize = size at hfar hblock
  rcases hstart with hzero | ⟨hpos, hnewline⟩
  · omega
  · exact ⟨hpos, hnewline, by omega⟩

end BotOps.Log
