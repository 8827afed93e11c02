import BotOps.Proofs.Log.Span
import Mathlib.Algebra.Order.BigOperators.Group.List
import Mathlib.Order.Monotone.Basic

/-!
# Wider windows

A window that begins earlier makes the scan of a log start no later, as each block that opens before
it opens before the shorter one as well: `startBefore_le`. What the scan starts from is always the
begin of a line, so more of the log is counted and nothing is lost, in whatever order the lines are:
`countTail_endingAt_mono`.
-/

namespace BotOps.Time.Instant

/-- An instant before one that is not after another is before the other. -/
protected theorem lt_of_lt_of_le {a b c : Instant} (hab : a < b) (hbc : b ≤ c) : a < c := by
  change a.seconds < b.seconds ∨ a.seconds = b.seconds ∧ a.nanos < b.nanos at hab
  change a.seconds < c.seconds ∨ a.seconds = c.seconds ∧ a.nanos < c.nanos
  rw [Instant.le_iff] at hbc
  omega

/-- Fewer seconds before a time the calendar holds too, and they lead to no earlier instant. From
within a leap second this is so although a step is counted from the second behind it. -/
theorem exists_ago_of_le {now far : Instant} {fewer more : Nat} (h : fewer ≤ more)
    (hfar : now.ago more = some far) : ∃ near, now.ago fewer = some near ∧ far ≤ near := by
  have hreach : (now.ago fewer).isSome = true := by
    have hmore : (now.ago more).isSome = true := by rw [hfar]; rfl
    rw [isSome_ago] at hmore ⊢
    omega
  obtain ⟨near, hnear⟩ := Option.isSome_iff_exists.mp hreach
  refine ⟨near, hnear, ?_⟩
  by_cases hmore : more = 0
  · obtain rfl : fewer = more := by omega
    obtain rfl := Option.some.inj (hnear.symm.trans hfar)
    exact Instant.le_refl _
  · rw [ago, if_neg hmore] at hfar
    rw [Instant.le_iff]
    by_cases hfewer : fewer = 0
    · rw [ago, if_pos hfewer] at hnear
      obtain rfl := Option.some.inj hnear
      split at hfar
      · obtain ⟨hseconds, hnanos⟩ := of?_eq_some hfar
        omega
      · obtain ⟨hseconds, hnanos⟩ := of?_eq_some hfar
        omega
    · rw [ago, if_neg hfewer] at hnear
      split at hfar
      · next hleap =>
        rw [if_pos hleap] at hnear
        obtain ⟨hseconds, hnanos⟩ := of?_eq_some hfar
        obtain ⟨hseconds', hnanos'⟩ := of?_eq_some hnear
        omega
      · next hplain =>
        rw [if_neg hplain] at hnear
        obtain ⟨hseconds, hnanos⟩ := of?_eq_some hfar
        obtain ⟨hseconds', hnanos'⟩ := of?_eq_some hnear
        omega

end BotOps.Time.Instant

namespace BotOps.Log

open BotOps.Text BotOps.Time

namespace Counts

/-- Counts are compared field by field. -/
instance : LE Counts := ⟨fun a b ↦ a.kicks ≤ b.kicks ∧ a.commands ≤ b.commands⟩

instance (a b : Counts) : Decidable (a ≤ b) :=
  inferInstanceAs (Decidable (a.kicks ≤ b.kicks ∧ a.commands ≤ b.commands))

instance : PartialOrder Counts where
  le_refl a := ⟨Nat.le_refl _, Nat.le_refl _⟩
  le_trans a b c hab hbc := ⟨Nat.le_trans hab.1 hbc.1, Nat.le_trans hab.2 hbc.2⟩
  le_antisymm a b hab hba := by
    ext
    · exact Nat.le_antisymm hab.1 hba.1
    · exact Nat.le_antisymm hab.2 hba.2

instance : IsOrderedAddMonoid Counts where
  add_le_add_left _ _ h c := ⟨Nat.add_le_add_right h.1 c.kicks, Nat.add_le_add_right h.2 c.commands⟩

/-- Counts only grow. -/
theorem le_add_left (a b : Counts) : b ≤ a + b := ⟨Nat.le_add_left _ _, Nat.le_add_left _ _⟩

end Counts

namespace Window

/-- A window lies within another one if that begins no later and ends no earlier. -/
def Within (narrow wide : Window) : Prop := wide.first ≤ narrow.first ∧ narrow.last ≤ wide.last

private theorem Within.contains {narrow wide : Window} (h : narrow.Within wide) {t : Instant}
    (ht : narrow.contains t = true) : wide.contains t = true := by
  simp only [Window.contains, Bool.and_eq_true, decide_eq_true_eq] at ht ⊢
  exact ⟨Instant.le_trans h.1 ht.1, Instant.le_trans ht.2 h.2⟩

/-- Of two windows that end at the same time the one of fewer minutes lies within the other. -/
theorem exists_endingAt_within {last : Instant} {fewer more : UInt32} (h : fewer ≤ more)
    {wide : Window} (hwide : endingAt last more = some wide) :
    ∃ narrow, endingAt last fewer = some narrow ∧ narrow.Within wide := by
  obtain ⟨far, hfar, rfl⟩ := Option.map_eq_some_iff.mp hwide
  have hseconds : fewer.toNat * 60 ≤ more.toNat * 60 :=
    Nat.mul_le_mul_right 60 (UInt32.le_iff_toNat_le.mp h)
  obtain ⟨near, hnear, hle⟩ := Instant.exists_ago_of_le hseconds hfar
  exact ⟨⟨near, last⟩, by rw [endingAt, hnear]; rfl, hle, Instant.le_refl _⟩

end Window

section

variable {content : List UInt8} {narrow wide : Window}

/-- What a line adds within a window it adds within a wider one. -/
theorem countLine_mono (h : narrow.Within wide) (line : List UInt8) :
    countLine narrow line ≤ countLine wide line := by
  by_cases hinside : ∃ t, lineStamp line = some t ∧ narrow.contains t = true
  · obtain ⟨t, ht, hcontains⟩ := hinside
    have hstamp : stamp? (Utf8.decodeLossy line) = some t := ht
    simp only [countLine, hstamp, hcontains, h.contains hcontains, if_true]
    exact le_refl _
  · have hzero : countLine narrow line = 0 := by
      apply countLine_eq_zero
      intro t ht
      rw [← Bool.not_eq_true]
      exact fun hcontains ↦ hinside ⟨t, ht, hcontains⟩
    rw [hzero]
    exact ⟨Nat.zero_le _, Nat.zero_le _⟩

/-- What a log counts within a window it counts within a wider one. -/
theorem count_mono (h : narrow.Within wide) (content : List UInt8) :
    count content narrow ≤ count content wide := by
  rw [count_eq_sum, count_eq_sum]
  exact List.sum_le_sum fun line _ ↦ countLine_mono h line

/-- A block that opens before a time opens before a later one. -/
theorem opensBefore_mono {first later : Instant} (h : first ≤ later) {room : Nat}
    {bytes : List UInt8} (hopens : opensBefore first room bytes = true) :
    opensBefore later room bytes = true := by
  fun_induction opensBefore first room bytes with
  | case1 room bytes hempty => cases hopens
  | case2 room bytes hempty t ht =>
    have hbefore : t < first := of_decide_eq_true hopens
    rw [opensBefore, if_neg hempty, ht]
    exact decide_eq_true (Instant.lt_of_lt_of_le hbefore h)
  | case3 room bytes hempty hstamp ih =>
    rw [opensBefore, if_neg hempty, hstamp]
    exact ih hopens

/-- A first line that begins with a newline is this newline; any other byte belongs to the line that
it is put before. -/
theorem takeLine_cons (b : UInt8) (bytes : List UInt8) :
    (takeLine (b :: bytes)).1 = if b = newline then [b] else b :: (takeLine bytes).1 := by
  by_cases hb : b = newline
  · rw [if_pos hb, hb]
    exact congrArg Prod.fst (takeLine_eq [] bytes List.not_mem_nil)
  · rw [if_neg hb]
    by_cases hmem : newline ∈ bytes
    · obtain ⟨line, rest, rfl, hline⟩ := List.eq_append_cons_of_mem hmem
      have hfirst : newline ∉ b :: line := List.not_mem_cons_of_ne_of_not_mem (Ne.symm hb) hline
      rw [takeLine_eq line rest hline, ← List.cons_append, takeLine_eq (b :: line) rest hfirst]
      rfl
    · rw [takeLine_of_notMem hmem,
        takeLine_of_notMem (List.not_mem_cons_of_ne_of_not_mem (Ne.symm hb) hmem)]

/-- From a later place the next line begins no earlier. -/
theorem lineStart_mono (content : List UInt8) : Monotone (lineStart content) := by
  refine monotone_nat_of_le_succ fun place ↦ ?_
  by_cases hzero : place = 0
  · rw [lineStart, if_pos hzero]
    exact Nat.zero_le _
  · rw [lineStart, lineStart, if_neg hzero, if_neg (Nat.succ_ne_zero _)]
    cases hbytes : content.drop place with
    | nil =>
      have hlength : (takeLine ([] : List UInt8)).1.length = 0 := rfl
      omega
    | cons b bytes =>
      have hrest : content.drop (place + 1) = bytes := by
        rw [← List.drop_drop, hbytes]
        rfl
      rw [hrest, takeLine_cons]
      split
      · rw [List.length_singleton]
        omega
      · rw [List.length_cons]
        omega

/-- A scan that goes back from a place starts no later than the next line behind it. -/
theorem startBefore_le_lineStart (content : List UInt8) (window : Window) (place : Nat) :
    startBefore content window place ≤ lineStart content place := by
  fun_induction startBefore content window place with
  | case1 => exact Nat.zero_le _
  | case2 place hplace block start hopens => exact lineStart_mono content (Nat.sub_le _ _)
  | case3 place hplace block start hopens ih =>
    exact Nat.le_trans ih (lineStart_mono content (Nat.sub_le _ _))

/-- For a window that begins earlier the scan starts no later. It stops at the same block or goes
on to blocks before it. -/
theorem startBefore_le (h : wide.first ≤ narrow.first) (content : List UInt8) (place : Nat) :
    startBefore content wide place ≤ startBefore content narrow place := by
  fun_induction startBefore content narrow place with
  | case1 => rw [startBefore, if_pos rfl]
  | case2 place hplace block start hopens =>
    rw [startBefore, if_neg hplace]
    dsimp only
    split
    · exact Nat.le_refl _
    · exact startBefore_le_lineStart content wide block
  | case3 place hplace block start hopens ih =>
    have hwide : ¬ opensBefore wide.first (block + blockSize - start) (content.drop start) = true :=
      fun hwide ↦ hopens (opensBefore_mono h hwide)
    rw [startBefore, if_neg hplace]
    dsimp only
    rw [if_neg hwide]
    exact ih

/-- What is counted from the start of a scan on is counted from any earlier place on, even if that
lies within a line. -/
theorem count_drop_tailStart_le {start : Nat} (h : start ≤ tailStart content narrow)
    (window : Window) :
    count (content.drop (tailStart content narrow)) window ≤ count (content.drop start) window := by
  rcases tailStart_cases content narrow with hzero | ⟨front, rest, rfl, hstart, -⟩
  · obtain rfl : start = tailStart content narrow := by omega
    exact le_refl _
  · rw [hstart] at h ⊢
    have hrest : (front ++ newline :: rest).drop (front.length + 1) = rest := by
      rw [List.append_cons front newline rest]
      exact List.drop_left' (by simp)
    rcases Nat.lt_or_ge front.length start with hlate | hearly
    · obtain rfl : start = front.length + 1 := by omega
      exact le_refl _
    · rw [hrest, List.drop_append_of_le_length hearly, count_append_newline]
      exact Counts.le_add_left _ _

/-- A log of no more than a block is scanned whole. -/
theorem tailStart_of_length_le {content : List UInt8} (h : content.length ≤ blockSize)
    (window : Window) : tailStart content window = 0 := by
  have hblock : content.length - blockSize = 0 := Nat.sub_eq_zero_of_le h
  rw [tailStart, startBefore]
  split
  · rfl
  · dsimp only
    rw [hblock, lineStart, if_pos rfl, startBefore, if_pos rfl, ite_self]

/-- A scan counts nothing that is not in the log. -/
theorem countTail_le_count (content : List UInt8) (window : Window) :
    countTail content window ≤ count content window :=
  count_drop_tailStart_le (Nat.zero_le _) window

/-- A scan for a wider window counts no less. -/
theorem countTail_mono (h : narrow.Within wide) (content : List UInt8) :
    countTail content narrow ≤ countTail content wide :=
  calc countTail content narrow
      ≤ count (content.drop (tailStart content narrow)) wide := count_mono h _
    _ ≤ countTail content wide := count_drop_tailStart_le (startBefore_le h.1 content _) wide

end

/-- In whatever order its lines are, a scan of a log over more minutes that end at the same time
counts no fewer kicks and no fewer commands, and neither scan counts more than the whole log has in
the longer window. The calendar holds the shorter window if it holds the longer one. -/
theorem countTail_endingAt_mono (content : List UInt8) (last : Instant) {fewer more : UInt32}
    (h : fewer ≤ more) {wide : Window} (reach : Window.endingAt last more = some wide) :
    ∃ narrow, Window.endingAt last fewer = some narrow ∧
      countTail content narrow ≤ countTail content wide ∧
      countTail content narrow ≤ count content wide ∧
      countTail content wide ≤ count content wide := by
  obtain ⟨narrow, hnarrow, hwithin⟩ := Window.exists_endingAt_within h reach
  have hscan := countTail_mono hwithin content
  have hwhole := countTail_le_count content wide
  exact ⟨narrow, hnarrow, hscan, hscan.trans hwhole, hwhole⟩

/-- The leap second at the end of 2016. -/
def leapEnd : Instant := ⟨1483228799, 1000000000, by decide⟩

/-- The last minute, which is counted from the second behind the leap second. -/
def leapMinute : Window := ⟨⟨1483228740, 0, by decide⟩, leapEnd⟩

/-- A log whose lines are out of order, one of them stamped in the leap second. -/
def disorderedLog : List UInt8 :=
  Utf8.encode
    ("2016-12-31 23:59:60.000 CMD (USER=1, GUILD=2): help\n" ++
      "2016-12-30 08:00:00.000 idle\n" ++
      "2016-12-31 23:59:05.000 Guild 2 deleted (bot kicked?), removing active game states").toList

/-- No minute before the leap second counts its line only; one minute counts the other line too. -/
theorem countTail_endingAt_mono_leapSecond :
    (0 : UInt32) ≤ 1 ∧ Window.endingAt leapEnd 1 = some leapMinute ∧
      ∃ narrow, Window.endingAt leapEnd 0 = some narrow ∧
        countTail disorderedLog narrow = ⟨0, 1⟩ ∧ countTail disorderedLog leapMinute = ⟨1, 1⟩ ∧
        countTail disorderedLog narrow ≤ countTail disorderedLog leapMinute ∧
        countTail disorderedLog narrow ≤ count disorderedLog leapMinute ∧
        countTail disorderedLog leapMinute ≤ count disorderedLog leapMinute := by
  have hle : (0 : UInt32) ≤ 1 := by decide
  have hreach : Window.endingAt leapEnd 1 = some leapMinute := by decide +kernel
  have hshort : disorderedLog.length ≤ blockSize := by decide +kernel
  have hwhole (window : Window) :
      countTail disorderedLog window = count disorderedLog window := by
    rw [countTail, tailStart_of_length_le hshort, List.drop_zero]
  obtain ⟨narrow, hnarrow, hscan⟩ := countTail_endingAt_mono disorderedLog leapEnd hle hreach
  obtain rfl : ⟨leapEnd, leapEnd⟩ = narrow := Option.some.inj hnarrow
  refine ⟨hle, hreach, _, hnarrow, ?_, ?_, hscan⟩
  · rw [hwhole]
    decide +kernel
  · rw [hwhole]
    decide +kernel

end BotOps.Log
