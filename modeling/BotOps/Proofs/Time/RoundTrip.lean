import BotOps.Proofs.Log.Line
import BotOps.Proofs.Time.Spelling

/-!
# Written instants are read back

What is written of an instant, for the store or for the log, is read as the begin of the second that
it shows, and this second may be a leap second: `read_written`. Only years of four digits can be
read back. Any other year is written with a sign, which a reader for the platform does not know, and
which moves the point behind a stamp out of its place.
-/

namespace BotOps.Time

open BotOps.Log BotOps.Text

/-! ## Readings -/

/-- A clock goes through the seconds of a day; a leap second counts as the second before it. -/
theorem Instant.toSeconds_reading (t : Instant) : t.reading.toSeconds = t.seconds := by
  have hleap := t.isValid.2.2.2
  have hday : t.reading.date.dayNumber = t.seconds / secondsPerDay := Date.dayNumber_ofDayNumber _
  have hsecond : min t.reading.second 59 = (t.seconds % secondsPerDay).toNat % 60 := by
    simp only [reading, isLeap, decide_eq_true_eq]
    unfold secondsPerDay
    split <;> omega
  unfold Reading.toSeconds
  rw [hday, hsecond]
  dsimp only [reading]
  unfold secondsPerDay
  omega

private theorem Instant.leapNanos_reading (t : Instant) :
    t.reading.leapNanos = if t.isLeap then nanosPerSecond else 0 := by
  have hleap := t.isValid.2.2.2
  unfold Reading.leapNanos
  simp only [reading, isLeap, decide_eq_true_eq]
  unfold secondsPerDay
  by_cases h : nanosPerSecond ≤ t.nanos
  · rw [if_pos h, if_pos h, if_pos (by omega)]
  · rw [if_neg h, if_neg h, if_neg (by omega)]

/-- What a clock shows names the second of the instant. -/
theorem Instant.ofReading?_reading (t : Instant) :
    Instant.ofReading? t.reading 0 0 = some t.truncated := by
  rw [ofReading?, if_pos t.isValid_reading, toSeconds_reading, leapNanos_reading, Int.sub_zero,
    Nat.add_zero]
  exact dif_pos t.truncated.isValid

/-! ## The characters of a reading -/

variable {reading : Reading} {mark c : Char}

private theorem isDigit_or_sign_of_mem_yearDigits {year : Int} (h : c ∈ yearDigits year) :
    c.isDigit = true ∨ c = '-' ∨ c = '+' := by
  unfold yearDigits at h
  dsimp only at h
  split at h
  · exact .inl (Decimal.isDigit_of_mem_fixed h)
  · rcases List.mem_cons.mp h with rfl | hdigit
    · right
      split <;> simp
    · left
      split at hdigit
      · exact Decimal.isDigit_of_mem_fixed hdigit
      · exact Decimal.isDigit_of_mem_plain hdigit

private theorem Reading.mem_digits (h : c ∈ reading.digits mark) :
    c.isDigit = true ∨ c ∈ ['-', '+', ':', mark] := by
  simp only [digits, Date.digits, timeDigits, List.append_assoc, List.cons_append,
    List.mem_append, List.mem_cons] at h
  rcases h with hyear | rfl | hmonth | rfl | hday | rfl | hhour | rfl | hminute | rfl | hsecond
  · rcases isDigit_or_sign_of_mem_yearDigits hyear with hdigit | rfl | rfl
    · exact .inl hdigit
    · simp
    · simp
  · simp
  · exact .inl (Decimal.isDigit_of_mem_fixed hmonth)
  · simp
  · exact .inl (Decimal.isDigit_of_mem_fixed hday)
  · simp
  · exact .inl (Decimal.isDigit_of_mem_fixed hhour)
  · simp
  · exact .inl (Decimal.isDigit_of_mem_fixed hminute)
  · simp
  · exact .inl (Decimal.isDigit_of_mem_fixed hsecond)

private theorem length_yearDigits_of_plain {date : Date} (h : date.HasPlainYear) :
    (yearDigits date.year).length = 4 := by
  rw [h.yearDigits_eq, Decimal.length_fixed]

/-- A year that has not four digits is written with a sign. -/
theorem exists_yearDigits_of_not_plain {date : Date} (h : ¬ date.HasPlainYear) :
    ∃ sign digits, yearDigits date.year = sign :: digits ∧ sign.isDigit = false := by
  unfold Date.HasPlainYear at h
  unfold yearDigits
  rw [if_neg h]
  refine ⟨_, _, rfl, ?_⟩
  split <;> rfl

/-- A year that has not four digits takes more room, at least for its sign. -/
theorem length_yearDigits_of_not_plain {date : Date} (h : ¬ date.HasPlainYear) :
    4 < (yearDigits date.year).length := by
  unfold Date.HasPlainYear at h
  unfold yearDigits
  rw [if_neg h, List.length_cons]
  split
  · rw [Decimal.length_fixed]
    omega
  · next hlong =>
    have hdigits : ¬ (Decimal.plain date.year.natAbs).length ≤ 4 := by
      unfold Decimal.plain
      rw [Nat.length_toDigits_le_iff (by decide) (by decide)]
      omega
    omega

private theorem Reading.length_digits (reading : Reading) (mark : Char) :
    (reading.digits mark).length = (yearDigits reading.date.year).length + 15 := by
  simp only [digits, Date.digits, timeDigits, List.length_append, List.length_cons,
    Decimal.length_fixed]

/-! ## Readers -/

/-- Nothing is trimmed off a stored instant. -/
theorem Instant.trim_stored (t : Instant) :
    trim t.stored.toList = t.reading.digits 'T' ++ ['Z'] := by
  rw [stored, String.toList_ofList]
  apply trim_eq_self
  intro c hc
  rcases List.mem_append.mp hc with hc | hc
  · rcases Reading.mem_digits hc with hdigit | hother
    · exact isBlank_of_isDigit hdigit
    · simp only [List.mem_cons, List.not_mem_nil, or_false] at hother
      rcases hother with rfl | rfl | rfl | rfl <;> decide
  · obtain rfl := List.mem_singleton.mp hc
    decide

private theorem Instant.parse?_stored_of_plain {t : Instant} (h : t.reading.date.HasPlainYear) :
    parse? t.stored = some t.truncated := by
  have hread : Zoned.parse (t.reading.digits 'T' ++ ['Z']) = ofReading? t.reading 0 0 :=
    Zoned.parse_digits_append t.isValid_reading h .upper ['Z']
  rw [parse?, trim_stored, hread, ofReading?_reading]

/-- A year with a sign is not read. -/
theorem Instant.parse?_stored_of_not_plain {t : Instant} (h : ¬ t.reading.date.HasPlainYear) :
    parse? t.stored = none := by
  have hyear (rest : List Char) :
      Decimal.exactly 4 (yearDigits t.reading.date.year ++ rest) = none := by
    obtain ⟨sign, digits, hyear, hsign⟩ := exists_yearDigits_of_not_plain h
    rw [hyear, List.cons_append]
    exact Decimal.exactly_cons_of_not_isDigit (by decide) hsign _
  rw [parse?, trim_stored, Zoned.parse]
  simp only [Reading.digits, Date.digits, List.append_assoc, hyear]
  rfl

end BotOps.Time

namespace BotOps.Log.Stamp

open BotOps.Text BotOps.Time

private theorem year_fixed_append {n : Nat} (h : n < 10 ^ 4) (rest : List Char) :
    year (Decimal.fixed 4 n ++ rest) = some ((n : Int), rest) := by
  have hread := Decimal.upTo_fixed_append (by decide) h rest
  have hlength := Decimal.length_fixed 4 n
  cases hfixed : Decimal.fixed 4 n with
  | nil =>
    rw [hfixed] at hlength
    cases hlength
  | cons c digits =>
    have hdigit : c.isDigit = true := Decimal.isDigit_of_mem_fixed (hfixed ▸ List.mem_cons_self)
    rw [hfixed] at hread
    rw [List.cons_append] at hread ⊢
    unfold year
    split
    · next heq =>
      obtain ⟨rfl, -⟩ := List.cons.inj heq
      cases hdigit
    · next heq =>
      obtain ⟨rfl, -⟩ := List.cons.inj heq
      cases hdigit
    · rw [hread]
      rfl

private theorem field_fixed_append {n : Nat} (h : n < 10 ^ 2) (rest : List Char) :
    field (Decimal.fixed 2 n ++ rest) = some (n, rest) := by
  rw [field, trimStart_eq_self (isBlank_of_mem_head?_fixed (by decide) rest),
    Decimal.upTo_fixed_append (by decide) h]

/-- The last field is read off the end of the text. -/
theorem field_fixed {n : Nat} (h : n < 10 ^ 2) : field (Decimal.fixed 2 n) = some (n, []) := by
  have hread := field_fixed_append h []
  rwa [List.append_nil] at hread

private theorem field_blank (text : List Char) : field (' ' :: text) = field text := by
  have htrim : trimStart (' ' :: text) = trimStart text := List.dropWhile_cons_of_pos (by decide)
  rw [field, htrim]
  rfl

/-- A reading is read back from its digits. -/
theorem parse_digits {reading : Reading} (h : reading.IsValid)
    (hyear : reading.date.HasPlainYear) :
    parse (reading.digits ' ') = Instant.ofReading? reading 0 0 := by
  have hday := h.1.day_le
  obtain ⟨⟨-, hmonth, -⟩, hhour, hminute, hsecond⟩ := h
  have hnumber : (reading.date.year.toNat : Int) = reading.date.year := Int.toNat_of_nonneg hyear.1
  unfold parse Reading.digits Date.digits Reading.timeDigits
  rw [hyear.yearDigits_eq]
  simp only [List.append_assoc, List.cons_append]
  rw [trimStart_eq_self (isBlank_of_mem_head?_fixed (by decide) _),
    year_fixed_append (by have := hyear.2; omega)]
  simp only [Option.bind_eq_bind, Option.bind_some, expect_cons]
  rw [field_fixed_append (by omega)]
  simp only [Option.bind_some, expect_cons]
  rw [field_fixed_append (by omega)]
  simp only [Option.bind_some, field_blank]
  rw [field_fixed_append (by omega)]
  simp only [Option.bind_some, expect_cons]
  rw [field_fixed_append (by omega)]
  simp only [Option.bind_some, expect_cons]
  rw [field_fixed (by omega)]
  simp only [Option.bind_some, hnumber, if_true]

end BotOps.Log.Stamp

namespace BotOps.Time

open BotOps.Log BotOps.Text

section

variable {t : Instant}

/-- What the log shows of an instant is all ASCII, and no point is among it. -/
theorem Instant.mem_shown {c : Char} (h : c ∈ t.shown.toList) : c.utf8Size = 1 ∧ c ≠ '.' := by
  rw [shown, String.toList_ofList] at h
  rcases Reading.mem_digits h with hdigit | hother
  · constructor
    · rw [Char.utf8Size_eq_one_iff]
      exact Nat.le_trans (Decimal.toNat_of_isDigit hdigit).2 (by decide)
    · rintro rfl
      cases hdigit
  · simp only [List.mem_cons, List.not_mem_nil, or_false] at hother
    rcases hother with rfl | rfl | rfl | rfl <;> decide

private theorem Instant.stamp?_shown_of_plain (h : t.reading.date.HasPlainYear) (rest : List Char) :
    stamp? (t.shown.toList ++ '.' :: rest) = some t.truncated := by
  have hlength : t.shown.toList.length = Stamp.width := by
    rw [shown, String.toList_ofList, Reading.length_digits, length_yearDigits_of_plain h]
    rfl
  have hascii : ∀ c ∈ t.shown.toList, c.utf8Size = 1 := fun c hc ↦ (mem_shown hc).1
  have hsplit := splitAtByte_append_of_ascii hascii ('.' :: rest)
  rw [hlength] at hsplit
  rw [stamp?, hsplit]
  change Stamp.parse t.shown.toList = _
  rw [shown, String.toList_ofList, Stamp.parse_digits t.isValid_reading h, ofReading?_reading]

/-- A longer year moves the point out of the place where it is looked for. -/
theorem Instant.stamp?_shown_of_not_plain (h : ¬ t.reading.date.HasPlainYear) (rest : List Char) :
    stamp? (t.shown.toList ++ '.' :: rest) = none := by
  have hlong : Stamp.width < t.shown.toList.length := by
    have hyear := length_yearDigits_of_not_plain h
    rw [shown, String.toList_ofList, Reading.length_digits]
    unfold Stamp.width
    omega
  have hascii : ∀ c ∈ t.shown.toList.take Stamp.width, c.utf8Size = 1 := by
    intro c hc
    exact (mem_shown (List.mem_of_mem_take hc)).1
  have hsplit := splitAtByte_append_of_ascii hascii (t.shown.toList.drop Stamp.width ++ '.' :: rest)
  rw [List.length_take_of_le (Nat.le_of_lt hlong), ← List.append_assoc,
    List.take_append_drop] at hsplit
  have hnext : t.shown.toList[Stamp.width] ≠ '.' := (mem_shown (List.getElem_mem hlong)).2
  rw [List.drop_eq_getElem_cons hlong, List.cons_append] at hsplit
  unfold stamp?
  rw [hsplit]
  split
  · next heq =>
    obtain ⟨-, hpoint⟩ := Prod.mk.inj (Option.some.inj heq)
    exact absurd (List.cons.inj hpoint).1 hnext
  · rfl

end

/-- What is written of an instant, for the store or in front of a line of the log, is read back as
the begin of its second if the year has four digits, and not at all otherwise. -/
theorem read_written (t : Instant) :
    Instant.parse? t.stored =
        (if t.reading.date.HasPlainYear then some t.truncated else none) ∧
      ∀ rest : List Char, stamp? ((shownOrMissing (some t)).toList ++ '.' :: rest) =
        if t.reading.date.HasPlainYear then some t.truncated else none := by
  by_cases h : t.reading.date.HasPlainYear
  · rw [if_pos h]
    exact ⟨Instant.parse?_stored_of_plain h, Instant.stamp?_shown_of_plain h⟩
  · rw [if_neg h]
    exact ⟨Instant.parse?_stored_of_not_plain h, Instant.stamp?_shown_of_not_plain h⟩

end BotOps.Time
