import BotOps.Proofs.Text.Decimal
import BotOps.Time.Stamp

/-!
# The order of timestamps

Timestamps as they are stored are ordered as characters just as the seconds that they show are in
time, as long as the years have four digits: `stored_lt_stored`. A year before 0 is written with a
sign, which comes before all digits, so it may stand on the right as well.
-/

namespace BotOps.Time

open BotOps.Text

namespace Date

/-- Dates follow each other by their years, then by their months and then by their days. -/
def Precedes (a b : Date) : Prop :=
  a.year < b.year ∨ a.year = b.year ∧
    (a.month < b.month ∨ a.month = b.month ∧ a.day < b.day)

private theorem Precedes.trichotomy (a b : Date) : a.Precedes b ∨ a = b ∨ b.Precedes a := by
  obtain ⟨year, month, day⟩ := a
  obtain ⟨year', month', day'⟩ := b
  simp only [Precedes, Date.mk.injEq]
  omega

/-- The months before a later one include the days of the earlier one. -/
theorem daysBeforeMonth_add_lt {leap : Bool} {earlier later day : Nat} (hmonth : 1 ≤ earlier)
    (hlater : earlier < later) (hday : day < (monthLengths leap).getD (earlier - 1) 0) :
    daysBeforeMonth leap earlier + day < daysBeforeMonth leap later := by
  have hmonths : earlier - 1 < later - 1 := by omega
  have htake := daysOf_take_add_lt ((monthLengths leap).take (later - 1)) (earlier - 1) day
    (by rwa [List.getD_eq_getElem?_getD, List.getElem?_take_of_lt hmonths,
      ← List.getD_eq_getElem?_getD])
  rwa [List.take_take, Nat.min_eq_left (Nat.le_of_lt hmonths)] at htake

variable {a b : Date}

private theorem Precedes.dayNumber_lt (ha : a.IsValid) (hb : b.IsValid) (h : a.Precedes b) :
    a.dayNumber < b.dayNumber := by
  have hwithin := ha.dayOfYear_lt
  obtain ⟨hmonth, -, hday, hlength⟩ := ha
  have hday' := hb.2.2.1
  unfold dayNumber
  rcases h with hyear | ⟨hyear, hmonths | ⟨hmonths, hdays⟩⟩
  · have hnext : daysBeforeYear (a.year + 1) ≤ daysBeforeYear b.year := by
      unfold daysBeforeYear
      omega
    rw [daysBeforeYear_succ] at hnext
    cases hleap : isLeapYear a.year <;>
      simp only [hleap, Bool.false_eq_true, if_true, if_false] at hwithin hnext ⊢ <;> omega
  · rw [hyear] at hlength ⊢
    have hbefore := daysBeforeMonth_add_lt hmonth hmonths (Nat.sub_one_lt_of_le hday hlength)
    omega
  · rw [hyear, hmonths]
    omega

/-- Dates follow each other as their days do. -/
theorem precedes_iff (ha : a.IsValid) (hb : b.IsValid) :
    a.Precedes b ↔ a.dayNumber < b.dayNumber := by
  refine ⟨fun h ↦ h.dayNumber_lt ha hb, fun h ↦ ?_⟩
  rcases Precedes.trichotomy a b with hab | rfl | hba
  · exact hab
  · exact absurd h (Int.lt_irrefl _)
  · exact absurd h (Int.lt_asymm (hba.dayNumber_lt hb ha))

end Date

/-- Readings follow each other by their dates, and those of one day by the time. -/
def Reading.Precedes (a b : Reading) : Prop :=
  a.date.Precedes b.date ∨ a.date = b.date ∧
    (a.hour < b.hour ∨ a.hour = b.hour ∧
      (a.minute < b.minute ∨ a.minute = b.minute ∧ a.second < b.second))

namespace Instant

/-- The begin of the second that a clock shows at an instant. -/
def truncated (t : Instant) : Instant where
  seconds := t.seconds
  nanos := if t.isLeap then nanosPerSecond else 0
  isValid := by
    obtain ⟨seconds, nanos, hfirst, hlast, hnanos, hleap⟩ := t
    refine ⟨hfirst, hlast, ?_, fun h ↦ hleap ?_⟩
    · split <;> decide
    · split at h
      · rename_i hreached
        exact of_decide_eq_true hreached
      · exact absurd h (by decide)

variable (a b t : Instant)

private theorem truncated_lt_truncated :
    a.truncated < b.truncated ↔
      a.seconds < b.seconds ∨ a.seconds = b.seconds ∧ a.isLeap = false ∧ b.isLeap = true := by
  have hnanos : a.truncated.nanos < b.truncated.nanos ↔ a.isLeap = false ∧ b.isLeap = true := by
    change (if a.isLeap then nanosPerSecond else 0) < (if b.isLeap then nanosPerSecond else 0) ↔ _
    cases a.isLeap <;> cases b.isLeap <;> decide
  exact or_congr Iff.rfl (and_congr Iff.rfl hnanos)

/-- What a clock shows exists. -/
theorem isValid_reading : t.reading.IsValid := by
  have hleap := t.isValid.2.2.2
  refine ⟨Date.isValid_ofDayNumber _, ?_⟩
  simp only [reading, isLeap, decide_eq_true_eq]
  unfold secondsPerDay
  refine ⟨by omega, by omega, ?_⟩
  split <;> omega

/-- Times of day follow each other by hour, minute and second. A leap second follows the last second
of its minute, so it comes before the next minute. -/
private theorem ofDay_lt_ofDay {x y : Nat} {p q : Bool} (hp : p = true → x % 60 = 59)
    (hq : q = true → y % 60 = 59) :
    (x / 3600 < y / 3600 ∨ x / 3600 = y / 3600 ∧ (x / 60 % 60 < y / 60 % 60 ∨
      x / 60 % 60 = y / 60 % 60 ∧
        x % 60 + (if p then 1 else 0) < y % 60 + if q then 1 else 0)) ↔
      x < y ∨ x = y ∧ p = false ∧ q = true := by
  cases p <;> cases q <;> simp only [if_true, if_false, Bool.false_eq_true, reduceCtorEq,
    forall_const, and_true, and_false, or_false] at hp hq ⊢ <;> omega

/-- Clocks show instants in their order. -/
theorem reading_precedes_iff : a.reading.Precedes b.reading ↔ a.truncated < b.truncated := by
  have hdate : a.reading.date.Precedes b.reading.date ↔
      a.seconds / secondsPerDay < b.seconds / secondsPerDay := by
    rw [Date.precedes_iff a.isValid_reading.1 b.isValid_reading.1]
    exact iff_of_eq (congrArg₂ _ (Date.dayNumber_ofDayNumber _) (Date.dayNumber_ofDayNumber _))
  have hday : a.reading.date = b.reading.date ↔
      a.seconds / secondsPerDay = b.seconds / secondsPerDay := by
    refine ⟨fun h ↦ ?_, fun h ↦ congrArg Date.ofDayNumber h⟩
    have hnumber := congrArg Date.dayNumber h
    rwa [reading, reading, Date.dayNumber_ofDayNumber, Date.dayNumber_ofDayNumber] at hnumber
  rw [Reading.Precedes, hdate, hday, truncated_lt_truncated]
  have hfinal (t : Instant) : t.isLeap → (t.seconds % secondsPerDay).toNat % 60 = 59 := by
    intro hleap
    have := t.isValid.2.2.2 (of_decide_eq_true hleap)
    unfold secondsPerDay
    omega
  dsimp only [reading]
  rw [ofDay_lt_ofDay (hfinal a) (hfinal b)]
  have hlt : a.seconds < b.seconds ↔ a.seconds / secondsPerDay < b.seconds / secondsPerDay ∨
      a.seconds / secondsPerDay = b.seconds / secondsPerDay ∧
        (a.seconds % secondsPerDay).toNat < (b.seconds % secondsPerDay).toNat := by
    unfold secondsPerDay
    omega
  have heq : a.seconds = b.seconds ↔ a.seconds / secondsPerDay = b.seconds / secondsPerDay ∧
      (a.seconds % secondsPerDay).toNat = (b.seconds % secondsPerDay).toNat := by
    unfold secondsPerDay
    omega
  rw [hlt, heq, and_or_left, and_assoc, or_assoc]

end Instant

/-- No month has more than 31 days. -/
theorem Date.IsValid.day_le {date : Date} (h : date.IsValid) : date.day ≤ 31 := by
  have hlengths : ∀ leap, ∀ n : Fin 12, (monthLengths leap).getD n 0 ≤ 31 := by decide
  obtain ⟨hmonth, hmonth', -, hday⟩ := h
  exact Nat.le_trans hday (hlengths _ ⟨date.month - 1, by omega⟩)

/-- A date has a year of four digits. -/
def Date.HasPlainYear (date : Date) : Prop := 0 ≤ date.year ∧ date.year ≤ 9999

instance (date : Date) : Decidable date.HasPlainYear :=
  inferInstanceAs (Decidable (0 ≤ date.year ∧ date.year ≤ 9999))

/-- A year of four digits is written without a sign. -/
theorem Date.HasPlainYear.yearDigits_eq {date : Date} (h : date.HasPlainYear) :
    yearDigits date.year = Decimal.fixed 4 date.year.toNat := if_pos h

section

variable {x y : List Char}

/-- Dates with years of four digits are ordered as characters just as they follow each other. -/
theorem Date.digits_append_lt {a b : Date} (ha : a.IsValid) (hb : b.IsValid)
    (hyear : a.HasPlainYear) (hyear' : b.HasPlainYear) :
    a.digits ++ x < b.digits ++ y ↔ a.Precedes b ∨ a = b ∧ x < y := by
  have hday := ha.day_le
  have hday' := hb.day_le
  obtain ⟨-, hmonth, -⟩ := ha
  obtain ⟨-, hmonth', -⟩ := hb
  simp only [digits, hyear.yearDigits_eq, hyear'.yearDigits_eq, List.append_assoc,
    List.cons_append]
  obtain ⟨hzero, hyear⟩ := hyear
  obtain ⟨hzero', hyear'⟩ := hyear'
  rw [Decimal.fixed_append_lt (by omega) (by omega), List.cons_lt_cons_iff,
    Decimal.fixed_append_lt (by omega) (by omega), List.cons_lt_cons_iff,
    Decimal.fixed_append_lt (by omega) (by omega)]
  have hlt : a.year.toNat < b.year.toNat ↔ a.year < b.year := by omega
  have heq : a.year.toNat = b.year.toNat ↔ a.year = b.year := by omega
  have hsame : a = b ↔ a.year = b.year ∧ a.month = b.month ∧ a.day = b.day := by
    cases a
    cases b
    rw [Date.mk.injEq]
  rw [hlt, heq, hsame, Precedes]
  simp only [Char.lt_irrefl, false_or, true_and, and_or_left, or_assoc, and_assoc]

/-- Times of day are ordered as characters just as they follow each other. -/
theorem Reading.timeDigits_append_lt {a b : Reading} (ha : a.IsValid) (hb : b.IsValid) :
    a.timeDigits ++ x < b.timeDigits ++ x ↔
      a.hour < b.hour ∨ a.hour = b.hour ∧
        (a.minute < b.minute ∨ a.minute = b.minute ∧ a.second < b.second) := by
  obtain ⟨-, hhour, hminute, hsecond⟩ := ha
  obtain ⟨-, hhour', hminute', hsecond'⟩ := hb
  simp only [timeDigits, List.append_assoc, List.cons_append]
  rw [Decimal.fixed_append_lt (by omega) (by omega), List.cons_lt_cons_iff,
    Decimal.fixed_append_lt (by omega) (by omega), List.cons_lt_cons_iff,
    Decimal.fixed_append_lt (by omega) (by omega)]
  simp only [Char.lt_irrefl, List.lt_irrefl, false_or, true_and, and_false, or_false]

/-- Readings with years of four digits are ordered as characters just as they follow each other. -/
theorem Reading.digits_append_lt {a b : Reading} (ha : a.IsValid) (hb : b.IsValid)
    (hyear : a.date.HasPlainYear) (hyear' : b.date.HasPlainYear) (mark : Char) :
    a.digits mark ++ x < b.digits mark ++ x ↔ a.Precedes b := by
  simp only [digits, List.append_assoc, List.cons_append]
  rw [Date.digits_append_lt ha.1 hb.1 hyear hyear', List.cons_lt_cons_iff,
    timeDigits_append_lt ha hb]
  simp only [Char.lt_irrefl, false_or, true_and, Precedes]

end

namespace Instant

variable {a b : Instant}

/-- A year before 0 is written with a sign. -/
theorem stored_of_neg {t : Instant} (h : t.reading.date.year < 0) :
    ∃ rest, t.stored.toList = '-' :: rest := by
  have hplain : ¬ (0 ≤ t.reading.date.year ∧ t.reading.date.year ≤ 9999) := by omega
  unfold stored Reading.digits Date.digits yearDigits
  rw [String.toList_ofList, if_neg hplain, if_pos h]
  exact ⟨_, rfl⟩

/-- The stored form of an instant with a year of four digits comes before that of another, which may
have a year before 0, just when its second comes first. -/
theorem stored_lt_stored (ha : a.reading.date.HasPlainYear) (hb : b.reading.date.year ≤ 9999) :
    a.stored < b.stored ↔ a.truncated < b.truncated := by
  rw [String.lt_iff, ← reading_precedes_iff]
  by_cases hzero : 0 ≤ b.reading.date.year
  · rw [stored, stored, String.toList_ofList, String.toList_ofList]
    exact Reading.digits_append_lt a.isValid_reading b.isValid_reading ha ⟨hzero, hb⟩ 'T'
  · have hlater : b.reading.date.year < a.reading.date.year := by
      have := ha.1
      omega
    refine iff_of_false ?_ ?_
    · obtain ⟨rest, hsign⟩ := stored_of_neg (Int.not_le.mp hzero)
      rw [hsign, stored, String.toList_ofList]
      simp only [Reading.digits, Date.digits, ha.yearDigits_eq, List.append_assoc]
      exact Decimal.not_fixed_append_lt (by decide) (by decide)
    · rintro ((hyear | ⟨hyear, -⟩) | ⟨hdate, -⟩)
      · omega
      · omega
      · rw [hdate] at hlater
        exact Int.lt_irrefl _ hlater

/-- Of two instants one is before the other unless they are the same. -/
protected theorem lt_trichotomy (a b : Instant) : a < b ∨ a = b ∨ b < a := by
  obtain ⟨seconds, nanos, -⟩ := a
  obtain ⟨seconds', nanos', -⟩ := b
  change (seconds < seconds' ∨ seconds = seconds' ∧ nanos < nanos') ∨ _ ∨
    (seconds' < seconds ∨ seconds' = seconds ∧ nanos' < nanos)
  rw [Instant.mk.injEq]
  omega

/-- Instants with years of four digits have the same stored form just when they are in the same
second. -/
theorem stored_inj (ha : a.reading.date.HasPlainYear) (hb : b.reading.date.HasPlainYear) :
    a.stored = b.stored ↔ a.truncated = b.truncated := by
  have hab := stored_lt_stored ha hb.2
  have hba := stored_lt_stored hb ha.2
  constructor
  · intro hstored
    rw [hstored] at hab hba
    have hnot : ¬ b.stored < b.stored := String.lt_irrefl _
    rcases Instant.lt_trichotomy a.truncated b.truncated with hlt | heq | hlt
    · exact absurd (hab.mpr hlt) hnot
    · exact heq
    · exact absurd (hba.mpr hlt) hnot
  · intro hsecond
    rw [hsecond] at hab hba
    have hnot : ¬ b.truncated < b.truncated := by
      rw [truncated_lt_truncated]
      simp
    apply String.le_antisymm
    · exact String.not_lt.mp fun hlt ↦ hnot (hba.mp hlt)
    · exact String.not_lt.mp fun hlt ↦ hnot (hab.mp hlt)

/-- An instant has the seconds and nanoseconds that it was made of. -/
theorem of?_eq_some {seconds : Int} {nanos : Nat} (h : of? seconds nanos = some a) :
    a.seconds = seconds ∧ a.nanos = nanos := by
  unfold of? at h
  split at h
  · obtain rfl := Option.some.inj h
    exact ⟨rfl, rfl⟩
  · cases h

/-- Going back in time leads to no later second, also from within a leap second. -/
theorem not_truncated_lt_ago {now : Instant} {seconds : Nat} (h : now.ago seconds = some a) :
    ¬ now.truncated < a.truncated := by
  rw [truncated_lt_truncated]
  unfold ago at h
  by_cases hzero : seconds = 0
  · rw [if_pos hzero] at h
    obtain rfl := Option.some.inj h
    rintro (hlt | ⟨-, hplain, hleap⟩)
    · exact Int.lt_irrefl _ hlt
    · exact Bool.noConfusion (hplain.symm.trans hleap)
  · rw [if_neg hzero] at h
    by_cases hleap : now.isLeap
    · rw [if_pos hleap] at h
      obtain ⟨hseconds, -⟩ := of?_eq_some h
      rintro (hlt | ⟨-, hplain, -⟩)
      · omega
      · exact Bool.noConfusion (hplain.symm.trans hleap)
    · rw [if_neg hleap] at h
      obtain ⟨hseconds, -⟩ := of?_eq_some h
      omega

/-- A clock that shows no later second shows no later year. -/
theorem year_le_of_truncated_le (h : a.truncated ≤ b.truncated) :
    a.reading.date.year ≤ b.reading.date.year := by
  by_contra hlater
  exact h ((reading_precedes_iff b a).mp (.inl (.inl (Int.not_le.mp hlater))))

/-- The stored form of an instant does not come before that of an earlier one, even of one before
year 0. -/
theorem not_stored_lt_ago {now : Instant} {seconds : Nat} (hnow : now.reading.date.HasPlainYear)
    (h : now.ago seconds = some a) : ¬ now.stored < a.stored := by
  have horder := not_truncated_lt_ago h
  rwa [stored_lt_stored hnow (Int.le_trans (year_le_of_truncated_le horder) hnow.2)]

/-- Instants are ordered by their seconds, and within a second by their nanoseconds. -/
protected theorem le_iff :
    a ≤ b ↔ a.seconds < b.seconds ∨ a.seconds = b.seconds ∧ a.nanos ≤ b.nanos := by
  change ¬ (b.seconds < a.seconds ∨ b.seconds = a.seconds ∧ b.nanos < a.nanos) ↔ _
  omega

/-- No instant is after itself. -/
protected theorem le_refl (a : Instant) : a ≤ a := by
  rw [Instant.le_iff]
  omega

/-- The order of instants is transitive. -/
protected theorem le_trans {c : Instant} (hab : a ≤ b) (hbc : b ≤ c) : a ≤ c := by
  rw [Instant.le_iff] at hab hbc ⊢
  omega

/-- Later instants are not in earlier seconds. -/
theorem truncated_le_truncated (h : a ≤ b) : a.truncated ≤ b.truncated := by
  intro hlt
  rw [Instant.le_iff] at h
  rw [truncated_lt_truncated, isLeap, isLeap, decide_eq_false_iff_not, decide_eq_true_iff] at hlt
  omega

/-- Any step back from within a leap second is counted from the second behind it, and leads to no
leap second. -/
theorem ago_of_ne_zero {now : Instant} {seconds : Nat} (hseconds : seconds ≠ 0)
    (h : now.ago seconds = some a) :
    a.isLeap = false ∧ a.seconds = now.seconds - seconds + if now.isLeap then 1 else 0 := by
  obtain ⟨-, -, hnanos, -⟩ := now.isValid
  rw [ago, if_neg hseconds] at h
  rw [isLeap, decide_eq_false_iff_not]
  by_cases hleap : now.isLeap
  · rw [if_pos hleap] at h ⊢
    obtain ⟨hsame, hrest⟩ := of?_eq_some h
    omega
  · rw [if_neg hleap] at h ⊢
    obtain ⟨hsame, hrest⟩ := of?_eq_some h
    rw [isLeap, decide_eq_true_iff] at hleap
    omega

/-- The same time before later instants is not in an earlier second, although it may come earlier
within the second if one of them was a leap second. -/
theorem truncated_ago_le {now later : Instant} {seconds : Nat} (hle : now ≤ later)
    (ha : now.ago seconds = some a) (hb : later.ago seconds = some b) :
    a.truncated ≤ b.truncated := by
  by_cases hzero : seconds = 0
  · rw [ago, if_pos hzero] at ha hb
    obtain rfl := Option.some.inj ha
    obtain rfl := Option.some.inj hb
    exact truncated_le_truncated hle
  · obtain ⟨hplain, hseconds⟩ := ago_of_ne_zero hzero ha
    obtain ⟨-, hseconds'⟩ := ago_of_ne_zero hzero hb
    intro hlt
    rw [truncated_lt_truncated, hplain] at hlt
    rcases hlt with hlt | ⟨-, -, hleap⟩
    · rw [hseconds, hseconds'] at hlt
      rcases Instant.le_iff.mp hle with hearlier | ⟨hsame, hnanos⟩
      · split at hlt <;> split at hlt <;> omega
      · have hleap : now.isLeap → later.isLeap := by
          rw [isLeap, isLeap, decide_eq_true_iff, decide_eq_true_iff]
          omega
        by_cases hnow : now.isLeap
        · rw [if_pos hnow, if_pos (hleap hnow)] at hlt
          omega
        · rw [if_neg hnow] at hlt
          split at hlt <;> omega
    · cases hleap

/-- The calendar reaches back from an instant just as far as to its first second. -/
theorem isSome_ago (now : Instant) (seconds : Nat) :
    (now.ago seconds).isSome = true ↔
      firstSecond + seconds ≤ now.seconds + if now.isLeap then 1 else 0 := by
  obtain ⟨hfirst, hlast, hnanos, -⟩ := now.isValid
  by_cases hzero : seconds = 0
  · rw [ago, if_pos hzero, hzero]
    exact iff_of_true rfl (by split <;> omega)
  · have hvalid (second : Int) (nanos : Nat) (hbefore : second ≤ lastSecond)
        (hplain : nanos < nanosPerSecond) :
        (of? second nanos).isSome = true ↔ firstSecond ≤ second := by
      unfold of?
      split
      · rename_i h
        exact iff_of_true rfl h.1
      · rename_i h
        refine iff_of_false Bool.false_ne_true fun hreach ↦ h ⟨hreach, hbefore, ?_, ?_⟩
        · omega
        · omega
    rw [ago, if_neg hzero]
    by_cases hleap : now.isLeap
    · rw [if_pos hleap, if_pos hleap, hvalid _ _ (by omega) (by omega)]
      omega
    · have hplain : now.nanos < nanosPerSecond := by
        simpa [isLeap] using hleap
      rw [if_neg hleap, if_neg hleap, hvalid _ _ (by omega) hplain]
      omega

/-- The years of four digits begin with the first second of year 0. -/
theorem le_seconds_of_hasPlainYear {t : Instant} (h : t.reading.date.HasPlainYear) :
    yearZero * secondsPerDay ≤ t.seconds := by
  have hyear : 0 ≤ yearOf (t.seconds / secondsPerDay - yearZero) := h.1
  have hday := (yearOf_bounds (t.seconds / secondsPerDay - yearZero)).1
  have hbefore : 0 ≤ daysBeforeYear (yearOf (t.seconds / secondsPerDay - yearZero)) := by
    unfold daysBeforeYear
    omega
  unfold secondsPerDay at *
  omega

end Instant

end BotOps.Time
