import BotOps.Proofs.Billing.Handling
import BotOps.Proofs.Time.Spelling

/-!
# The validity of a subscription

A subscription is active between two instants, both included. How the platform spells these instants
makes no difference, neither to the activity nor to the credit that is kept:
`activity_ignores_spelling`.
-/

namespace BotOps.Billing

open BotOps.Text BotOps.Time

/-- A bound is read however it is spelled, and nothing is reported about it. -/
theorem readBound_text (field : String) (s : Spelling) :
    readBound field (some s.text) = (some s.instant, []) := by
  unfold readBound
  dsimp only
  rw [s.parse?_text]

namespace Activity

variable {now start stop : Instant}

private theorem of_eq_active_iff :
    of now (some start) (some stop) = active ↔ start ≤ now ∧ now ≤ stop := by
  unfold of
  dsimp only
  split
  · next h => simp [h]
  · next h => simp [h]

end Activity

/-- A purchase earns the same credit when its bounds are written differently but read the same. -/
theorem Entitlement.credit?_congr {start start' stop stop' : Option String}
    (hstart : (readBound "starts_at" start).1 = (readBound "starts_at" start').1)
    (hstop : (readBound "ends_at" stop).1 = (readBound "ends_at" stop').1)
    (entitlement : Entitlement) (planId : String) (now : Instant) :
    { entitlement with startsAt := start, endsAt := stop }.credit? planId now =
      { entitlement with startsAt := start', endsAt := stop' }.credit? planId now := by
  have hactivity : { entitlement with startsAt := start, endsAt := stop }.activityAt now =
      { entitlement with startsAt := start', endsAt := stop' }.activityAt now := by
    unfold activityAt
    rw [hstart, hstop]
  unfold credit?
  rw [hactivity]
  rfl

/-- Whatever spelling the platform chooses for an instant, that instant is read, so a bound counts
as what it is: a subscription is active just when the moment lies between its bounds, and two
spellings of one instant lead to the same activity at all moments and to the same credit. -/
theorem activity_ignores_spelling (s : Spelling) :
    Instant.parse? s.text = some s.instant ∧
    (∀ field, readBound field (some s.text) = (some s.instant, [])) ∧
    (∀ (stop : Spelling) (now : Instant),
      Activity.of now (Instant.parse? s.text) (Instant.parse? stop.text) = .active ↔
        s.instant ≤ now ∧ now ≤ stop.instant) ∧
    ∀ s' : Spelling, s.instant = s'.instant →
      (∀ (now : Instant) (other : Option Instant),
        Activity.of now (Instant.parse? s.text) other =
            Activity.of now (Instant.parse? s'.text) other ∧
          Activity.of now other (Instant.parse? s.text) =
            Activity.of now other (Instant.parse? s'.text)) ∧
      ∀ (entitlement : Entitlement) (planId : String) (now : Instant),
        { entitlement with startsAt := some s.text }.credit? planId now =
            { entitlement with startsAt := some s'.text }.credit? planId now ∧
          { entitlement with endsAt := some s.text }.credit? planId now =
            { entitlement with endsAt := some s'.text }.credit? planId now := by
  refine ⟨s.parse?_text, fun field ↦ readBound_text field s, ?_, ?_⟩
  · intro stop now
    rw [s.parse?_text, stop.parse?_text]
    exact Activity.of_eq_active_iff
  · intro s' hsame
    constructor
    · intro now other
      rw [s.parse?_text, s'.parse?_text, hsame]
      exact ⟨rfl, rfl⟩
    · intro entitlement planId now
      have hbound (field : String) :
          (readBound field (some s.text)).1 = (readBound field (some s'.text)).1 := by
        rw [readBound_text, readBound_text, hsame]
      exact ⟨entitlement.credit?_congr (hbound _) rfl planId now,
        entitlement.credit?_congr rfl (hbound _) planId now⟩

/-- The middle of a leap second in universal time, with blanks around it. -/
def leapSpelling : Spelling where
  before := ['\u3000', ' ']
  reading := ⟨⟨2024, 2, 29⟩, 23, 59, 60⟩
  separator := .upper
  fraction := ['5']
  zone := .upper
  after := ['\n']
  isBlank_before := List.all_eq_true.mp (by decide)
  isBlank_after := List.all_eq_true.mp (by decide)
  isDigit_fraction := List.all_eq_true.mp (by decide)
  isValid := by decide
  plainYear := by decide

/-- The same instant on a clock that is ahead and already shows the next month. -/
def movedSpelling : Spelling where
  before := []
  reading := ⟨⟨2024, 3, 1⟩, 9, 29, 60⟩
  separator := .blank
  fraction := "500000000999".toList
  zone := .moved .plus 9 30
  after := []
  isBlank_before := List.all_eq_true.mp (by decide)
  isBlank_after := List.all_eq_true.mp (by decide)
  isDigit_fraction := List.all_eq_true.mp (by decide)
  isValid := by decide
  plainYear := by decide

/-- Both spellings are read as the leap second, and as the end of a validity both keep the
subscription active in it. -/
theorem activity_ignores_spelling_leapSecond :
    leapSpelling.text = "\u3000 2024-02-29T23:59:60.5Z\n" ∧
      movedSpelling.text = "2024-03-01 09:29:60.500000000999+09:30" ∧
      leapSpelling.instant = movedSpelling.instant ∧
      Instant.parse? leapSpelling.text = some ⟨1709251199, 1500000000, by decide⟩ ∧
      (∀ now other, Activity.of now other (Instant.parse? leapSpelling.text) =
        Activity.of now other (Instant.parse? movedSpelling.text)) ∧
      Activity.of leapSpelling.instant (Instant.parse? movedSpelling.text)
        (Instant.parse? movedSpelling.text) = .active := by
  have hsame : leapSpelling.instant = movedSpelling.instant := by decide +kernel
  obtain ⟨hread, -, -, hother⟩ := activity_ignores_spelling leapSpelling
  obtain ⟨hactivity, -⟩ := hother movedSpelling hsame
  obtain ⟨-, -, hactive, -⟩ := activity_ignores_spelling movedSpelling
  refine ⟨by decide +kernel, by decide +kernel, hsame, ?_, fun now other ↦ (hactivity now other).2,
    (hactive movedSpelling _).mpr ?_⟩
  · rw [hread]
    decide +kernel
  · rw [hsame]
    exact ⟨Instant.le_refl _, Instant.le_refl _⟩

end BotOps.Billing
