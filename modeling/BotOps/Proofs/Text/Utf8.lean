import BotOps.Text.Utf8

/-!
# Decoding across a character of one byte

A byte below 0x80 never continues a character, so it ends whatever was partly read. The text on
either side of it is therefore decoded as if it stood alone: `decodeLossy_append_cons`.
-/

namespace BotOps.Text.Utf8

/-- What a partly read character still needs is no byte of ASCII. -/
def State.OwesTail (s : State) : Prop := ∀ p, s.pending = some p → 0x80 ≤ p.least

private theorem beginning_more {b : UInt8} {p : Pending} (h : beginning b = .more p) :
    0x80 ≤ p.least := by
  unfold beginning at h
  repeat' split at h
  all_goals simp_all
  all_goals
    subst h
    dsimp only
    try split
    all_goals decide

/-- Reading a byte between characters leaves tails to be read at most. -/
theorem owesTail_begin (read : List (Option Char)) (b : UInt8) :
    (State.begin read b).OwesTail := by
  intro p hp
  unfold State.begin at hp
  split at hp
  · cases hp
  · next pending hb =>
    obtain rfl := Option.some.inj hp
    exact beginning_more hb
  · cases hp

/-- Reading a byte leaves tails to be read at most. -/
theorem owesTail_step (s : State) (b : UInt8) : (s.step b).OwesTail := by
  intro p hp
  unfold State.step at hp
  split at hp
  · exact owesTail_begin _ _ p hp
  · split at hp
    · dsimp only at hp
      split at hp
      · cases hp
      · obtain rfl := Option.some.inj hp
        exact UInt8.le_refl 0x80
    · exact owesTail_begin _ _ p hp

/-- Reading bytes leaves tails to be read at most. -/
theorem owesTail_foldl (bytes : List UInt8) (s : State) (h : s.OwesTail) :
    (bytes.foldl State.step s).OwesTail := by
  induction bytes generalizing s with
  | nil => exact h
  | cons b bytes ih => exact ih _ (owesTail_step s b)

/-- What was read before plays no part in reading on. -/
theorem begin_append (read more : List (Option Char)) (b : UInt8) :
    State.begin (read ++ more) b =
      ⟨(State.begin read b).read ++ more, (State.begin read b).pending⟩ := by
  unfold State.begin
  cases beginning b <;> rfl

/-- What was read before plays no part in reading on. -/
theorem step_append (s : State) (more : List (Option Char)) (b : UInt8) :
    State.step ⟨s.read ++ more, s.pending⟩ b = ⟨(s.step b).read ++ more, (s.step b).pending⟩ := by
  unfold State.step
  cases s.pending with
  | none => exact begin_append _ _ _
  | some p =>
    dsimp only
    split
    · split <;> rfl
    · exact begin_append (none :: s.read) more b

/-- What was read before plays no part in reading on. -/
theorem foldl_step_append (bytes : List UInt8) (s : State) (more : List (Option Char)) :
    bytes.foldl State.step ⟨s.read ++ more, s.pending⟩ =
      ⟨(bytes.foldl State.step s).read ++ more, (bytes.foldl State.step s).pending⟩ := by
  induction bytes generalizing s with
  | nil => rfl
  | cons b bytes ih => rw [List.foldl_cons, step_append, ih, List.foldl_cons]

/-- A byte of ASCII ends a partly read character and is a character by itself. -/
theorem step_ascii (s : State) (b : UInt8) (hs : s.OwesTail) (hb : b < 0x80) :
    s.step b = ⟨some (Char.ofNat b.toNat) :: s.finish.reverse, none⟩ := by
  have hbegin (read : List (Option Char)) :
      State.begin read b = ⟨some (Char.ofNat b.toNat) :: read, none⟩ := by
    simp [State.begin, beginning, hb]
  unfold State.step State.finish
  cases hp : s.pending with
  | none => simp [hbegin]
  | some p =>
    have hleast : ¬ p.least ≤ b := by
      have := hs p hp
      simp only [UInt8.le_iff_toNat_le, UInt8.lt_iff_toNat_lt] at *
      omega
    simp [hbegin, hleast]

/-- What was read before comes first in the text. -/
theorem finish_append (s : State) (more : List (Option Char)) :
    State.finish ⟨s.read ++ more, s.pending⟩ = more.reverse ++ s.finish := by
  unfold State.finish
  cases s.pending <;> simp

/-- The texts before and behind a byte of ASCII are read apart from its character. -/
theorem units_append_cons (front rest : List UInt8) (b : UInt8) (hb : b < 0x80) :
    units (front ++ b :: rest) = units front ++ some (Char.ofNat b.toNat) :: units rest := by
  have hstart : State.OwesTail ⟨[], none⟩ := by intro p hp; cases hp
  have hfront := owesTail_foldl front ⟨[], none⟩ hstart
  have hmore := foldl_step_append rest ⟨[], none⟩
    (some (Char.ofNat b.toNat) :: (front.foldl State.step ⟨[], none⟩).finish.reverse)
  unfold units
  rw [List.foldl_append, List.foldl_cons, step_ascii _ _ hfront hb]
  dsimp only at hmore
  rw [List.nil_append] at hmore
  rw [hmore, finish_append, List.reverse_cons, List.reverse_reverse, List.append_assoc]
  rfl

/-- The texts before and behind a byte of ASCII are decoded apart from its character. -/
theorem decodeLossy_append_cons (front rest : List UInt8) (b : UInt8) (hb : b < 0x80) :
    decodeLossy (front ++ b :: rest) =
      decodeLossy front ++ Char.ofNat b.toNat :: decodeLossy rest := by
  rw [decodeLossy, units_append_cons front rest b hb, List.map_append]
  rfl

end BotOps.Text.Utf8
