import BotOps.Proofs.Text.Utf8
import Mathlib.Algebra.Group.Nat.Defs
import Mathlib.Data.List.Basic
import Mathlib.Tactic.SplitIfs

/-!
# Partly read characters

A partly read character can still become one of the characters between two bounds, `Pending.lowest`
and `Pending.beyond`, and every further byte draws the bounds closer. None of these characters is of
ASCII, so a text has no characters of ASCII but those among its bytes:
`exists_mem_of_mem_decodeLossy`.
-/

namespace BotOps.Text.Utf8

/-- The first code point that a partly read character can become. -/
def Pending.lowest (p : Pending) : Nat :=
  (p.bits * 64 + (p.least.toNat - 0x80)) * 64 ^ (p.owed - 1)

/-- The code point behind the last one that a partly read character can become. -/
def Pending.beyond (p : Pending) : Nat :=
  (p.bits * 64 + (p.greatest.toNat - 0x80) + 1) * 64 ^ (p.owed - 1)

/-- The bits that a partly read character has after one more byte. -/
def Pending.more (p : Pending) (b : UInt8) : Nat := p.bits * 64 + (b.toNat - 0x80)

/-- A partly read character after one more byte that is not its last one. -/
def Pending.next (p : Pending) (b : UInt8) : Pending := ⟨p.owed - 1, 0x80, 0xbf, p.more b⟩

/-- Each code point that a partly read character can become is a character beyond ASCII. -/
def Pending.BeyondAscii (p : Pending) : Prop :=
  0x80 ≤ p.lowest ∧ (p.beyond ≤ 0xd800 ∨ 0xe000 ≤ p.lowest ∧ p.beyond ≤ 0x110000)

/-- What a byte begins becomes no character of ASCII, no surrogate and nothing behind the last
character. -/
theorem beyondAscii_of_beginning {b : UInt8} {p : Pending} (h : beginning b = .more p) :
    p.BeyondAscii := by
  unfold beginning at h
  simp only [UInt8.lt_iff_toNat_lt, ← UInt8.toNat_inj] at h
  split_ifs at h <;> cases h <;>
    simp only [Pending.BeyondAscii, Pending.lowest, Pending.beyond] <;>
    simp at * <;> omega

section

variable {p : Pending} {b : UInt8}

/-- The last byte settles on one of the code points that were left. -/
theorem Pending.more_mem (h : p.owed ≤ 1) (hleast : p.least ≤ b) (hgreatest : b ≤ p.greatest) :
    p.lowest ≤ p.more b ∧ p.more b < p.beyond := by
  have hlast : p.owed - 1 = 0 := by omega
  have hfirst : p.least.toNat ≤ b.toNat := hleast
  have hend : b.toNat ≤ p.greatest.toNat := hgreatest
  unfold lowest beyond more
  rw [hlast, pow_zero]
  omega

/-- The code points left after one more byte begin with those whose bits are known. -/
theorem Pending.lowest_next (h : 1 < p.owed) :
    (p.next b).lowest = p.more b * 64 ^ (p.owed - 1) := by
  have howed : p.owed - 1 - 1 + 1 = p.owed - 1 := by omega
  have hleast : (0x80 : UInt8).toNat - 0x80 = 0 := by decide
  unfold lowest next
  dsimp only
  rw [hleast, Nat.add_zero, Nat.mul_assoc, ← pow_succ', howed]

/-- The code points left after one more byte end with those whose bits are known. -/
theorem Pending.beyond_next (h : 1 < p.owed) :
    (p.next b).beyond = (p.more b + 1) * 64 ^ (p.owed - 1) := by
  have howed : p.owed - 1 - 1 + 1 = p.owed - 1 := by omega
  have hgreatest : (0xbf : UInt8).toNat - 0x80 = 63 := by decide
  have hlast : p.more b * 64 + 63 + 1 = (p.more b + 1) * 64 := by omega
  unfold beyond next
  dsimp only
  rw [hgreatest, hlast, Nat.mul_assoc, ← pow_succ', howed]

/-- Every further byte leaves fewer code points. -/
theorem Pending.next_within (h : 1 < p.owed) (hleast : p.least ≤ b) (hgreatest : b ≤ p.greatest) :
    p.lowest ≤ (p.next b).lowest ∧ (p.next b).beyond ≤ p.beyond := by
  have hfirst : p.least.toNat ≤ b.toNat := hleast
  have hend : b.toNat ≤ p.greatest.toNat := hgreatest
  rw [lowest_next h, beyond_next h]
  constructor
  · unfold lowest more
    apply Nat.mul_le_mul_right
    omega
  · unfold beyond more
    apply Nat.mul_le_mul_right
    omega

namespace State

variable {s : State}

/-- The last byte of a character completes it. -/
theorem step_last (hp : s.pending = some p) (h : p.owed ≤ 1) (hleast : p.least ≤ b)
    (hgreatest : b ≤ p.greatest) :
    s.step b = ⟨some (Char.ofNat (p.more b)) :: s.read, none⟩ := by
  unfold step Pending.more
  rw [hp]
  dsimp only
  rw [if_pos ⟨hleast, hgreatest⟩, if_pos h]

/-- A byte of a character that is not the last one leaves less to be read. -/
theorem step_next (hp : s.pending = some p) (h : 1 < p.owed) (hleast : p.least ≤ b)
    (hgreatest : b ≤ p.greatest) : s.step b = ⟨s.read, some (p.next b)⟩ := by
  unfold step Pending.next Pending.more
  rw [hp]
  dsimp only
  rw [if_pos ⟨hleast, hgreatest⟩, if_neg (Nat.not_le.mpr h)]

/-- A byte that cannot go on with a character is read between characters. -/
theorem step_broken (hp : s.pending = some p) (h : ¬ (p.least ≤ b ∧ b ≤ p.greatest)) :
    s.step b = begin (Option.none :: s.read) b := by
  unfold step
  rw [hp]
  dsimp only
  rw [if_neg h]

/-- What a byte does: it is read between characters, completes a character within its bounds, draws
the bounds closer, or breaks the character off. -/
theorem step_cases (s : State) (b : UInt8) :
    (s.pending = none ∧ s.step b = begin s.read b) ∨
      ∃ p, s.pending = some p ∧
        (((p.lowest ≤ p.more b ∧ p.more b < p.beyond) ∧
            s.step b = ⟨some (Char.ofNat (p.more b)) :: s.read, none⟩) ∨
          ((p.lowest ≤ (p.next b).lowest ∧ (p.next b).beyond ≤ p.beyond) ∧
            s.step b = ⟨s.read, some (p.next b)⟩) ∨
          s.step b = begin (none :: s.read) b) := by
  cases hp : s.pending with
  | none =>
    refine .inl ⟨rfl, ?_⟩
    unfold step
    rw [hp]
  | some p =>
    refine .inr ⟨p, rfl, ?_⟩
    by_cases hb : p.least ≤ b ∧ b ≤ p.greatest
    · by_cases howed : p.owed ≤ 1
      · exact .inl ⟨p.more_mem howed hb.1 hb.2, step_last hp howed hb.1 hb.2⟩
      · have hmore : 1 < p.owed := Nat.not_le.mp howed
        exact .inr (.inl ⟨p.next_within hmore hb.1 hb.2, step_next hp hmore hb.1 hb.2⟩)
    · exact .inr (.inr (step_broken hp hb))

/-- Whatever is partly read becomes no character of ASCII. -/
def BeyondAscii (s : State) : Prop := ∀ p, s.pending = some p → p.BeyondAscii

private theorem beyondAscii_start : BeyondAscii ⟨[], none⟩ := by
  intro p hp
  cases hp

private theorem beyondAscii_begin (read : List (Option Char)) (b : UInt8) :
    (begin read b).BeyondAscii := by
  intro p hp
  unfold begin at hp
  split at hp
  · cases hp
  · next pending hb =>
    obtain rfl := Option.some.inj hp
    exact beyondAscii_of_beginning hb
  · cases hp

private theorem beyondAscii_step (h : s.BeyondAscii) (b : UInt8) : (s.step b).BeyondAscii := by
  rcases s.step_cases b with ⟨-, hstep⟩ | ⟨p, hp, ⟨-, hstep⟩ | ⟨hbounds, hstep⟩ | hstep⟩
  · rw [hstep]
    exact beyondAscii_begin _ _
  · rw [hstep]
    intro q hq
    cases hq
  · rw [hstep]
    intro q hq
    obtain rfl := Option.some.inj hq
    have hascii := h p hp
    unfold Pending.BeyondAscii at hascii ⊢
    omega
  · rw [hstep]
    exact beyondAscii_begin _ _

end State

end

/-- The code point of a character that is made of one. -/
theorem toNat_ofNat {n : Nat} (h : n < 0xd800 ∨ 0xdfff < n ∧ n < 0x110000) :
    (Char.ofNat n).toNat = n := by
  rw [Char.ofNat, dif_pos h]
  rfl

/-- A byte that is a whole character is its code point. -/
theorem toNat_of_beginning {b : UInt8} {c : Char} (h : beginning b = .whole c) :
    c.toNat = b.toNat := by
  unfold beginning at h
  split at h
  · next hb =>
    have hvalid : b.toNat < 0xd800 := Nat.lt_trans b.toNat_lt (by decide)
    obtain rfl := Beginning.whole.inj h
    exact toNat_ofNat (.inl hvalid)
  · split_ifs at h

section

variable {read : List (Option Char)} {s : State} {b : UInt8} {bytes : List UInt8} {c : Char}

/-- A byte that is read between characters adds no character but itself. -/
theorem mem_read_begin (hmem : some c ∈ (State.begin read b).read) :
    some c ∈ read ∨ c.toNat = b.toNat := by
  unfold State.begin at hmem
  split at hmem
  · next d hd =>
    rcases List.mem_cons.mp hmem with hc | hread
    · obtain rfl := Option.some.inj hc
      exact .inr (toNat_of_beginning hd)
    · exact .inl hread
  · exact .inl hmem
  · exact .inl (List.mem_of_ne_of_mem (Option.some_ne_none c) hmem)

/-- A byte that is read adds no character of ASCII but itself. -/
theorem mem_read_step (h : s.BeyondAscii) (hc : c.toNat < 0x80) (hmem : some c ∈ (s.step b).read) :
    some c ∈ s.read ∨ c.toNat = b.toNat := by
  rcases s.step_cases b with ⟨-, hstep⟩ | ⟨p, hp, ⟨hbounds, hstep⟩ | ⟨-, hstep⟩ | hstep⟩
  · rw [hstep] at hmem
    exact mem_read_begin hmem
  · rw [hstep] at hmem
    rcases List.mem_cons.mp hmem with hlast | hread
    · have hascii := h p hp
      unfold Pending.BeyondAscii at hascii
      rw [Option.some.inj hlast, toNat_ofNat (by omega)] at hc
      omega
    · exact .inl hread
  · rw [hstep] at hmem
    exact .inl hmem
  · rw [hstep] at hmem
    exact (mem_read_begin hmem).imp_left (List.mem_of_ne_of_mem (Option.some_ne_none c))

/-- Bytes that are read add no characters of ASCII but those among them. -/
theorem mem_read_foldl (h : s.BeyondAscii) (hc : c.toNat < 0x80)
    (hmem : some c ∈ (bytes.foldl State.step s).read) :
    some c ∈ s.read ∨ ∃ b ∈ bytes, c.toNat = b.toNat := by
  induction bytes generalizing s with
  | nil => exact .inl hmem
  | cons b bytes ih =>
    rcases ih (State.beyondAscii_step h b) hmem with hread | ⟨d, hd, hbyte⟩
    · rcases mem_read_step h hc hread with hread | hbyte
      · exact .inl hread
      · exact .inr ⟨b, List.mem_cons_self, hbyte⟩
    · exact .inr ⟨d, List.mem_cons_of_mem b hd, hbyte⟩

/-- A text has no characters but those that were read. -/
theorem mem_read_of_mem_finish (hmem : some c ∈ s.finish) : some c ∈ s.read := by
  unfold State.finish at hmem
  split at hmem
  · exact List.mem_reverse.mp hmem
  · exact List.mem_of_ne_of_mem (Option.some_ne_none c) (List.mem_reverse.mp hmem)

/-- A text has no characters of ASCII but those among its bytes. -/
theorem exists_mem_of_mem_decodeLossy (hc : c.toNat < 0x80) (hmem : c ∈ decodeLossy bytes) :
    ∃ b ∈ bytes, c.toNat = b.toNat := by
  obtain ⟨unit, hunit, rfl⟩ := List.mem_map.mp hmem
  cases unit with
  | none => exact absurd hc (by decide)
  | some c =>
    rcases mem_read_foldl State.beyondAscii_start hc (mem_read_of_mem_finish hunit) with
      hnil | hbyte
    · cases hnil
    · exact hbyte

end

end BotOps.Text.Utf8
