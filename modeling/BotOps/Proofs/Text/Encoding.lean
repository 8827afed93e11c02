import BotOps.Proofs.Text.Pending

/-!
# Written text is read back

A character of several bytes is written as a byte that begins it and then tails of six bits each.
The tails lead a reader to its code point and to no other (`foldl_step_tails`), so a text that is
written in UTF-8 is read back: `decodeLossy_encode`. Nothing else is read without a replacement:
`decode?_eq_some_iff`.
-/

namespace BotOps.Text.Utf8

/-- The last bytes of a character, of six bits each. -/
def tails : Nat → Nat → List UInt8
  | 0, _ => []
  | owed + 1, point => UInt8.ofNat (point / 64 ^ owed % 64 + 0x80) :: tails owed point

/-- A tail is its six bits behind those that mark it. -/
theorem toNat_tail (n : Nat) : (UInt8.ofNat (n % 64 + 0x80)).toNat = n % 64 + 0x80 := by
  have hbyte : n % 64 + 0x80 < 256 := by omega
  exact UInt8.toNat_ofNat_of_lt' hbyte

/-- A partly read character goes on with a tail of six bits. -/
structure Pending.TakesTail (p : Pending) : Prop where
  owed_pos : 0 < p.owed
  le_least : 0x80 ≤ p.least.toNat
  le_greatest : 0x80 ≤ p.greatest.toNat
  greatest_le : p.greatest.toNat ≤ 0xbf

/-- The tail that leads on to a code point is one that can be read, and its bits are added. -/
theorem Pending.TakesTail.tail {p : Pending} (h : p.TakesTail) {point : Nat}
    (hlowest : p.lowest ≤ point) (hbeyond : point < p.beyond) :
    let b := UInt8.ofNat (point / 64 ^ (p.owed - 1) % 64 + 0x80)
    p.least ≤ b ∧ b ≤ p.greatest ∧ p.more b = point / 64 ^ (p.owed - 1) := by
  obtain ⟨-, -, hle, hge⟩ := h
  have hpos : 0 < 64 ^ (p.owed - 1) := Nat.pow_pos (by decide)
  have hfirst : p.bits * 64 + (p.least.toNat - 0x80) ≤ point / 64 ^ (p.owed - 1) :=
    (Nat.le_div_iff_mul_le hpos).mpr hlowest
  have hlast : point / 64 ^ (p.owed - 1) < p.bits * 64 + (p.greatest.toNat - 0x80) + 1 :=
    (Nat.div_lt_iff_lt_mul hpos).mpr hbeyond
  generalize point / 64 ^ (p.owed - 1) = bits at hfirst hlast ⊢
  dsimp only
  unfold Pending.more
  rw [UInt8.le_iff_toNat_le, UInt8.le_iff_toNat_le, toNat_tail]
  omega

/-- Behind a tail that is not the last one there comes another. -/
theorem Pending.takesTail_next {p : Pending} (h : 1 < p.owed) (b : UInt8) :
    (p.next b).TakesTail where
  owed_pos := Nat.sub_pos_of_lt h
  le_least := (by decide : 0x80 ≤ (0x80 : UInt8).toNat)
  le_greatest := (by decide : 0x80 ≤ (0xbf : UInt8).toNat)
  greatest_le := (by decide : (0xbf : UInt8).toNat ≤ 0xbf)

/-- The tails that lead on to a code point are read as its character. -/
theorem foldl_step_tails {p : Pending} (h : p.TakesTail) {point : Nat} (hlowest : p.lowest ≤ point)
    (hbeyond : point < p.beyond) (read : List (Option Char)) :
    (tails p.owed point).foldl State.step ⟨read, some p⟩ =
      ⟨some (Char.ofNat point) :: read, none⟩ := by
  induction howed : p.owed generalizing p with
  | zero => exact absurd howed (Nat.ne_of_gt h.owed_pos)
  | succ owed ih =>
    obtain ⟨hleast, hgreatest, hbits⟩ := h.tail hlowest hbeyond
    rw [howed, Nat.add_sub_cancel] at hleast hgreatest hbits
    rw [tails, List.foldl_cons]
    cases owed with
    | zero =>
      rw [State.step_last rfl (Nat.le_of_eq howed) hleast hgreatest, hbits, pow_zero,
        Nat.div_one]
      rfl
    | succ owed =>
      have hmore : 1 < p.owed := by omega
      have hpos : 0 < 64 ^ (owed + 1) := Nat.pow_pos (by decide)
      rw [State.step_next rfl hmore hleast hgreatest]
      apply ih
      · exact Pending.takesTail_next hmore _
      · rw [Pending.lowest_next hmore, hbits, howed, Nat.add_sub_cancel]
        exact Nat.div_mul_le_self _ _
      · rw [Pending.beyond_next hmore, hbits, howed, Nat.add_sub_cancel]
        exact (Nat.div_lt_iff_lt_mul hpos).mp (Nat.lt_succ_self _)
      · change p.owed - 1 = owed + 1
        omega

/-- What a byte begins goes on with a tail. -/
theorem takesTail_of_beginning {b : UInt8} {p : Pending} (h : beginning b = .more p) :
    p.TakesTail := by
  unfold beginning at h
  split_ifs at h <;> cases h <;> constructor <;> simp

private theorem beginning_ofTwo (n : Fin 32) (h : 2 ≤ n.val) :
    beginning (UInt8.ofNat (n % 32 + 0xc0)) = .more ⟨1, 0x80, 0xbf, n⟩ := by
  revert n
  decide

private theorem beginning_ofThree (n : Fin 16) :
    beginning (UInt8.ofNat (n % 16 + 0xe0)) = .more
      ⟨2, if n.val = 0 then 0xa0 else 0x80, if n.val = 13 then 0x9f else 0xbf, n⟩ := by
  revert n
  decide

private theorem beginning_ofFour (n : Fin 5) :
    beginning (UInt8.ofNat (n % 8 + 0xf0)) = .more
      ⟨3, if n.val = 0 then 0x90 else 0x80, if n.val = 4 then 0x8f else 0xbf, n⟩ := by
  revert n
  decide

/-- A character of several bytes begins with one that leaves its code point to be read of tails. -/
theorem exists_beginning {c : Char} (h : 0x80 ≤ c.toNat) :
    ∃ b p, String.utf8EncodeChar c = b :: tails p.owed c.toNat ∧ beginning b = .more p ∧
      p.lowest ≤ c.toNat ∧ c.toNat < p.beyond := by
  have hvalid : c.toNat < 0xd800 ∨ 0xdfff < c.toNat ∧ c.toNat < 0x110000 := c.valid
  have hascii : ¬ c.toNat ≤ 0x7f := by omega
  have hchar : c.val.toNat = c.toNat := rfl
  by_cases htwo : c.toNat ≤ 0x7ff
  · have hlead : 2 ≤ c.toNat / 64 := by omega
    refine ⟨_, _, ?_, beginning_ofTwo ⟨c.toNat / 64, by omega⟩ hlead, ?_⟩
    · simp [String.utf8EncodeChar, hchar, hascii, htwo, tails]
    · simp [Pending.lowest, Pending.beyond]
      omega
  · by_cases hthree : c.toNat ≤ 0xffff
    · refine ⟨_, _, ?_, beginning_ofThree ⟨c.toNat / 4096, by omega⟩, ?_⟩
      · simp [String.utf8EncodeChar, hchar, hascii, htwo, hthree, tails]
      · simp only [Pending.lowest, Pending.beyond]
        constructor <;> split <;> simp <;> omega
    · refine ⟨_, _, ?_, beginning_ofFour ⟨c.toNat / 262144, by omega⟩, ?_⟩
      · simp [String.utf8EncodeChar, hchar, hascii, htwo, hthree, tails]
      · simp only [Pending.lowest, Pending.beyond]
        constructor <;> split <;> simp <;> omega

/-- The byte of a character of ASCII is its code point. -/
theorem toNat_ofNat_ascii {c : Char} (h : c.toNat < 0x80) :
    (UInt8.ofNat c.toNat).toNat = c.toNat :=
  UInt8.toNat_ofNat_of_lt' (Nat.lt_trans h (by decide))

/-- A character of ASCII is written as one byte. -/
theorem utf8EncodeChar_ascii {c : Char} (h : c.toNat < 0x80) :
    String.utf8EncodeChar c = [UInt8.ofNat c.toNat] := by
  have hchar : c.val.toNat ≤ 0x7f := Nat.le_of_lt_succ h
  rw [String.utf8EncodeChar]
  exact if_pos hchar

/-- The bytes of a character are read as it. -/
theorem foldl_step_encodeChar (c : Char) (read : List (Option Char)) :
    (String.utf8EncodeChar c).foldl State.step ⟨read, none⟩ = ⟨some c :: read, none⟩ := by
  by_cases hc : c.toNat < 0x80
  · have hascii : UInt8.ofNat c.toNat < 0x80 := by
      rw [UInt8.lt_iff_toNat_lt, toNat_ofNat_ascii hc]
      exact hc
    have hwhole : State.step ⟨read, none⟩ (UInt8.ofNat c.toNat) = ⟨some c :: read, none⟩ := by
      change State.begin read (UInt8.ofNat c.toNat) = _
      rw [State.begin, beginning, if_pos hascii, toNat_ofNat_ascii hc, Char.ofNat_toNat]
    rw [utf8EncodeChar_ascii hc, List.foldl_cons, hwhole, List.foldl_nil]
  · obtain ⟨b, p, hbytes, hb, hlowest, hbeyond⟩ := exists_beginning (Nat.le_of_not_lt hc)
    have hbegin : State.step ⟨read, none⟩ b = ⟨read, some p⟩ := by
      change State.begin read b = _
      rw [State.begin, hb]
    rw [hbytes, List.foldl_cons, hbegin,
      foldl_step_tails (takesTail_of_beginning hb) hlowest hbeyond, Char.ofNat_toNat]

/-- The bytes of a text are read as its characters. -/
theorem foldl_step_encode (text : List Char) (read : List (Option Char)) :
    (encode text).foldl State.step ⟨read, none⟩ = ⟨(text.map some).reverse ++ read, none⟩ := by
  induction text generalizing read with
  | nil => rfl
  | cons c text ih =>
    have hbytes : encode (c :: text) = String.utf8EncodeChar c ++ encode text := rfl
    rw [hbytes, List.foldl_append, foldl_step_encodeChar, ih, List.map_cons, List.reverse_cons,
      List.append_assoc]
    rfl

/-- The bytes of a text are all read as characters. -/
theorem units_encode (text : List Char) : units (encode text) = text.map some := by
  rw [units, foldl_step_encode]
  simp [State.finish]

/-- What is written in UTF-8 is read back. -/
theorem decodeLossy_encode (text : List Char) : decodeLossy (encode text) = text := by
  rw [decodeLossy, units_encode, List.map_map]
  exact List.map_id text

/-- The tails of a character are no bytes of ASCII. -/
theorem le_toNat_of_mem_tails {owed point : Nat} {b : UInt8} (h : b ∈ tails owed point) :
    0x80 ≤ b.toNat := by
  induction owed with
  | zero => cases h
  | succ owed ih =>
    rcases List.mem_cons.mp h with rfl | htail
    · rw [toNat_tail]
      exact Nat.le_add_left _ _
    · exact ih htail

/-- A byte that begins a character of several bytes is none of ASCII. -/
theorem le_toNat_of_beginning {b : UInt8} {p : Pending} (h : beginning b = .more p) :
    0x80 ≤ b.toNat := by
  by_contra hb
  have hascii : b < 0x80 := Nat.lt_of_not_le hb
  rw [beginning, if_pos hascii] at h
  cases h

/-- A byte of ASCII is written for its own character only. -/
theorem mem_of_mem_encode {text : List Char} {b : UInt8} (h : b ∈ encode text)
    (hb : b.toNat < 0x80) : Char.ofNat b.toNat ∈ text := by
  obtain ⟨c, hc, hmem⟩ := List.mem_flatMap.mp h
  by_cases hascii : c.toNat < 0x80
  · rw [utf8EncodeChar_ascii hascii, List.mem_singleton] at hmem
    rw [hmem, toNat_ofNat_ascii hascii, Char.ofNat_toNat]
    exact hc
  · obtain ⟨lead, p, hbytes, hlead, -⟩ := exists_beginning (Nat.le_of_not_lt hascii)
    rw [hbytes] at hmem
    rcases List.mem_cons.mp hmem with rfl | htail
    · exact absurd (le_toNat_of_beginning hlead) (Nat.not_le.mpr hb)
    · exact absurd (le_toNat_of_mem_tails htail) (Nat.not_le.mpr hb)

/-! ## Only what writes a text is read as it -/

section

variable {b : UInt8} {bytes front : List UInt8} {point : Nat}

/-- The first byte of a partly read character is known from what the character can become. -/
theorem toNat_of_beginning_more {p : Pending} (h : beginning b = .more p) (hle : p.lowest ≤ point)
    (hlt : point < p.beyond) :
    b.toNat =
      if point ≤ 0x7ff then point / 64 + 0xc0
      else if point ≤ 0xffff then point / 4096 + 0xe0
      else point / 262144 + 0xf0 := by
  unfold beginning at h
  simp only [UInt8.lt_iff_toNat_lt, ← UInt8.toNat_inj] at h
  split_ifs at h <;> cases h <;> simp [Pending.lowest, Pending.beyond] at * <;> split_ifs <;> omega

/-- Bytes lead to a partly read character: whatever it becomes is written as these bytes and the
tails that it still owes. -/
structure Pending.ReadFrom (p : Pending) (front : List UInt8) : Prop where
  takes : p.TakesTail
  beyond : p.BeyondAscii
  encoded : ∀ point, p.lowest ≤ point → point < p.beyond →
    String.utf8EncodeChar (Char.ofNat point) = front ++ tails p.owed point

/-- A code point that a partly read character can become is that of a character. -/
theorem Pending.BeyondAscii.toNat_ofNat {p : Pending} (h : p.BeyondAscii) (hle : p.lowest ≤ point)
    (hlt : point < p.beyond) : 0x80 ≤ point ∧ (Char.ofNat point).toNat = point := by
  obtain ⟨hascii, hvalid⟩ := h
  exact ⟨by omega, Utf8.toNat_ofNat (by omega)⟩

/-- The first byte leads to what it begins. -/
theorem readFrom_of_beginning {p : Pending} (h : beginning b = .more p) : p.ReadFrom [b] where
  takes := takesTail_of_beginning h
  beyond := beyondAscii_of_beginning h
  encoded point hle hlt := by
    obtain ⟨hascii, hchar⟩ := (beyondAscii_of_beginning h).toNat_ofNat hle hlt
    obtain ⟨c, q, hbytes, hc, hlowest, hbeyond⟩ := exists_beginning (hchar.symm ▸ hascii)
    rw [hchar] at hbytes hlowest hbeyond
    have hfirst : b = c := by
      rw [← UInt8.toNat_inj, toNat_of_beginning_more h hle hlt,
        toNat_of_beginning_more hc hlowest hbeyond]
    subst hfirst
    obtain rfl := Beginning.more.inj (h.symm.trans hc)
    exact hbytes

/-- A byte that can go on with a character is the tail of what it adds. -/
theorem Pending.TakesTail.eq_ofNat {p : Pending} (h : p.TakesTail) (hleast : p.least ≤ b)
    (hgreatest : b ≤ p.greatest) : UInt8.ofNat (p.more b % 64 + 0x80) = b := by
  obtain ⟨-, hle, -, hge⟩ := h
  have hfirst : p.least.toNat ≤ b.toNat := hleast
  have hlast : b.toNat ≤ p.greatest.toNat := hgreatest
  rw [← UInt8.toNat_inj, toNat_tail]
  unfold more
  omega

section

variable {p : Pending}

/-- The last tail completes the bytes of the character. -/
theorem Pending.ReadFrom.last (h : p.ReadFrom front) (howed : p.owed ≤ 1) (hleast : p.least ≤ b)
    (hgreatest : b ≤ p.greatest) :
    String.utf8EncodeChar (Char.ofNat (p.more b)) = front ++ [b] := by
  obtain ⟨hle, hlt⟩ := p.more_mem howed hleast hgreatest
  have hone : p.owed = 1 := Nat.le_antisymm howed h.takes.owed_pos
  have htail := h.takes.eq_ofNat hleast hgreatest
  rw [h.encoded _ hle hlt, hone, tails, tails, pow_zero, Nat.div_one, htail]

/-- A tail that is not the last one leads on to the others. -/
theorem Pending.ReadFrom.next (h : p.ReadFrom front) (howed : 1 < p.owed) (hleast : p.least ≤ b)
    (hgreatest : b ≤ p.greatest) : (p.next b).ReadFrom (front ++ [b]) where
  takes := p.takesTail_next howed b
  beyond := by
    have hbounds := p.next_within howed hleast hgreatest
    have hbeyond := h.beyond
    unfold Pending.BeyondAscii at hbeyond ⊢
    omega
  encoded point hle hlt := by
    obtain ⟨hlowest, hbeyond⟩ := p.next_within howed hleast hgreatest
    have hpos : 0 < 64 ^ (p.owed - 1) := Nat.pow_pos (by decide)
    have hbits : point / 64 ^ (p.owed - 1) = p.more b := by
      rw [lowest_next howed] at hle
      rw [beyond_next howed] at hlt
      exact Nat.div_eq_of_lt_le hle hlt
    have htails : tails p.owed point = b :: tails (p.owed - 1) point := by
      obtain ⟨owed, howed⟩ : ∃ owed, p.owed = owed + 1 :=
        ⟨p.owed - 1, (Nat.sub_add_cancel h.takes.owed_pos).symm⟩
      rw [howed, Nat.add_sub_cancel] at hbits
      rw [howed, tails, hbits, h.takes.eq_ofNat hleast hgreatest, Nat.add_sub_cancel]
    rw [h.encoded point (Nat.le_trans hlowest hle) (Nat.lt_of_lt_of_le hlt hbeyond), htails,
      List.append_assoc]
    rfl

end

/-- A reader has read a text and possibly the beginning of a character from bytes, unless it has
replaced some of them. -/
def State.ReadFrom (s : State) (bytes : List UInt8) : Prop :=
  none ∈ s.read ∨ ∃ text front, s.read = (text.map some).reverse ∧ bytes = encode text ++ front ∧
    match s.pending with
    | none => front = []
    | some p => p.ReadFrom front

private theorem encode_concat (text : List Char) (c : Char) :
    encode (text ++ [c]) = encode text ++ String.utf8EncodeChar c := by
  simp [encode]

/-- A byte that is whole is that of its character. -/
theorem utf8EncodeChar_of_beginning {c : Char} (h : beginning b = .whole c) :
    String.utf8EncodeChar c = [b] := by
  have hbyte := toNat_of_beginning h
  have hascii : c.toNat < 0x80 := by
    unfold beginning at h
    split_ifs at h with hb
    exact hbyte ▸ hb
  rw [utf8EncodeChar_ascii hascii, hbyte, UInt8.ofNat_toNat]

/-- What was replaced stays replaced. -/
theorem none_mem_read_begin {read : List (Option Char)} (h : none ∈ read) :
    none ∈ (State.begin read b).read := by
  unfold State.begin
  split
  · exact List.mem_cons_of_mem _ h
  · exact h
  · exact List.mem_cons_self

/-- Between characters a byte begins the next one. -/
theorem readFrom_begin {text : List Char} :
    (State.begin (text.map some).reverse b).ReadFrom (encode text ++ [b]) := by
  unfold State.begin
  cases hb : beginning b with
  | whole c =>
    refine .inr ⟨text ++ [c], [], by simp, ?_, rfl⟩
    rw [encode_concat, utf8EncodeChar_of_beginning hb, List.append_nil]
  | more p => exact .inr ⟨text, [b], rfl, rfl, readFrom_of_beginning hb⟩
  | invalid => exact .inl List.mem_cons_self

private theorem none_mem_read_step {s : State} (h : none ∈ s.read) : none ∈ (s.step b).read := by
  rcases s.step_cases b with ⟨-, hstep⟩ | ⟨p, -, ⟨-, hstep⟩ | ⟨-, hstep⟩ | hstep⟩
  · exact hstep ▸ none_mem_read_begin h
  · exact hstep ▸ List.mem_cons_of_mem _ h
  · exact hstep ▸ h
  · exact hstep ▸ none_mem_read_begin List.mem_cons_self

/-- Every byte that is read is accounted for. -/
theorem State.ReadFrom.step {s : State} (h : s.ReadFrom bytes) (b : UInt8) :
    (s.step b).ReadFrom (bytes ++ [b]) := by
  rcases h with hnone | ⟨text, front, hread, rfl, hpending⟩
  · exact .inl (none_mem_read_step hnone)
  · cases hp : s.pending with
    | none =>
      rw [hp] at hpending
      have hstep : s.step b = State.begin (text.map some).reverse b := by
        unfold State.step
        rw [hp, hread]
      rw [hstep, hpending, List.append_nil]
      exact readFrom_begin
    | some p =>
      rw [hp] at hpending
      have hfront : p.ReadFrom front := hpending
      by_cases hb : p.least ≤ b ∧ b ≤ p.greatest
      · rcases Nat.lt_or_ge 1 p.owed with howed | howed
        · rw [State.step_next hp howed hb.1 hb.2]
          exact .inr ⟨text, front ++ [b], hread, List.append_assoc ..,
            hfront.next howed hb.1 hb.2⟩
        · rw [State.step_last hp howed hb.1 hb.2]
          refine .inr ⟨text ++ [Char.ofNat (p.more b)], [], by simp [hread], ?_, rfl⟩
          rw [encode_concat, hfront.last howed hb.1 hb.2, List.append_nil, List.append_assoc]
      · rw [State.step_broken hp hb]
        exact .inl (none_mem_read_begin List.mem_cons_self)

private theorem State.ReadFrom.foldl {s : State} (h : s.ReadFrom front) (bytes : List UInt8) :
    (bytes.foldl State.step s).ReadFrom (front ++ bytes) := by
  induction bytes generalizing s front with
  | nil => exact (List.append_nil front).symm ▸ h
  | cons b bytes ih =>
    rw [List.append_cons]
    exact ih (h.step b)

end

/-- A text was read if nothing was replaced and nothing is still owed. -/
theorem State.ReadFrom.eq_encode {s : State} {bytes : List UInt8} {text : List Char}
    (h : s.ReadFrom bytes) (hfinish : s.finish = text.map some) : bytes = encode text := by
  have hwhole (units : List (Option Char)) (heq : units.reverse = text.map some) :
      none ∉ units := by
    rw [← List.mem_reverse, heq]
    simp
  unfold State.finish at hfinish
  cases hp : s.pending with
  | some p =>
    rw [hp] at hfinish
    exact absurd List.mem_cons_self (hwhole _ hfinish)
  | none =>
    rw [hp] at hfinish
    rcases h with hnone | ⟨other, front, hread, rfl, hpending⟩
    · exact absurd hnone (hwhole _ hfinish)
    · rw [hp] at hpending
      have hsame : other.map some = text.map some := by
        rw [← hfinish, hread, List.reverse_reverse]
      rw [show front = [] from hpending, List.append_nil,
        List.map_injective_iff.mpr (fun _ _ ↦ Option.some.inj) hsame]

/-- A list has all its values just if none of them is missing. -/
theorem mapM_id_eq_some_iff {units : List (Option Char)} {text : List Char} :
    units.mapM id = some text ↔ units = text.map some := by
  induction units generalizing text with
  | nil => cases text <;> simp
  | cons unit units ih =>
    cases unit with
    | none => cases text <;> simp
    | some c => cases text <;> simp [List.mapM_cons, Option.bind_eq_some_iff, ih, and_comm]

/-- Bytes are read as a text just if they write it. -/
theorem decode?_eq_some_iff {bytes : List UInt8} {text : List Char} :
    decode? bytes = some text ↔ bytes = encode text := by
  constructor
  · intro h
    have hstart : State.ReadFrom ⟨[], none⟩ [] := .inr ⟨[], [], rfl, rfl, rfl⟩
    exact (hstart.foldl bytes).eq_encode (mapM_id_eq_some_iff.mp h)
  · rintro rfl
    rw [decode?, units_encode, mapM_id_eq_some_iff]

end BotOps.Text.Utf8
