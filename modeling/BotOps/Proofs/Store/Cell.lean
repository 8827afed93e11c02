import BotOps.Proofs.Text.ByteOrder
import BotOps.Proofs.Text.Encoding
import BotOps.Store.Graphs
import Mathlib.Data.List.Forall2

/-!
# What cells keep

Texts and other bytes stand in one linear order, in which texts are ordered as usual:
`Octets.ofString_lt_ofString`. A row is read as a sample just if its cells keep the values of the
sample, whole numbers for all but the date and the load (`GraphRow.read_eq_ok_iff`), and otherwise
the failure names a column with a value of another type (`GraphRow.isUnread_of_read`).
-/

namespace BotOps.Store

open BotOps.Metrics BotOps.Text

namespace Octets

private theorem key_inj {a b : Octets} (h : a.key = b.key) : a = b := by
  cases a <;> cases b <;> simp_all [key]

instance : Std.IsLinearOrder Octets where
  le_refl a := List.le_refl a.key
  le_trans _ _ _ := List.le_trans
  le_antisymm _ _ hab hba := key_inj (List.le_antisymm hab hba)
  le_total a b := List.le_total a.key b.key

instance : Std.LawfulOrderLT Octets where
  lt_iff a b := Std.LawfulOrderLT.lt_iff a.key b.key

variable {a b : String}

/-- Kept texts are ordered as the texts are. -/
theorem ofString_lt_ofString : ofString a < ofString b ↔ a < b := by
  change (0 : UInt8) :: Utf8.bytesOf a < 0 :: Utf8.bytesOf b ↔ a < b
  rw [List.cons_lt_cons_iff]
  simp [Utf8.bytesOf_lt_bytesOf]

/-- A kept text is no later than another one if the texts are so. -/
theorem ofString_le_ofString : ofString a ≤ ofString b ↔ a ≤ b := by
  rw [← Std.not_lt, ofString_lt_ofString, String.not_lt]

/-- Exactly a text that is kept is read as it. -/
theorem read_eq_ok_iff {octets : Octets} {index : Nat} :
    octets.read index = .ok a ↔ octets = ofString a := by
  have hencoded (bytes : List UInt8) :
      Utf8.decode? bytes = some a.toList ↔ Octets.text bytes = ofString a := by
    rw [Utf8.decode?_eq_some_iff, ofString, Octets.text.injEq]
  cases octets with
  | blob bytes => simp [read, ofString]
  | text bytes =>
    rw [← hencoded bytes, read]
    cases hdecoded : Utf8.decode? bytes with
    | none => simp
    | some content => simp [← String.toList_inj]

end Octets

/-! ## Running what may fail -/

section

variable {ε α β : Type} {x : Except ε α} {f : α → Except ε β}

/-- The whole succeeds just if both parts do. -/
theorem bind_eq_ok_iff {b : β} : (x >>= f) = .ok b ↔ ∃ a, x = .ok a ∧ f a = .ok b := by
  cases x with
  | error error => exact ⟨nofun, fun ⟨_, h, _⟩ ↦ nomatch h⟩
  | ok a => exact ⟨fun h ↦ ⟨a, rfl, h⟩, fun ⟨_, ha, h⟩ ↦ Except.ok.inj ha ▸ h⟩

/-- What holds of the failures of both parts holds of those of the whole. -/
theorem of_bind_eq_error {p : ε → Prop} (hx : ∀ error, x = .error error → p error)
    (hf : ∀ a error, f a = .error error → p error) :
    ∀ error, (x >>= f) = .error error → p error := by
  cases x with
  | error error => exact fun cause h ↦ hx cause (congrArg _ (Except.error.inj h))
  | ok a => exact hf a

/-- All of a list succeeds just if each of its elements does. -/
theorem mapM_eq_ok_iff {items : List α} {answers : List β} :
    items.mapM f = .ok answers ↔
      List.Forall₂ (fun item answer ↦ f item = .ok answer) items answers := by
  induction items generalizing answers with
  | nil =>
    cases answers <;> simp [pure, Except.pure]
  | cons item items ih =>
    cases answers with
    | nil => simp [List.mapM_cons, bind_eq_ok_iff, pure, Except.pure]
    | cons answer answers =>
      simp [List.mapM_cons, bind_eq_ok_iff, pure, Except.pure, ih]

/-- Answers that are known for each element make up those of the list. -/
theorem mapM_eq_ok_map {items : List α} {g : α → β} (h : ∀ item ∈ items, f item = .ok (g item)) :
    items.mapM f = .ok (items.map g) := by
  rw [mapM_eq_ok_iff, List.forall₂_map_right_iff, List.forall₂_same]
  exact h

/-- A list fails as one of its elements does. -/
theorem exists_of_mapM_eq_error {items : List α} {error : ε} (h : items.mapM f = .error error) :
    ∃ item ∈ items, f item = .error error := by
  induction items with
  | nil => cases h
  | cons item items ih =>
    rw [List.mapM_cons] at h
    cases hitem : f item with
    | error cause =>
      rw [hitem] at h
      obtain rfl := Except.error.inj h
      exact ⟨item, List.mem_cons_self, hitem⟩
    | ok answer =>
      rw [hitem] at h
      cases hrest : items.mapM f with
      | error cause =>
        change (items.mapM f >>= fun rest ↦ pure (answer :: rest)) = _ at h
        rw [hrest] at h
        obtain ⟨other, hother, hfails⟩ := ih (hrest.trans h)
        exact ⟨other, List.mem_cons_of_mem _ hother, hfails⟩
      | ok answers =>
        change (items.mapM f >>= fun rest ↦ pure (answer :: rest)) = _ at h
        rw [hrest] at h
        cases h

/-- A list succeeds just if each of its elements does. -/
theorem exists_mapM_eq_ok_iff {items : List α} :
    (∃ answers, items.mapM f = .ok answers) ↔ ∀ item ∈ items, ∃ answer, f item = .ok answer := by
  constructor
  · rintro ⟨answers, h⟩
    have hall := mapM_eq_ok_iff.mp h
    clear h
    induction hall with
    | nil => nofun
    | cons hitem _ ih => exact List.forall_mem_cons.mpr ⟨⟨_, hitem⟩, ih⟩
  · intro h
    cases hrun : items.mapM f with
    | ok answers => exact ⟨answers, rfl⟩
    | error error =>
      obtain ⟨item, hitem, hfails⟩ := exists_of_mapM_eq_error hrun
      obtain ⟨answer, hanswer⟩ := h item hitem
      cases hfails.symm.trans hanswer

end

/-! ## Reading a row -/

/-- A failure tells that a column has a value of another type, or a text that is not in UTF-8. -/
def StoreError.IsUnread (error : StoreError) : Prop :=
  ∃ index, (∃ defect, error = .garbled index defect) ∨
    ∃ kind, error = .mistyped kind index (sampleColumns.getD index "")

/-- The cells of a row keep the values of a sample. Negative numbers stand for 0 in those columns of
which a sample has the number without a sign. -/
structure GraphRow.ReadsAs (row : GraphRow) (sample : Sample) : Prop where
  entryDate : row.entryDate = sample.entryDate
  cpu : row.cpu.real? = some sample.cpu
  population : row.population = sample.population
  platform : row.platformPing.integer?.map unsigned = some sample.latencies.platform
  internal : row.internalPing.integer?.map unsigned = some sample.latencies.internal
  database : row.databasePing.integer?.map unsigned = some sample.latencies.database
  kicks : row.kicks.integer?.map unsigned = some sample.kicks
  commands : row.commands.integer?.map unsigned = some sample.commands
  questionsAsked : row.questionsAsked = .integer sample.questionsAsked
  questionCount : row.questionCount = .integer sample.questionCount

section

variable {α : Type} {row : GraphRow} {sample : Sample}

private theorem Cell.readAs_eq_ok_iff {type? : Cell → Option α} {index : Nat} {cell : Cell}
    {value : α} :
    cell.readAs type? index = .ok value ↔ type? cell = some value := by
  unfold Cell.readAs
  cases type? cell <;> simp

/-- Only an integer is read as one. -/
theorem Cell.integer?_eq_some_iff {cell : Cell} {n : Int64} :
    cell.integer? = some n ↔ cell = .integer n := by
  cases cell <;> simp [Cell.integer?]

/-- A number without a sign is read of a whole number. -/
theorem Cell.exists_integer {cell : Cell} {n : UInt64} (h : cell.integer?.map unsigned = some n) :
    ∃ value, cell = .integer value ∧ unsigned value = n := by
  obtain ⟨value, hvalue, hread⟩ := Option.map_eq_some_iff.mp h
  exact ⟨value, integer?_eq_some_iff.mp hvalue, hread⟩

/-- A row is read as the sample whose values its cells keep. -/
theorem GraphRow.read_eq_ok_iff : row.read = .ok sample ↔ row.ReadsAs sample := by
  obtain ⟨id, date, cpu, ⟨users, servers, channels, memory, games⟩, platform, internal, database,
    kicks, commands, asked, count⟩ := row
  simp only [GraphRow.read, bind_eq_ok_iff, Octets.read_eq_ok_iff, Cell.readInteger,
    Cell.readAs_eq_ok_iff, Cell.integer?_eq_some_iff, pure, Except.pure, Except.ok.injEq]
  constructor
  · rintro ⟨_, rfl, _, hcpu, _, rfl, _, rfl, _, rfl, _, rfl, _, rfl, _, rfl, _, rfl, _, rfl, _, rfl,
      _, rfl, _, rfl, _, rfl, rfl⟩
    exact ⟨rfl, hcpu, rfl, rfl, rfl, rfl, rfl, rfl, rfl, rfl⟩
  · rintro ⟨hdate, hcpu, hpopulation, hplatform, hinternal, hdatabase, hkicks, hcommands, hasked,
      hcount⟩
    obtain ⟨rfl, rfl, rfl, rfl, rfl⟩ := PopulationCells.mk.inj hpopulation
    obtain ⟨platform, hplatform, hplatformRead⟩ := Cell.exists_integer hplatform
    obtain ⟨internal, hinternal, hinternalRead⟩ := Cell.exists_integer hinternal
    obtain ⟨database, hdatabase, hdatabaseRead⟩ := Cell.exists_integer hdatabase
    obtain ⟨kicks, hkicks, hkicksRead⟩ := Cell.exists_integer hkicks
    obtain ⟨commands, hcommands, hcommandsRead⟩ := Cell.exists_integer hcommands
    refine ⟨_, hdate, _, hcpu, _, rfl, _, rfl, _, rfl, _, rfl, _, rfl, _, hplatform, _, hinternal,
      _, hdatabase, _, hkicks, _, hcommands, _, hasked, _, hcount, ?_⟩
    rw [hplatformRead, hinternalRead, hdatabaseRead, hkicksRead, hcommandsRead]

private theorem Octets.isUnread_of_read {octets : Octets} {index : Nat} :
    ∀ error, octets.read index = .error error → error.IsUnread := by
  intro error h
  cases octets with
  | blob bytes => exact ⟨index, .inr ⟨_, (Except.error.inj h).symm⟩⟩
  | text bytes =>
    unfold Octets.read at h
    dsimp only at h
    split at h
    · cases h
    · exact ⟨index, .inl ⟨_, (Except.error.inj h).symm⟩⟩

private theorem Cell.isUnread_of_readAs {type? : Cell → Option α} {index : Nat} {cell : Cell} :
    ∀ error, cell.readAs type? index = .error error → error.IsUnread := by
  intro error h
  unfold Cell.readAs at h
  split at h
  · cases h
  · exact ⟨index, .inr ⟨_, (Except.error.inj h).symm⟩⟩

/-- What is not read has a column with a value of another type. -/
theorem GraphRow.isUnread_of_read : ∀ error, row.read = .error error → error.IsUnread := by
  unfold GraphRow.read
  refine of_bind_eq_error Octets.isUnread_of_read fun _ ↦ ?_
  repeat refine of_bind_eq_error Cell.isUnread_of_readAs fun _ ↦ ?_
  nofun

end

/-! ## Samples that were written -/

/-- A number is read with its value, or as 0 if that is negative. -/
theorem toNat_unsigned (n : Int64) : ((unsigned n).toNat : Int) = max 0 n.toInt := by
  unfold unsigned
  by_cases hneg : n < 0
  · have hlt : n.toInt < 0 := Int64.lt_iff_toInt_lt.mp hneg
    rw [if_pos hneg, Int.max_eq_left (Int.le_of_lt hlt)]
    rfl
  · have hle : 0 ≤ n.toInt := Int.not_lt.mp fun h ↦ hneg (Int64.lt_iff_toInt_lt.mpr h)
    rw [if_neg hneg, Int.max_eq_right hle, Int64.toNat_toUInt64_of_le (Int64.not_lt.mp hneg),
      ← Int64.toNat_toInt, Int.toNat_of_nonneg hle]

/-- A number without a sign as it is read back. -/
def readBack (n : UInt64) : UInt64 := if n.toNat < 2 ^ 63 then n else 0

/-- Half of the numbers without a sign are read back as 0. -/
theorem unsigned_toInt64 (n : UInt64) : unsigned n.toInt64 = readBack n := by
  have hvalue : n.toInt64.toInt = n.toBitVec.toInt := rfl
  have hbits : n.toBitVec.toNat = n.toNat := rfl
  have hbound := n.toNat_lt
  unfold readBack
  by_cases hsmall : n.toNat < 2 ^ 63
  · rw [if_pos hsmall]
    refine if_neg fun hneg ↦ ?_
    have hlt : n.toInt64.toInt < 0 := Int64.lt_iff_toInt_lt.mp hneg
    rw [hvalue, BitVec.toInt_eq_toNat_of_lt (by omega)] at hlt
    omega
  · rw [if_neg hsmall]
    refine if_pos (Int64.lt_iff_toInt_lt.mpr ?_)
    change n.toInt64.toInt < 0
    rw [hvalue, BitVec.toInt_eq_toNat_cond, if_neg (by omega)]
    omega

/-- A sample as it is read back. -/
def kept (sample : Sample) : Sample where
  entryDate := sample.entryDate
  cpu := if sample.cpu = .negativeZero then .zero else sample.cpu
  population := sample.population
  latencies := ⟨readBack sample.latencies.platform, readBack sample.latencies.internal,
    readBack sample.latencies.database⟩
  kicks := readBack sample.kicks
  commands := readBack sample.commands
  questionsAsked := sample.questionsAsked
  questionCount := sample.questionCount

/-- The row of a sample is read as it is kept. -/
theorem read_ofSample (id : Nat) (sample : Sample) :
    (GraphRow.ofSample id sample).read = .ok (kept sample) := by
  have hread (n : UInt64) :
      (Cell.integer n.toInt64).integer?.map unsigned = some (readBack n) :=
    congrArg some (unsigned_toInt64 n)
  exact GraphRow.read_eq_ok_iff.mpr
    ⟨rfl, rfl, rfl, hread _, hread _, hread _, hread _, hread _, rfl, rfl⟩

/-- The sample that a row keeps, of no meaning if the row cannot be read. -/
def GraphRow.sample (row : GraphRow) : Sample := row.read.toOption.getD default

/-- A row that is read as a sample has that sample. -/
theorem GraphRow.sample_eq {row : GraphRow} {sample : Sample} (h : row.read = .ok sample) :
    row.sample = sample := by
  rw [GraphRow.sample, h]
  rfl

/-- The row of a sample has that sample as it is kept. -/
theorem sample_ofSample (id : Nat) (sample : Sample) :
    (GraphRow.ofSample id sample).sample = kept sample :=
  GraphRow.sample_eq (read_ofSample id sample)

/-- A row is legible if it can be read. -/
def GraphRow.IsLegible (row : GraphRow) : Prop := row.read = .ok row.sample

/-- A row that is read as some sample is legible. -/
theorem GraphRow.isLegible_of_read {row : GraphRow} {sample : Sample} (h : row.read = .ok sample) :
    row.IsLegible := by
  rw [IsLegible, sample_eq h, h]

/-- The date of a legible row is that of its sample. -/
theorem GraphRow.IsLegible.entryDate_eq {row : GraphRow} (h : row.IsLegible) :
    row.entryDate = Octets.ofString row.sample.entryDate :=
  (GraphRow.read_eq_ok_iff.mp h).entryDate

/-- A sample can be kept as it is: its load is not the negative zero, and its numbers without a sign
are below 2^63. -/
structure Storable (sample : Sample) : Prop where
  cpu : sample.cpu ≠ .negativeZero
  platform : sample.latencies.platform.toNat < 2 ^ 63
  internal : sample.latencies.internal.toNat < 2 ^ 63
  database : sample.latencies.database.toNat < 2 ^ 63
  kicks : sample.kicks.toNat < 2 ^ 63
  commands : sample.commands.toNat < 2 ^ 63

/-- Such a sample is read back as it was. -/
theorem Storable.kept_eq {sample : Sample} (h : Storable sample) : kept sample = sample := by
  simp only [kept, readBack, if_neg h.cpu, if_pos h.platform, if_pos h.internal, if_pos h.database,
    if_pos h.kicks, if_pos h.commands]

end BotOps.Store
