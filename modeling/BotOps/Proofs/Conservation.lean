import BotOps.Proofs.Billing.Paging
import BotOps.Proofs.Metrics.Sampler

/-!
# Where the questions go

The bot, the jobs and other programs work on one store in any order. A ledger tells what each of
them did to the questions asked: the bot adds some, and others are taken or go into samples. No
question is lost and none is counted twice: `history_conserves`.
-/

namespace BotOps.Questions

open BotOps.Billing BotOps.Config BotOps.Metrics BotOps.Store BotOps.Time

/-- What the jobs ask of the store. -/
inductive Query where
  | questionsAsked
  | credit (subscriptionId : String)
  | countCredits
  | aggregate
  | shardSummary
  | questionBankSize
  | latestSample
  | listSamples
  | appliedMigrations
deriving DecidableEq, Repr

/-- A query, the answer to which does not matter here. -/
def Query.operation : Query → Operation Unit
  | .questionsAsked => do let _ ← Store.questionsAsked
  | .credit subscriptionId => do let _ ← credit? subscriptionId
  | .countCredits => do let _ ← Store.countCredits
  | .aggregate => do let _ ← Store.aggregate
  | .shardSummary => do let _ ← Store.shardSummary
  | .questionBankSize => do let _ ← Store.questionBankSize
  | .latestSample => do let _ ← Store.latestSample
  | .listSamples => do let _ ← Store.listSamples
  | .appliedMigrations => do let _ ← Store.appliedMigrations

/-- What somebody does to the store. -/
inductive Act (σ : Type) where
  | increment (more : Int64)
  | take
  | record (sample : Sample)
  /-- One run of the sampler. -/
  | measure (settings : Sampling) (probes : Probes σ) (clock : Clock)
  | insert (sample : Sample)
  | prune (cutoff : Instant)
  | reconcile (planId : String) (now : Instant) (source : Source σ)
  | migrate
  | read (query : Query)
  /-- Whatever another program does, as long as it spares the counter. -/
  | other (change : Store → Store) (spares : ∀ store, (change store).counters = store.counters)

/-- Where questions came from and where they went. -/
structure Ledger where
  /-- Questions added by increments that succeeded. -/
  added : Int
  /-- Questions given by takes that succeeded. -/
  taken : Int
  /-- Questions in the samples given by records and by runs of the sampler. -/
  sampled : Int
  /-- Runs of the sampler that were cut short and neither succeeded nor failed. -/
  broken : Nat
  /-- Questions in the samples that those runs had written. -/
  stranded : Int
deriving DecidableEq, Repr

namespace Ledger

instance : Zero Ledger := ⟨⟨0, 0, 0, 0, 0⟩⟩

instance : Add Ledger where
  add a b := ⟨a.added + b.added, a.taken + b.taken, a.sampled + b.sampled, a.broken + b.broken,
    a.stranded + b.stranded⟩

/-- Questions are added to the counter. -/
def adding (questions : Int) : Ledger := ⟨questions, 0, 0, 0, 0⟩

/-- Questions are taken from the counter. -/
def taking (questions : Int) : Ledger := ⟨0, questions, 0, 0, 0⟩

/-- Questions go from the counter into a sample. -/
def sampling (questions : Int) : Ledger := ⟨0, 0, questions, 0, 0⟩

/-- A run of the sampler is cut short behind the samples that it had written. -/
def breaking (questions : Int) : Ledger := ⟨0, 0, 0, 1, questions⟩

/-- By how much a ledger changes the counter. -/
def balance (ledger : Ledger) : Int :=
  ledger.added - ledger.taken - ledger.sampled - ledger.stranded

@[simp] private theorem balance_zero : (0 : Ledger).balance = 0 := rfl

@[simp] private theorem balance_adding (questions : Int) :
    (adding questions).balance = questions := by
  simp [balance, adding]

@[simp] private theorem balance_taking (questions : Int) :
    (taking questions).balance = -questions := by
  simp [balance, taking]

@[simp] private theorem balance_sampling (questions : Int) :
    (sampling questions).balance = -questions := by
  simp [balance, sampling]

@[simp] private theorem balance_breaking (questions : Int) :
    (breaking questions).balance = -questions := by
  simp [balance, breaking]

@[simp] private theorem balance_add (a b : Ledger) : (a + b).balance = a.balance + b.balance := by
  change (a.added + b.added) - (a.taken + b.taken) - (a.sampled + b.sampled) -
    (a.stranded + b.stranded) = _
  unfold balance
  omega

end Ledger

/-- The rows of the graph table of a store. -/
def graphRows (store : Store) : List GraphRow := (store.graphs.map GraphTable.rows).getD []

/-- The questions in some rows; what is no whole number counts none. -/
def questionsIn (rows : List GraphRow) : Int :=
  rows.foldr (fun row rest ↦ row.questionsAsked.integer?.elim 0 Int64.toInt + rest) 0

/-- The questions in the rows that one store has behind those of another. -/
def strandedIn (before after : Store) : Int :=
  questionsIn ((graphRows after).drop (graphRows before).length)

section

variable {σ α : Type}

/-- Performs an operation, and enters its answer into the ledger if it succeeds. -/
def settle (operation : Operation α) (entry : α → Ledger) (setting : Setting σ) :
    Ledger × Setting σ :=
  match operation.run setting.store with
  | (.ok answer, store) => (entry answer, { setting with store })
  | (.error _, store) => (0, { setting with store })

/-- An operation that is entered in the ledger changes the store as it does by itself. -/
theorem store_settle (operation : Operation α) (entry : α → Ledger) (setting : Setting σ) :
    (settle operation entry setting).2.store = (operation.run setting.store).2 := by
  unfold settle
  rcases operation.run setting.store with ⟨error | answer, store⟩ <;> rfl

/-- What a run of the sampler enters into the ledger. -/
def entryOf (before after : Store) : Except Halt Report → Ledger
  | .ok report => .sampling report.sample.questionsAsked.toInt
  | .error (.failed _) => 0
  | .error _ => .breaking (strandedIn before after)

/-- What an act enters into the ledger, and what it makes of what it works on. -/
def Act.perform (act : Act σ) (setting : Setting σ) : Ledger × Setting σ :=
  match act with
  | .increment more =>
    settle (incrementQuestionsAsked more) (fun _ ↦ .adding more.toInt) setting
  | .take => settle takeQuestionsAsked (fun asked ↦ .taking asked.toInt) setting
  | .record sample =>
    settle (recordSample sample) (fun sample ↦ .sampling sample.questionsAsked.toInt) setting
  | .measure settings probes clock =>
    let (result, final) := (run settings probes clock).run setting
    (entryOf setting.store final.store result, final)
  | .insert sample => settle (insertSample sample) (fun _ ↦ 0) setting
  | .prune cutoff => settle (pruneSamples cutoff) (fun _ ↦ 0) setting
  | .reconcile planId now source => (0, ((Billing.reconcile planId now source).run setting).2)
  | .migrate => settle Store.migrate (fun _ ↦ 0) setting
  | .read query => settle query.operation (fun _ ↦ 0) setting
  | .other change _ => (0, { setting with store := change setting.store })

/-- What acts enter into the ledger one after the other, and what they make of what they work on. -/
def history : List (Act σ) → Setting σ → Ledger × Setting σ
  | [], setting => (0, setting)
  | act :: acts, setting =>
    let (first, next) := act.perform setting
    let (later, final) := history acts next
    (first + later, final)

variable {n : Int64}

/-- A query keeps everything. -/
theorem keeps_query {P : Store → Prop} (query : Query) : Keeps P query.operation := by
  cases query with
  | questionsAsked => exact .bind (keeps_execute Statement.keeps_questionsAsked) fun _ ↦ .pure _
  | credit subscriptionId => exact .bind (keeps_credit? subscriptionId) fun _ ↦ .pure _
  | countCredits => exact .bind keeps_countCredits fun _ ↦ .pure _
  | aggregate => exact .bind keeps_aggregate fun _ ↦ .pure _
  | shardSummary => exact .bind keeps_shardSummary fun _ ↦ .pure _
  | questionBankSize => exact .bind keeps_questionBankSize fun _ ↦ .pure _
  | latestSample => exact .bind keeps_latestSample fun _ ↦ .pure _
  | listSamples => exact .bind keeps_listSamples fun _ ↦ .pure _
  | appliedMigrations => exact .bind keeps_appliedMigrations fun _ ↦ .pure _

/-- An act enters into the ledger what it does to the counter. -/
def Conserves (n : Int64) (outcome : Ledger × Setting σ) : Prop :=
  ∃ m, HasCounter m outcome.2.store ∧ m.toInt = n.toInt + outcome.1.balance

/-- Setting the counter to 0 conserves the questions if the whole count is entered. -/
theorem conserves_of_emptied {outcome : Ledger × Setting σ} (h : HasCounter 0 outcome.2.store)
    (hbalance : outcome.1.balance = -n.toInt) : Conserves n outcome := by
  refine ⟨0, h, ?_⟩
  rw [hbalance, Int64.toInt_zero]
  omega

/-- What keeps the counter and enters nothing conserves the questions. -/
theorem conserves_settle_of_keeps {operation : Operation α}
    (hkeeps : Keeps (HasCounter n) operation) {setting : Setting σ}
    (h : HasCounter n setting.store) :
    Conserves n (settle operation (fun _ ↦ 0) setting) := by
  have hstore := hkeeps setting.store h
  unfold settle
  cases hrun : operation.run setting.store with
  | mk result store =>
  rw [hrun] at hstore
  cases result <;> exact ⟨n, hstore, by simp⟩

/-- An increment conserves the questions as long as the counter does not leave the range. -/
theorem conserves_increment (more : Int64) {setting : Setting σ} (h : HasCounter n setting.store)
    (hrange : InRange (n.toInt +
      (settle (incrementQuestionsAsked more) (fun _ ↦ .adding more.toInt) setting).1.balance)) :
    Conserves n (settle (incrementQuestionsAsked more) (fun _ ↦ .adding more.toInt) setting) := by
  unfold settle at hrange ⊢
  rw [run_incrementQuestionsAsked h] at hrange ⊢
  cases hrefusal : setting.store.refusal? .update .counters none true none with
  | some error => exact ⟨n, h, by simp⟩
  | none =>
    simp only [hrefusal, Ledger.balance_adding] at hrange
    obtain ⟨sum, hadd, hvalue⟩ := addExact?_eq_some hrange
    refine ⟨sum, ?_, by simp [hvalue]⟩
    simp [HasCounter, Tally.add, hadd]

/-- Taking the counter conserves the questions. -/
theorem conserves_take {setting : Setting σ} (h : HasCounter n setting.store) :
    Conserves n (settle takeQuestionsAsked (fun asked ↦ .taking asked.toInt) setting) := by
  unfold settle
  rw [run_takeQuestionsAsked h, run_takeWithin h]
  cases setting.store.refusal? .update .counters none true none with
  | some error => exact ⟨n, h, by simp⟩
  | none => exact conserves_of_emptied rfl (Ledger.balance_taking _)

/-- Recording a sample conserves the questions. -/
theorem conserves_record (sample : Sample) {setting : Setting σ} (h : HasCounter n setting.store) :
    Conserves n (settle (recordSample sample)
      (fun sample ↦ .sampling sample.questionsAsked.toInt) setting) := by
  unfold settle
  rcases h.recordSample_cases sample with ⟨error, hrun⟩ | ⟨table, -, hrun⟩
  · rw [hrun]
    exact ⟨n, h, by simp⟩
  · rw [hrun]
    exact conserves_of_emptied rfl (Ledger.balance_sampling _)

/-- A run of the sampler conserves the questions, also if it fails or is cut short. -/
theorem conserves_measure (settings : Sampling) (probes : Probes σ) (clock : Clock)
    {setting : Setting σ} (h : HasCounter n setting.store) :
    Conserves n ((Act.measure settings probes clock).perform setting) := by
  rw [Act.perform]
  rcases run_cases settings probes clock h with ⟨report, final, hrun, hasked, hcounter⟩ |
    ⟨halt, final, hrun, hstore⟩ | ⟨final, sample, table, hrun, hcounter, hbefore, hafter⟩
  · rw [hrun]
    exact conserves_of_emptied hcounter (by simp [entryOf, hasked])
  · rw [hrun]
    have hsame : HasCounter n final.store := hstore ▸ h
    have hnone : strandedIn setting.store final.store = 0 := by
      simp [strandedIn, questionsIn, hstore]
    refine ⟨n, hsame, ?_⟩
    cases halt <;> simp [entryOf, hnone]
  · rw [hrun]
    have hone : strandedIn setting.store final.store = n.toInt := by
      simp [strandedIn, questionsIn, graphRows, hbefore, hafter, GraphTable.append,
        GraphRow.ofSample, Cell.integer?]
    exact conserves_of_emptied hcounter (by simp [entryOf, hone])

/-- Every act conserves the questions as long as the counter does not leave the range. -/
theorem Act.conserves (act : Act σ) {setting : Setting σ} (h : HasCounter n setting.store)
    (hrange : InRange (n.toInt + (act.perform setting).1.balance)) :
    Conserves n (act.perform setting) := by
  cases act with
  | increment more => exact conserves_increment more h hrange
  | take => exact conserves_take h
  | record sample => exact conserves_record sample h
  | measure settings probes clock => exact conserves_measure settings probes clock h
  | insert sample => exact conserves_settle_of_keeps (keeps_insertSample (fun _ _ h ↦ h) sample) h
  | prune cutoff => exact conserves_settle_of_keeps (keeps_pruneSamples (fun _ _ h ↦ h) cutoff) h
  | reconcile planId now source =>
    obtain ⟨credits, hstore⟩ := reconcile_frame planId now source setting
    refine ⟨n, ?_, by simp [Act.perform]⟩
    change ((Billing.reconcile planId now source).run setting).2.store.counters = _
    rw [hstore]
    exact h
  | migrate => exact conserves_settle_of_keeps keeps_migrate h
  | read query => exact conserves_settle_of_keeps (keeps_query query) h
  | other change spares => exact ⟨n, (spares setting.store).trans h, by simp [Act.perform]⟩

private theorem stranded_settle {operation : Operation α} {entry : α → Ledger}
    (h : ∀ answer, (entry answer).stranded = 0) (setting : Setting σ) :
    (settle operation entry setting).1.stranded = 0 := by
  unfold settle
  split
  · exact h _
  · rfl

/-- Only a run that is cut short strands questions. -/
theorem Act.stranded_eq_zero (act : Act σ) (setting : Setting σ)
    (h : (act.perform setting).1.broken = 0) : (act.perform setting).1.stranded = 0 := by
  cases act with
  | measure settings probes clock =>
    rw [Act.perform] at h ⊢
    generalize (run settings probes clock).run setting = outcome at h ⊢
    rcases outcome with ⟨(- | - | -) | report, final⟩
    · rfl
    · cases h
    · cases h
    · rfl
  | reconcile | other => rfl
  | _ => exact stranded_settle (fun _ ↦ rfl) setting

/-- The counter changes by what the ledger says, and only runs that are cut short strand questions,
whatever is done in whatever order. -/
theorem conserves_history (acts : List (Act σ)) {n : Int64} {setting : Setting σ}
    (h : HasCounter n setting.store)
    (hrange : ∀ k ≤ acts.length, InRange (n.toInt + (history (acts.take k) setting).1.balance)) :
    Conserves n (history acts setting) := by
  induction acts generalizing n setting with
  | nil => exact ⟨n, h, by simp [history]⟩
  | cons act acts ih =>
    have hone := hrange 1 (by simp)
    simp only [List.take_succ_cons, List.take_zero, history, Ledger.balance_add,
      Ledger.balance_zero, Int.add_zero] at hone
    obtain ⟨middle, hmiddle, hfirst⟩ := act.conserves h hone
    obtain ⟨m, hm, hlater⟩ := ih hmiddle fun k hk ↦ by
      have hnext := hrange (k + 1) (by simpa using hk)
      simp only [List.take_succ_cons, history, Ledger.balance_add] at hnext
      rwa [hfirst, Int.add_assoc]
    refine ⟨m, hm, ?_⟩
    simp only [history, Ledger.balance_add]
    omega

private theorem history_stranded (acts : List (Act σ)) (setting : Setting σ)
    (h : (history acts setting).1.broken = 0) : (history acts setting).1.stranded = 0 := by
  induction acts generalizing setting with
  | nil => rfl
  | cons act acts ih =>
    have hbroken : (act.perform setting).1.broken +
        (history acts (act.perform setting).2).1.broken = 0 := h
    have hfirst := act.stranded_eq_zero setting (by omega)
    have hlater := ih (act.perform setting).2 (by omega)
    change (act.perform setting).1.stranded +
      (history acts (act.perform setting).2).1.stranded = 0
    omega

end

/-- Whatever is done in whatever order, as long as the counter does not leave the range: the count
at the start and the questions added since are the count at the end, the questions taken and those
in the samples that were given. Only a run of the sampler that is cut short by the calendar leaves
questions elsewhere, in a sample that it wrote but did not give. A record or a run that fails leaves
the store, and with it the counter, as it was. -/
theorem history_conserves {σ : Type} (n : Int64) (setting : Setting σ)
    (start : HasCounter n setting.store) :
    (∀ acts : List (Act σ),
      (∀ k ≤ acts.length, InRange (n.toInt + (history (acts.take k) setting).1.balance)) →
      ∃ m, HasCounter m (history acts setting).2.store ∧
        n.toInt + (history acts setting).1.added =
          m.toInt + (history acts setting).1.taken + (history acts setting).1.sampled +
            (history acts setting).1.stranded ∧
        ((history acts setting).1.broken = 0 → (history acts setting).1.stranded = 0)) ∧
    (∀ sample error after, (recordSample sample).run setting.store = (.error error, after) →
      after = setting.store) ∧
    ∀ settings probes clock failure final,
      (run settings probes clock).run setting = (.error (.failed failure), final) →
      final.store = setting.store := by
  refine ⟨fun acts hrange ↦ ?_, fun sample error after hrun ↦ ?_,
    fun settings probes clock failure final hrun ↦ ?_⟩
  · obtain ⟨m, hm, hbalance⟩ := conserves_history acts start hrange
    refine ⟨m, hm, ?_, history_stranded acts setting⟩
    rw [hbalance]
    unfold Ledger.balance
    omega
  · rcases start.recordSample_cases sample with ⟨_, hcase⟩ | ⟨table, -, hcase⟩
    · exact (Prod.mk.inj (hrun.symm.trans hcase)).2
    · exact absurd (Prod.mk.inj (hrun.symm.trans hcase)).1 (by simp)
  · rcases run_cases settings probes clock start with ⟨report, _, hcase, -⟩ |
      ⟨halt, _, hcase, hstore⟩ | ⟨_, sample, table, hcase, -⟩
    · exact absurd (Prod.mk.inj (hrun.symm.trans hcase)).1 (by simp)
    · rw [(Prod.mk.inj (hrun.symm.trans hcase)).2, hstore]
    · exact absurd (Prod.mk.inj (hrun.symm.trans hcase)).1 (by simp)

/-- A store with nothing in it but what the migrations make. -/
def freshStore : Store := (Store.migrate.run Store.empty).2

/-- A sample with a load. -/
def sampleOf (load : Double) : Sample :=
  ⟨"2024-01-15 00:00:00", load, .none, .none, 0, 0, 0, 0⟩

/-- Probes that all fail. -/
def deadProbes : Probes Unit where
  load _ := pure (.error (.service (.reported "no answer")))
  platform := pure (.error (.service (.reported "no answer")))
  internal := pure (.error (.service (.reported "no answer")))
  database := 0
  log _ := .error .missing

/-- Samples are written, taken between and refused: for a load that is no number and for want of the
graph table. -/
def busyDay : List (Act Unit) :=
  [.increment 5, .record (sampleOf ⟨0x7ff8000000000000⟩),
    .measure { Sampling.default with environment := .local, processPattern := "bot" } deadProbes
      default,
    .increment 7, .take, .increment 2, .migrate,
    .other (fun store ↦ { store with graphs := none }) (fun _ ↦ rfl), .record (sampleOf .zero),
    .read .questionsAsked]

/-- On a busy day five questions go into a sample, seven are taken and two are left. -/
theorem history_conserves_busyDay :
    HasCounter 0 freshStore ∧
    (history busyDay ⟨freshStore, [], ()⟩).1 = ⟨14, 7, 5, 0, 0⟩ ∧
    ∃ m, HasCounter m (history busyDay ⟨freshStore, [], ()⟩).2.store ∧
      (14 : Int) = m.toInt + 7 + 5 := by
  have hstart : HasCounter 0 freshStore := by decide +kernel
  have hledger : (history busyDay ⟨freshStore, [], ()⟩).1 = ⟨14, 7, 5, 0, 0⟩ := by decide +kernel
  have hrange : ∀ k ≤ busyDay.length,
      InRange ((0 : Int64).toInt + (history (busyDay.take k) ⟨freshStore, [], ()⟩).1.balance) := by
    decide +kernel
  obtain ⟨m, hm, hsum, -⟩ := (history_conserves 0 ⟨freshStore, [], ()⟩ hstart).1 busyDay hrange
  rw [hledger] at hsum
  exact ⟨hstart, hledger, m, hm, by simpa using hsum⟩

end BotOps.Questions
