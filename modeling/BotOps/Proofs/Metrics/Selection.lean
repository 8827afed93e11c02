import BotOps.Config.Basic
import BotOps.Metrics.Load
import BotOps.Proofs.Pattern.Word

/-!
# The processes that count as the bot

Unless the configuration says otherwise, a process counts towards the load just if the first word of
its command line is the bot's path: `isSelected_default`. Arguments are joined by blanks, and no
blank is part of the path or of a word, so those behind the first one play no part.
-/

namespace BotOps.Metrics

open BotOps.Text

/-- The path by which the bot is called. -/
def botPath : List Char := "./bot".toList

/-- What a process is called by: its first argument, or its name if there are no arguments. -/
def RunningProcess.calledBy (process : RunningProcess) : List Char :=
  (process.arguments.headD process.name).toList

/-- A text begins with a word, and no further character of a word follows. -/
def OpensWith (word text : List Char) : Prop :=
  ∃ rest, text = word ++ rest ∧ ∀ c ∈ rest.head?, isWordChar c = false

/-- The default pattern is that of the bot's path at the start of a text. -/
theorem pattern_default : Config.Sampling.default.pattern = .ok (.openingWord botPath) := by
  have hparse : Pattern.Node.parse? Config.Sampling.defaultPattern =
      some (.openingWord botPath) := by decide +kernel
  rw [Config.Sampling.pattern, Config.Sampling.default, hparse]

/-- A command line is what the process is called by, and a blank before anything else. -/
theorem exists_toList_commandLine (process : RunningProcess) :
    ∃ tail, (commandLine process.name process.arguments).toList = process.calledBy ++ tail ∧
      ∀ c ∈ tail.head?, c = ' ' := by
  obtain ⟨name, arguments, usage⟩ := process
  unfold commandLine RunningProcess.calledBy
  cases arguments with
  | nil => exact ⟨[], (List.append_nil _).symm, by simp⟩
  | cons first others =>
    cases others with
    | nil => exact ⟨[], by simp, by simp⟩
    | cons second others =>
      refine ⟨' ' :: (" ".intercalate (second :: others)).toList, ?_, by simp⟩
      simp only [List.isEmpty_cons, Bool.false_eq_true, if_false, String.intercalate_cons_cons,
        String.toList_append, List.headD_cons, List.append_assoc]
      rfl

/-- What follows a blank plays no part in whether a text opens with a word that has no blank. -/
theorem opensWith_append_iff {word text tail : List Char} (hword : ' ' ∉ word)
    (htail : ∀ c ∈ tail.head?, c = ' ') : OpensWith word (text ++ tail) ↔ OpensWith word text := by
  constructor
  · rintro ⟨rest, hsplit, hedge⟩
    rcases List.append_eq_append_iff.mp hsplit with ⟨more, rfl, rfl⟩ | ⟨more, rfl, rfl⟩
    · cases more with
      | nil => exact ⟨[], by simp, by simp⟩
      | cons c more =>
        obtain rfl : c = ' ' := htail c rfl
        exact absurd (List.mem_append_right _ List.mem_cons_self) hword
    · refine ⟨more, rfl, fun c hc ↦ hedge c ?_⟩
      rw [List.head?_append, Option.mem_def.mp hc]
      rfl
  · rintro ⟨rest, rfl, hedge⟩
    refine ⟨rest ++ tail, List.append_assoc .., fun c hc ↦ ?_⟩
    cases rest with
    | nil =>
      obtain rfl := htail c hc
      decide +kernel
    | cons d rest => exact hedge c hc

/-- Unless the configuration says otherwise, a process is selected just if what it is called by
opens with the bot's path. Processes that are called alike are selected alike, whatever their other
arguments, and a command line with the bot's path further on only is not selected. -/
theorem isSelected_default :
    ∃ pattern, Config.Sampling.default.pattern = .ok pattern ∧
      (∀ process : RunningProcess,
        process.isSelected pattern = true ↔ OpensWith botPath process.calledBy) ∧
      (∀ process other : RunningProcess, process.calledBy = other.calledBy →
        process.isSelected pattern = other.isSelected pattern) ∧
      ∀ process : RunningProcess,
        ¬ botPath <+: (commandLine process.name process.arguments).toList →
          process.isSelected pattern = false := by
  have hfinds (text : List Char) :
      (Pattern.Node.openingWord botPath).finds text = true ↔ OpensWith botPath text :=
    Pattern.finds_openingWord ⟨'t', rfl, by decide⟩ text
  have hselected (process : RunningProcess) :
      process.isSelected (.openingWord botPath) = true ↔ OpensWith botPath process.calledBy := by
    obtain ⟨tail, hline, htail⟩ := exists_toList_commandLine process
    rw [RunningProcess.isSelected, hfinds, hline, opensWith_append_iff (by decide) htail]
  refine ⟨_, pattern_default, hselected, ?_, ?_⟩
  · intro process other hcalled
    rw [Bool.eq_iff_iff, hselected, hselected, hcalled]
  · intro process hprefix
    rw [← Bool.not_eq_true, RunningProcess.isSelected, hfinds]
    rintro ⟨rest, hsplit, -⟩
    exact hprefix ⟨rest, hsplit.symm⟩

end BotOps.Metrics
