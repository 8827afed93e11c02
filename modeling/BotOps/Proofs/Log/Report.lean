import BotOps.Log.Line
import BotOps.Proofs.Text.Ranges
import Mathlib.Data.List.TakeWhile

/-!
# What a line reports

A report is found wherever it stands in its line. The search takes the longest run of digits, and
what is written behind a number begins with no digit, so a line reports just what it can be read as:
`report?_iff`.
-/

namespace BotOps.Log

open BotOps.Text

/-- One or more characters of general category Nd. -/
def IsNumber (digits : List Char) : Prop :=
  digits ≠ [] ∧ ∀ c ∈ digits, decimalDigits.contains c = true

private theorem isNumber_iff {digits : List Char} :
    IsNumber digits ↔ digits ≠ [] ∧ ∀ c ∈ digits, isDecimalDigit c = true := by
  simp only [IsNumber, isDecimalDigit_eq_contains]

/-- The report of a kick with a number for the guild stands somewhere in a line. -/
def TellsKick (line : List Char) : Prop :=
  ∃ before guild behind, IsNumber guild ∧
    line = before ++ "Guild ".toList ++ guild ++
      " deleted (bot kicked?), removing active game states".toList ++ behind

/-- The report of a command with a number for the user and one for the guild stands somewhere in a
line. -/
def TellsCommand (line : List Char) : Prop :=
  ∃ before user guild behind, IsNumber user ∧ IsNumber guild ∧
    line = before ++ "CMD (USER=".toList ++ user ++ ", GUILD=".toList ++ guild ++
      "):".toList ++ behind

section

variable {literal text rest : List Char}

/-- Looking anywhere in a text looks at what stands behind each of its fronts. -/
theorem anywhere_iff {p : List Char → Bool} :
    anywhere p text = true ↔ ∃ before rest, text = before ++ rest ∧ p rest = true := by
  induction text with
  | nil =>
    constructor
    · intro h
      exact ⟨[], [], rfl, h⟩
    · rintro ⟨before, rest, hsplit, h⟩
      obtain ⟨-, rfl⟩ := List.append_eq_nil_iff.mp hsplit.symm
      exact h
  | cons c text ih =>
    rw [anywhere, Bool.or_eq_true, ih]
    constructor
    · rintro (h | ⟨before, rest, rfl, h⟩)
      · exact ⟨[], c :: text, rfl, h⟩
      · exact ⟨c :: before, rest, rfl, h⟩
    · rintro ⟨before, rest, hsplit, h⟩
      cases before with
      | nil =>
        obtain rfl : c :: text = rest := hsplit
        exact .inl h
      | cons d before =>
        obtain ⟨rfl, rfl⟩ := List.cons.inj hsplit
        exact .inr ⟨before, rest, rfl, h⟩

/-- A number is read up to its last digit, as what is written behind it begins with none. -/
theorem digitsThen_eq_some_iff (h : literal.head?.map isDecimalDigit = some false) :
    digitsThen literal text = some rest ↔
      ∃ number, IsNumber number ∧ text = number ++ (literal ++ rest) := by
  unfold digitsThen
  constructor
  · intro hread
    split at hread
    · cases hread
    · next digits hdigits =>
      have hnumber : IsNumber (text.takeWhile isDecimalDigit) :=
        isNumber_iff.mpr ⟨hdigits, fun c hc ↦ List.mem_takeWhile_imp hc⟩
      refine ⟨_, hnumber, ?_⟩
      rw [List.isPrefixOf?_eq_some_iff_append_eq.mp hread]
      exact (List.prefix_iff_eq_append.mp (List.takeWhile_prefix _)).symm
  · rintro ⟨number, hnumber, rfl⟩
    obtain ⟨hne, hdigits⟩ := isNumber_iff.mp hnumber
    obtain ⟨c, more, rfl⟩ : ∃ c more, literal = c :: more := by
      cases literal with
      | nil => cases h
      | cons c more => exact ⟨c, more, rfl⟩
    have hc : isDecimalDigit c = false := Option.some.inj h
    have htake : (number ++ (c :: more ++ rest)).takeWhile isDecimalDigit = number := by
      rw [List.takeWhile_append_of_pos hdigits, List.cons_append, List.takeWhile_cons, hc]
      exact List.append_nil number
    rw [htake]
    split
    · next hnil => exact absurd rfl hne
    · rw [List.drop_left, List.isPrefixOf?_eq_some_iff_append_eq]

private theorem beginsKick_iff :
    beginsKick text = true ↔ ∃ guild behind, IsNumber guild ∧
      text = "Guild ".toList ++
        (guild ++ (" deleted (bot kicked?), removing active game states".toList ++ behind)) := by
  have hliteral : " deleted (bot kicked?), removing active game states".toList.head?.map
      isDecimalDigit = some false := by decide
  simp only [beginsKick, Option.isSome_iff_exists, Option.bind_eq_bind, Option.bind_eq_some_iff,
    List.isPrefixOf?_eq_some_iff_append_eq, digitsThen_eq_some_iff hliteral]
  constructor
  · rintro ⟨behind, rest, rfl, guild, hguild, rfl⟩
    exact ⟨guild, behind, hguild, rfl⟩
  · rintro ⟨guild, behind, hguild, rfl⟩
    exact ⟨behind, _, rfl, guild, hguild, rfl⟩

private theorem beginsCommand_iff :
    beginsCommand text = true ↔ ∃ user guild behind, IsNumber user ∧ IsNumber guild ∧
      text = "CMD (USER=".toList ++
        (user ++ (", GUILD=".toList ++ (guild ++ ("):".toList ++ behind)))) := by
  have huser : ", GUILD=".toList.head?.map isDecimalDigit = some false := by decide
  have hguild : "):".toList.head?.map isDecimalDigit = some false := by decide
  simp only [beginsCommand, Option.isSome_iff_exists, Option.bind_eq_bind,
    Option.bind_eq_some_iff, List.isPrefixOf?_eq_some_iff_append_eq, digitsThen_eq_some_iff huser,
    digitsThen_eq_some_iff hguild]
  constructor
  · rintro ⟨behind, more, ⟨rest, rfl, user, huser, rfl⟩, guild, hguild, rfl⟩
    exact ⟨user, guild, behind, huser, hguild, rfl⟩
  · rintro ⟨user, guild, behind, huser, hguild, rfl⟩
    exact ⟨behind, _, ⟨_, rfl, user, huser, rfl⟩, guild, hguild, rfl⟩

end

private theorem anywhere_beginsKick_iff (line : List Char) :
    anywhere beginsKick line = true ↔ TellsKick line := by
  simp only [anywhere_iff, beginsKick_iff, TellsKick, List.append_assoc]
  constructor
  · rintro ⟨before, _, rfl, guild, behind, hguild, rfl⟩
    exact ⟨before, guild, behind, hguild, rfl⟩
  · rintro ⟨before, guild, behind, hguild, rfl⟩
    exact ⟨before, _, rfl, guild, behind, hguild, rfl⟩

private theorem anywhere_beginsCommand_iff (line : List Char) :
    anywhere beginsCommand line = true ↔ TellsCommand line := by
  simp only [anywhere_iff, beginsCommand_iff, TellsCommand, List.append_assoc]
  constructor
  · rintro ⟨before, _, rfl, user, guild, behind, huser, hguild, rfl⟩
    exact ⟨before, user, guild, behind, huser, hguild, rfl⟩
  · rintro ⟨before, user, guild, behind, huser, hguild, rfl⟩
    exact ⟨before, _, rfl, user, guild, behind, huser, hguild, rfl⟩

section

variable {pattern line : List Char} {c : Char}

/-- What stands in a text with one more character stands in the text, unless it ends with this
character. -/
theorem infix_concat_iff_of_getLast? (h : ∃ last ∈ pattern.getLast?, last ≠ c) :
    pattern <:+: line ++ [c] ↔ pattern <:+: line := by
  obtain ⟨last, hlast, hne⟩ := h
  rw [List.infix_concat_iff, List.suffix_concat_iff]
  constructor
  · rintro ((rfl | ⟨front, rfl, -⟩) | hstands)
    · cases hlast
    · rw [List.getLast?_concat] at hlast
      exact absurd (Option.some.inj hlast).symm hne
    · exact hstands
  · exact .inr

/-- The report of a kick ends with a letter, so another character behind a line adds none. -/
theorem tellsKick_concat_iff (h : c ≠ 's') : TellsKick (line ++ [c]) ↔ TellsKick line := by
  have hstands (line : List Char) : TellsKick line ↔ ∃ guild, IsNumber guild ∧
      "Guild ".toList ++ guild ++
        " deleted (bot kicked?), removing active game states".toList <:+: line := by
    constructor
    · rintro ⟨before, guild, behind, hguild, rfl⟩
      exact ⟨guild, hguild, before, behind, by simp only [List.append_assoc]⟩
    · rintro ⟨guild, hguild, before, behind, rfl⟩
      exact ⟨before, guild, behind, hguild, by simp only [List.append_assoc]⟩
  have hlast (guild : List Char) : ('s' : Char) ∈ ("Guild ".toList ++ guild ++
      " deleted (bot kicked?), removing active game states".toList).getLast? := by
    rw [List.getLast?_append_of_ne_nil _ (by decide)]
    rfl
  rw [hstands, hstands]
  exact exists_congr fun guild ↦ and_congr_right fun _ ↦
    infix_concat_iff_of_getLast? ⟨'s', hlast guild, h.symm⟩

/-- The report of a command ends with a colon, so another character behind a line adds none. -/
theorem tellsCommand_concat_iff (h : c ≠ ':') :
    TellsCommand (line ++ [c]) ↔ TellsCommand line := by
  have hstands (line : List Char) : TellsCommand line ↔ ∃ user guild,
      (IsNumber user ∧ IsNumber guild) ∧
        "CMD (USER=".toList ++ user ++ ", GUILD=".toList ++ guild ++ "):".toList <:+: line := by
    constructor
    · rintro ⟨before, user, guild, behind, huser, hguild, rfl⟩
      exact ⟨user, guild, ⟨huser, hguild⟩, before, behind, by simp only [List.append_assoc]⟩
    · rintro ⟨user, guild, ⟨huser, hguild⟩, before, behind, rfl⟩
      exact ⟨before, user, guild, behind, huser, hguild, by simp only [List.append_assoc]⟩
  have hlast (user guild : List Char) : (':' : Char) ∈ ("CMD (USER=".toList ++ user ++
      ", GUILD=".toList ++ guild ++ "):".toList).getLast? := by
    rw [List.getLast?_append_of_ne_nil _ (by decide)]
    rfl
  rw [hstands, hstands]
  exact exists_congr fun user ↦ exists_congr fun guild ↦ and_congr_right fun _ ↦
    infix_concat_iff_of_getLast? ⟨':', hlast user guild, h.symm⟩

/-- A character with which no report ends changes nothing at the end of a line. -/
theorem report?_concat (hkick : c ≠ 's') (hcommand : c ≠ ':') (line : List Char) :
    report? (line ++ [c]) = report? line := by
  have hsameKick : anywhere beginsKick (line ++ [c]) = anywhere beginsKick line := by
    rw [Bool.eq_iff_iff, anywhere_beginsKick_iff, anywhere_beginsKick_iff,
      tellsKick_concat_iff hkick]
  have hsameCommand : anywhere beginsCommand (line ++ [c]) = anywhere beginsCommand line := by
    rw [Bool.eq_iff_iff, anywhere_beginsCommand_iff, anywhere_beginsCommand_iff,
      tellsCommand_concat_iff hcommand]
  rw [report?, hsameKick, hsameCommand, report?]

end

/-- A line reports a kick just if it can be read as one, whatever stands around it. Else it reports
a command just if it can be read as one, and else nothing. -/
theorem report?_iff (line : List Char) :
    (report? line = some .kick ↔ TellsKick line) ∧
      (report? line = some .command ↔ ¬ TellsKick line ∧ TellsCommand line) ∧
      (report? line = none ↔ ¬ TellsKick line ∧ ¬ TellsCommand line) := by
  simp only [← anywhere_beginsKick_iff, ← anywhere_beginsCommand_iff]
  unfold report?
  split
  · next hkick => simp [hkick]
  · next hkick =>
    split
    · next hcommand => simp [hkick, hcommand]
    · next hcommand => simp [hkick, hcommand]

/-- The guild of the second command is a number; what comes before it is read in vain. -/
example : report? "CMD (USER=1, GUILD=CMD (USER=12, GUILD=٣): Guild 4 deleted".toList =
    some .command := by
  decide +kernel

end BotOps.Log
