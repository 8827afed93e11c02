import BotOps.Command.Arguments
import Mathlib.Data.List.Nodup

/-!
# Spellings of options

An option is given by its name or by its letter, with the value in an argument of its own or joined
to it, in front of the command or behind it. Both levels of arguments read such options alike
(`ReadsOptions`), so none of this makes a difference as long as no option is given twice:
`parse_given`.
-/

namespace BotOps.Command

/-- The word that names a task. -/
def Task.word : Task → String
  | .entitlements => "entitlements"
  | .graphs => "graphs"
  | .migrate => "migrate"

/-- The name of an option. -/
def Choice.name : Choice → String
  | .config => "config"
  | .logLevel => "log-level"

/-- The letter of an option. -/
def Choice.letter : Choice → Char
  | .config => 'c'
  | .logLevel => 'l'

/-- The ways to spell an option and its value. -/
inductive Spelling where
  /-- As in --config value. -/
  | name
  /-- As in --config=value. -/
  | nameEquals
  /-- As in -c value. -/
  | letter
  /-- As in -cvalue. -/
  | letterJoined
  /-- As in -c=value. -/
  | letterEquals
deriving DecidableEq, Repr

/-- An option that is given. -/
structure Given where
  choice : Choice
  spelling : Spelling
  value : String
deriving DecidableEq, Repr

namespace Given

/-- The arguments that give an option. -/
def words (given : Given) : List String :=
  match given.spelling with
  | .name => ["--" ++ given.choice.name, given.value]
  | .nameEquals => ["--" ++ given.choice.name ++ "=" ++ given.value]
  | .letter => ["-".push given.choice.letter, given.value]
  | .letterJoined => ["-".push given.choice.letter ++ given.value]
  | .letterEquals => ["-".push given.choice.letter ++ "=" ++ given.value]

/-- The value is not empty and begins neither with a hyphen nor with an equals sign. -/
def Plain (given : Given) : Prop :=
  given.value ≠ "" ∧ given.value.toList.head? ≠ some '-' ∧ given.value.toList.head? ≠ some '='

instance (given : Given) : Decidable given.Plain :=
  inferInstanceAs (Decidable (given.value ≠ "" ∧ given.value.toList.head? ≠ some '-' ∧
    given.value.toList.head? ≠ some '='))

end Given

/-- The value of an option among those that are given. -/
def valueOf (givens : List Given) (choice : Choice) : Option String :=
  (givens.find? fun given ↦ given.choice = choice).map Given.value

/-! ## Shapes -/

section

variable {given : Given}

private theorem Given.Plain.exists_cons (h : given.Plain) :
    ∃ c rest, given.value.toList = c :: rest ∧ c ≠ '-' ∧ c ≠ '=' := by
  cases hvalue : given.value.toList with
  | nil => exact absurd (String.toList_eq_nil_iff.mp hvalue) h.1
  | cons c rest =>
    obtain ⟨-, hhyphen, hequals⟩ := h
    rw [hvalue] at hhyphen hequals
    exact ⟨c, rest, rfl, fun heq ↦ hhyphen (congrArg some heq),
      fun heq ↦ hequals (congrArg some heq)⟩

/-- A plain value that stands alone is a word. -/
theorem shape_value (h : given.Plain) : Shape.of given.value = .word := by
  obtain ⟨c, rest, hvalue, hhyphen, -⟩ := h.exists_cons
  unfold Shape.of
  rw [hvalue]
  split
  · next heq => exact absurd (List.cons.inj heq).1 hhyphen
  · next heq => exact absurd (List.cons.inj heq).1 hhyphen
  · next heq => exact absurd (List.cons.inj heq).1 hhyphen
  · rfl

private theorem shape_name (choice : Choice) :
    Shape.of ("--" ++ choice.name) = .long choice.name none := by
  cases choice <;> decide

private theorem shape_nameEquals (choice : Choice) (value : String) :
    Shape.of ("--" ++ choice.name ++ "=" ++ value) = .long choice.name (some value) := by
  unfold Shape.of
  cases choice <;> simp [Choice.name]

private theorem shape_letter (choice : Choice) (rest : String) :
    Shape.of ("-".push choice.letter ++ rest) = .short choice.letter rest.toList := by
  unfold Shape.of
  cases choice <;> simp [Choice.letter]

private theorem takeFlag_long (outer : Bool) (options : Options) (choice : Choice)
    (value : Option String) :
    takeFlag outer options (.long choice.name value) = options.take choice value := by
  cases choice <;> rfl

private theorem takeFlag_short (outer : Bool) (options : Options) (choice : Choice)
    (rest : List Char) :
    takeFlag outer options (.short choice.letter rest) = options.take choice (attached rest) := by
  cases choice <;> rfl

/-- A joined value may be parted from its letter by an equals sign. -/
theorem attached_cons_equals (value : String) :
    attached ('=' :: value.toList) = some value :=
  congrArg some String.ofList_toList

private theorem attached_value (h : given.Plain) :
    attached given.value.toList = some given.value := by
  obtain ⟨c, rest, hvalue, -, hequals⟩ := h.exists_cons
  have hjoined : attached (c :: rest) = some (String.ofList (c :: rest)) := by
    unfold attached
    split
    · next heq => cases heq
    · next heq => exact absurd (List.cons.inj heq).1 hequals
    · rfl
  rw [hvalue, hjoined, ← hvalue, String.ofList_toList]

/-! ## Options that were read -/

/-- The options that were given, all counted. -/
def counted (givens : List Given) : Options :=
  ⟨valueOf givens .config, valueOf givens .logLevel, none⟩

/-- What has been read of a level are some options: the last one need not be counted yet, but no
option waits for its value. -/
structure Options.Holds (options : Options) (givens : List Given) : Prop where
  waiting : options.waiting? = .none
  settle : options.settle = .ok (counted givens)

variable {givens : List Given} {options : Options}

private theorem valueOf_append (givens more : List Given) (choice : Choice) :
    valueOf (givens ++ more) choice = (valueOf givens choice).or (valueOf more choice) := by
  unfold valueOf
  rw [List.find?_append]
  cases givens.find? _ <;> rfl

/-- An option has no value among others. -/
theorem valueOf_eq_none (h : ∀ other ∈ givens, other.choice ≠ given.choice) :
    valueOf givens given.choice = none := by
  unfold valueOf
  rw [Option.map_eq_none_iff, List.find?_eq_none]
  simpa using h

private theorem holds_counted (givens : List Given) : (counted givens).Holds givens := ⟨rfl, rfl⟩

/-- One more option is counted if it has no value yet. -/
theorem give_counted (new : valueOf givens given.choice = none) (nonempty : given.value ≠ "") :
    (counted givens).give given.choice given.value = .ok (counted (givens ++ [given])) := by
  obtain ⟨choice, spelling, value⟩ := given
  unfold counted
  rw [valueOf_append, valueOf_append]
  cases choice with
  | config =>
    have hsame : valueOf [⟨.config, spelling, value⟩] .config = some value := rfl
    have hother : valueOf [⟨.config, spelling, value⟩] .logLevel = none := rfl
    rw [new, hsame, hother, Option.none_or, Option.or_none]
    exact if_neg nonempty
  | logLevel =>
    have hsame : valueOf [⟨.logLevel, spelling, value⟩] .logLevel = some value := rfl
    have hother : valueOf [⟨.logLevel, spelling, value⟩] .config = none := rfl
    rw [new, hsame, hother, Option.none_or, Option.or_none]
    rfl

/-- An option with its value joined to it is counted at once. -/
theorem Options.Holds.take_joined (h : options.Holds givens)
    (new : valueOf givens given.choice = .none) (nonempty : given.value ≠ "") :
    options.take given.choice (some given.value) = .ok (counted (givens ++ [given])) := by
  unfold Options.take
  rw [h.settle]
  exact give_counted new nonempty

/-- An option whose value stands apart waits for it, and is held when the value has come. -/
theorem Options.Holds.take_apart (h : options.Holds givens)
    (new : valueOf givens given.choice = .none) (nonempty : given.value ≠ "") :
    ∃ waiting : Options, options.take given.choice .none = .ok waiting ∧
      waiting.waiting? = some given.choice ∧
      Options.Holds { waiting with pending := some (given.choice, some given.value) }
        (givens ++ [given]) := by
  refine ⟨{ counted givens with pending := some (given.choice, .none) }, ?_, rfl, rfl, ?_⟩
  · unfold Options.take
    rw [h.settle]
    rfl
  · exact give_counted new nonempty

/-! ## Levels -/

/-- An argument begins like an option. -/
def Shape.IsFlag : Shape → Prop
  | .long .. => True
  | .short .. => True
  | .divider => False
  | .word => False

/-- A level of arguments takes options by their flags, and the values that these wait for. -/
structure ReadsOptions {α : Type} (outer : Bool)
    (read : Options → List String → Except Refusal α) : Prop where
  flag : ∀ options argument rest, (Shape.of argument).IsFlag →
    read options (argument :: rest) =
      (takeFlag outer options (Shape.of argument) >>= fun options ↦ read options rest)
  value : ∀ (options : Options) choice argument rest, options.waiting? = some choice →
    Shape.of argument = .word →
      read options (argument :: rest) =
        read { options with pending := some (choice, some argument) } rest

private theorem readsOptions_read :
    ReadsOptions true fun options arguments ↦ Arguments.read options false arguments where
  flag options argument rest h := by
    rw [Arguments.read.eq_def]
    dsimp only
    cases hshape : Shape.of argument with
    | long => cases options.waiting? <;> rfl
    | short => cases options.waiting? <;> rfl
    | divider => rw [hshape] at h; cases h
    | word => rw [hshape] at h; cases h
  value options choice argument rest hwaiting hshape := by
    rw [Arguments.read.eq_def]
    dsimp only
    rw [hwaiting, hshape]

private theorem readsOptions_readInner :
    ReadsOptions false fun options arguments ↦ readInner options false arguments where
  flag options argument rest h := by
    rw [readInner.eq_def]
    dsimp only
    cases hshape : Shape.of argument with
    | long => cases options.waiting? <;> rfl
    | short => cases options.waiting? <;> rfl
    | divider => rw [hshape] at h; cases h
    | word => rw [hshape] at h; cases h
  value options choice argument rest hwaiting hshape := by
    rw [readInner.eq_def]
    dsimp only
    rw [hwaiting, hshape]

namespace ReadsOptions

variable {α : Type} {outer : Bool} {read : Options → List String → Except Refusal α}

/-- An option is read, however it is spelled. -/
theorem read_words (h : ReadsOptions outer read) (held : options.Holds givens)
    (new : valueOf givens given.choice = none) (plain : given.Plain) (rest : List String) :
    ∃ next : Options, next.Holds (givens ++ [given]) ∧
      read options (given.words ++ rest) = read next rest := by
  have joined (argument : String) (hflag : (Shape.of argument).IsFlag)
      (htake : takeFlag outer options (Shape.of argument) =
        options.take given.choice (some given.value)) :
      read options (argument :: rest) = read (counted (givens ++ [given])) rest := by
    rw [h.flag _ _ _ hflag, htake, held.take_joined new plain.1]
    rfl
  have apart (argument : String) (hflag : (Shape.of argument).IsFlag)
      (htake : takeFlag outer options (Shape.of argument) = options.take given.choice none) :
      ∃ next : Options, next.Holds (givens ++ [given]) ∧
        read options (argument :: given.value :: rest) = read next rest := by
    obtain ⟨waiting, htaken, hwaiting, hheld⟩ := held.take_apart new plain.1
    refine ⟨_, hheld, ?_⟩
    rw [h.flag _ _ _ hflag, htake, htaken]
    exact h.value _ _ _ _ hwaiting (shape_value plain)
  have hletter := shape_letter given.choice
  unfold Given.words
  cases given.spelling with
  | name =>
    have hshape := shape_name given.choice
    exact apart _ (hshape ▸ trivial) (by rw [hshape, takeFlag_long])
  | nameEquals =>
    have hshape := shape_nameEquals given.choice given.value
    exact ⟨_, holds_counted _, joined _ (hshape ▸ trivial) (by rw [hshape, takeFlag_long])⟩
  | letter =>
    have hshape := hletter ""
    rw [String.append_empty] at hshape
    exact apart _ (hshape ▸ trivial) (by rw [hshape, takeFlag_short]; rfl)
  | letterJoined =>
    have hshape := hletter given.value
    exact ⟨_, holds_counted _, joined _ (hshape ▸ trivial)
      (by rw [hshape, takeFlag_short, attached_value plain])⟩
  | letterEquals =>
    have hshape := hletter ("=" ++ given.value)
    rw [← String.append_assoc, String.toList_append] at hshape
    exact ⟨_, holds_counted _, joined _ (hshape ▸ trivial)
      (by rw [hshape, takeFlag_short]; exact congrArg _ (attached_cons_equals given.value))⟩

/-- Options are read in turn if none is given twice. -/
theorem read_flatMap_words (h : ReadsOptions outer read) (held : options.Holds givens)
    {more : List Given} (plain : ∀ given ∈ more, given.Plain)
    (once : ((givens ++ more).map Given.choice).Nodup) (rest : List String) :
    ∃ next : Options, next.Holds (givens ++ more) ∧
      read options (more.flatMap Given.words ++ rest) = read next rest := by
  induction more generalizing options givens with
  | nil => exact ⟨options, by rwa [List.append_nil], rfl⟩
  | cons given more ih =>
    obtain ⟨hplain, hmore⟩ := List.forall_mem_cons.mp plain
    have hnew : valueOf givens given.choice = none := by
      refine valueOf_eq_none fun other hother heq ↦ ?_
      rw [List.map_append, List.nodup_append] at once
      exact once.2.2 _ (List.mem_map_of_mem hother) _ List.mem_cons_self heq
    obtain ⟨next, hnext, hfirst⟩ :=
      h.read_words held hnew hplain (more.flatMap Given.words ++ rest)
    rw [List.append_cons] at once ⊢
    obtain ⟨last, hlast, hrest⟩ := ih hnext hmore once
    refine ⟨last, hlast, ?_⟩
    rw [List.flatMap_cons, List.append_assoc, hfirst, hrest]

end ReadsOptions

end

/-! ## Arguments -/

private theorem shape_word (task : Task) : Shape.of task.word = .word := by
  cases task <;> decide

private theorem ofWord?_word (task : Task) : Task.ofWord? task.word = some task := by
  cases task <;> rfl

/-- An option that is given in front of the command is not given behind it. -/
theorem valueOf_append_comm {before behind : List Given}
    (once : ((before ++ behind).map Given.choice).Nodup) (choice : Choice) :
    valueOf (before ++ behind) choice = (valueOf behind choice).or (valueOf before choice) := by
  rw [valueOf_append]
  cases hbefore : valueOf before choice with
  | none => cases valueOf behind choice <;> rfl
  | some value =>
    obtain ⟨given, hgiven, -⟩ := Option.map_eq_some_iff.mp hbefore
    have hbehind : valueOf behind choice = none := by
      have hchoice : given.choice = choice := by simpa using List.find?_some hgiven
      rw [← hchoice]
      refine valueOf_eq_none fun other hother heq ↦ ?_
      rw [List.map_append, List.nodup_append] at once
      exact once.2.2 _ (List.mem_map_of_mem (List.mem_of_find?_eq_some hgiven)) _
        (List.mem_map_of_mem hother) heq.symm
    rw [hbehind]
    rfl

/-- Options that are given once each mean the same wherever they stand and however they are spelled,
and an option that is not given has its default, whatever the values are. -/
theorem parse_given (task : Task) (before behind : List Given)
    (plain : ∀ given ∈ before ++ behind, given.Plain)
    (once : ((before ++ behind).map Given.choice).Nodup) :
    Arguments.parse
        (before.flatMap Given.words ++ task.word :: behind.flatMap Given.words) =
      .ok
        { task
          config := (valueOf (before ++ behind) .config).getD "config.toml"
          logLevel := (valueOf (before ++ behind) .logLevel).getD "info" } := by
  obtain ⟨hbefore, hbehind⟩ := List.forall_mem_append.mp plain
  have hnodup := once
  rw [List.map_append, List.nodup_append] at hnodup
  obtain ⟨outer, houter, hread⟩ := readsOptions_read.read_flatMap_words (holds_counted [])
    hbefore hnodup.1 (task.word :: behind.flatMap Given.words)
  obtain ⟨inner, hinner, hreadInner⟩ := readsOptions_readInner.read_flatMap_words
    (holds_counted []) hbehind hnodup.2.1 []
  rw [List.append_nil] at hreadInner
  have hword : Arguments.read outer false (task.word :: behind.flatMap Given.words) =
      Arguments.readWord outer task.word (behind.flatMap Given.words) := by
    rw [Arguments.read.eq_def]
    dsimp only
    rw [houter.waiting, shape_word]
  have hrest : readInner .none false (behind.flatMap Given.words) = .ok (counted behind) :=
    hreadInner.trans hinner.settle
  change Arguments.read .none false _ = _
  refine hread.trans (hword.trans ?_)
  unfold Arguments.readWord
  rw [ofWord?_word]
  dsimp only
  rw [hrest, houter.settle, valueOf_append_comm once, valueOf_append_comm once]
  rfl

/-- A configuration that is named like the command behind it. -/
def taskAsConfig : List Given := [⟨.config, .name, "graphs"⟩]

/-- A log level that is named like another command. -/
def taskAsLevel : List Given := [⟨.logLevel, .letterJoined, "migrate"⟩]

/-- A configuration and a log level that are named like commands are not taken for these. -/
theorem parse_given_taskWords :
    (∀ given ∈ taskAsConfig ++ taskAsLevel, given.Plain) ∧
      ((taskAsConfig ++ taskAsLevel).map Given.choice).Nodup ∧
      Arguments.parse ["--config", "graphs", "graphs", "-lmigrate"] =
        .ok { task := .graphs, config := "graphs", logLevel := "migrate" } := by
  have hplain : ∀ given ∈ taskAsConfig ++ taskAsLevel, given.Plain := by decide
  have honce : ((taskAsConfig ++ taskAsLevel).map Given.choice).Nodup := by
    simp [taskAsConfig, taskAsLevel]
  exact ⟨hplain, honce, parse_given .graphs taskAsConfig taskAsLevel hplain honce⟩

end BotOps.Command
