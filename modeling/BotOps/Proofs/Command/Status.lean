import BotOps.Proofs.Command.Task
import BotOps.Proofs.Store.Upgrade

/-!
# The status of a run

A run ends with the status 2 exactly where nothing was done: its configuration is at fault, its
database cannot be opened, or there is no token to ask for the purchases with (`Idle`). Nothing is
asked of the server then, and what a database held it still holds. Every other failure that is
reported ends with the status 1, and the sampler ends with the same one whatever the server answers:
`run_status`.
-/

namespace BotOps.Command

open BotOps.Config BotOps.Remote BotOps.Store BotOps.Text

section

variable (arguments : Arguments) (surroundings : Surroundings)

/-- The text of the configuration file, if it can be read. -/
def configText? : Option String :=
  ((surroundings.read arguments.config).toOption.bind Utf8.decode?).map String.ofList

/-- The configuration of a run cannot be read, decoded or validated. -/
inductive ConfigAtFault : Prop where
  | unreadable (h : configText? arguments surroundings = none)
  | undecodable {text} (read : configText? arguments surroundings = some text)
      (h : Config.parse? text = none)
  | invalid {text config problem} (read : configText? arguments surroundings = some text)
      (decoded : Config.parse? text = some config)
      (h : (config.applyEnvironment surroundings.lookup).validate = .error problem)

/-- A run reads a text as its configuration, with the token of the environment. -/
structure Loads (text : String) (config : Config) : Prop where
  read : configText? arguments surroundings = some text
  decoded : (Config.parse? text).map (·.applyEnvironment surroundings.lookup) = some config
  valid : config.validate = .ok ()

/-- What stands behind the key of the token in the text of a configuration. -/
def tokenValue? (text : String) : Option Toml.Value := do
  let entries ← Toml.parse? text
  let platform ← entries.lookup "discord" >>= Group.ofValue?
  platform.get? 1 "token"

/-- A run has nothing to do, as far as its configuration goes. -/
inductive Idle : Prop where
  | misconfigured (fault : ConfigAtFault arguments surroundings)
  /-- The database cannot be opened. -/
  | closed {text config} (loads : Loads arguments surroundings text config)
      (refused : surroundings.opening config.databasePath = .refused)
  /-- The database is migrated, but the purchases cannot be asked for: the environment has no token
  that is not blank, and the file has no key for one. -/
  | tokenless {text config before after} (loads : Loads arguments surroundings text config)
      (opened : surroundings.opening config.databasePath = .ready before)
      (migrated : migrate.run before = (.ok (), after))
      (task : arguments.task = .entitlements)
      (environment : ∀ token, surroundings.lookup tokenVariable = some token → isBlankText token)
      (file : tokenValue? text = none)

end

section

variable {arguments : Arguments} {surroundings : Surroundings} {text : String} {config : Config}

/-- The token of a platform is what stands behind its key. -/
theorem token_of_platform? {value : Toml.Value} {platform : Platform}
    (h : platform? value = some platform) :
    ∃ group, Group.ofValue? value = some group ∧
      (platform.token = none ↔ group.get? 1 "token" = none) := by
  simp only [platform?, Option.bind_eq_bind, Option.bind_eq_some_iff, Option.pure_def,
    Option.some.injEq] at h
  obtain ⟨group, hgroup, _, -, token, htoken, _, -, rfl⟩ := h
  refine ⟨group, hgroup, ?_⟩
  cases hvalue : group.get? 1 "token" with
  | none =>
    rw [hvalue] at htoken
    exact iff_of_true (Option.some.inj htoken).symm rfl
  | some value =>
    rw [hvalue] at htoken
    obtain ⟨written, -, rfl⟩ := Option.map_eq_some_iff.mp htoken
    simp

/-- A configuration has a token if its text has a key for one. -/
theorem token_eq_none_iff (h : Config.parse? text = some config) :
    config.platform.token = none ↔ tokenValue? text = none := by
  simp only [Config.parse?, ofEntries?, Option.bind_eq_bind, Option.bind_eq_some_iff,
    Option.pure_def, Option.some.injEq] at h
  obtain ⟨entries, hentries, _, -, platform, ⟨value, hvalue, hplatform⟩, _, -, _, -, rfl⟩ := h
  obtain ⟨group, hgroup, htoken⟩ := token_of_platform? hplatform
  rw [htoken]
  unfold tokenValue?
  simp only [hentries, hvalue, hgroup, Option.bind_eq_bind, Option.bind_some]

/-- After the environment was asked there is no token if neither it nor the file has one. -/
theorem token_applyEnvironment (config : Config) (lookup : String → Option String) :
    (config.applyEnvironment lookup).platform.token = none ↔
      (∀ token, lookup tokenVariable = some token → isBlankText token) ∧
        config.platform.token = none := by
  unfold Config.applyEnvironment
  cases hfilter : (lookup tokenVariable).filter fun token ↦ !isBlankText token with
  | none =>
    refine (and_iff_right fun token htoken ↦ ?_).symm
    rw [htoken, Option.filter_eq_none_iff] at hfilter
    simpa using hfilter token rfl
  | some token =>
    obtain ⟨htoken, husable⟩ := Option.filter_eq_some_iff.mp hfilter
    refine iff_of_false (by simp) fun h ↦ ?_
    simp [h.1 token htoken] at husable

namespace Loads

/-- A run without a token has one neither from the environment nor from its file. -/
theorem token_eq_none_iff (loads : Loads arguments surroundings text config) :
    config.platform.token = none ↔
      (∀ token, surroundings.lookup tokenVariable = some token → isBlankText token) ∧
        tokenValue? text = none := by
  obtain ⟨written, hwritten, rfl⟩ := Option.map_eq_some_iff.mp loads.decoded
  rw [token_applyEnvironment, BotOps.Command.token_eq_none_iff hwritten]

end Loads

/-- A configuration is loaded, or the run has it at fault. -/
theorem load_cases (arguments : Arguments) (surroundings : Surroundings) :
    (∃ text config, Loads arguments surroundings text config) ∨
      ConfigAtFault arguments surroundings := by
  cases hread : configText? arguments surroundings with
  | none => exact .inr (.unreadable hread)
  | some text =>
    cases hdecoded : Config.parse? text with
    | none => exact .inr (.undecodable hread hdecoded)
    | some written =>
      cases hvalid : (written.applyEnvironment surroundings.lookup).validate with
      | error problem => exact .inr (.invalid hread hdecoded hvalid)
      | ok answer => exact .inl ⟨text, _, hread, by rw [hdecoded]; rfl, hvalid⟩

/-- A configuration is read, decoded and validated. -/
theorem load_eq (arguments : Arguments) (surroundings : Surroundings) :
    Config.load arguments.config (surroundings.read arguments.config).toOption
        surroundings.lookup =
      match configText? arguments surroundings with
      | none => .error (.unreadable arguments.config)
      | some text =>
        match Config.parse? text with
        | none => .error (.malformed arguments.config)
        | some config =>
          (config.applyEnvironment surroundings.lookup).validate.map fun _ ↦
            config.applyEnvironment surroundings.lookup := by
  unfold Config.load configText?
  cases (surroundings.read arguments.config).toOption.bind Utf8.decode? with
  | none => rfl
  | some characters =>
    dsimp only [Option.map_some]
    cases Config.parse? (String.ofList characters) with
    | none => rfl
    | some config =>
      dsimp only
      cases (config.applyEnvironment surroundings.lookup).validate <;> rfl

private theorem Loads.load_eq_ok (loads : Loads arguments surroundings text config) :
    Config.load arguments.config (surroundings.read arguments.config).toOption
      surroundings.lookup = .ok config := by
  obtain ⟨written, hwritten, rfl⟩ := Option.map_eq_some_iff.mp loads.decoded
  rw [load_eq, loads.read]
  dsimp only
  rw [hwritten]
  dsimp only
  rw [loads.valid]
  rfl

private theorem ConfigAtFault.exists_load_eq_error (fault : ConfigAtFault arguments surroundings) :
    ∃ problem, Config.load arguments.config (surroundings.read arguments.config).toOption
      surroundings.lookup = .error problem := by
  rw [load_eq]
  cases fault with
  | unreadable h => exact ⟨_, by rw [h]⟩
  | undecodable read h => exact ⟨_, by rw [read]; dsimp only; rw [h]⟩
  | invalid read decoded h =>
    exact ⟨_, by rw [read]; dsimp only; rw [decoded]; dsimp only; rw [h]; rfl⟩

/-- The end of a run that does not get as far as its database. -/
def endedEarly (arguments : Arguments) (problem : ConfigProblem) (server : Exchange) : Ending :=
  ⟨2, none, [.jobFailed (.config problem) arguments.task.name], server⟩

variable {server : Exchange}

private theorem ConfigAtFault.exists_run_eq (fault : ConfigAtFault arguments surroundings)
    (server : Exchange) :
    ∃ problem, ∀ opening,
      arguments.run { surroundings with opening } server = endedEarly arguments problem server := by
  obtain ⟨problem, hload⟩ := fault.exists_load_eq_error
  refine ⟨problem, fun opening ↦ ?_⟩
  unfold Arguments.run
  dsimp only
  rw [hload]
  rfl

namespace Loads

/-- A run with a configuration opens its database. -/
theorem run_eq (loads : Loads arguments surroundings text config) :
    arguments.run surroundings server =
      match surroundings.opening config.databasePath with
      | .refused => endedEarly arguments (.noDatabase config.databasePath) server
      | .ready store =>
        (work arguments.task config surroundings).ending arguments.task config.databasePath store
          server := by
  unfold Arguments.run
  rw [loads.load_eq_ok]
  rfl

end Loads

/-- The status with which a step ends. -/
theorem status_ending (step : Step Unit) (task : Task) (path : String) (store : Store) :
    (step.ending task path store server).status =
      match verdict (step.run ⟨store, [], server⟩).1 with
      | .ok () => 0
      | .error fault => fault.exitStatus := by
  unfold Step.ending
  rcases step.run ⟨store, [], server⟩ with ⟨(failure | _) | ⟨⟩, final⟩ <;> rfl

/-- A blameless step does not end with the status 2, and with 1 exactly where a failure is
reported. -/
theorem Blameless.ending {step : Step Unit} (blameless : Blameless step) (task : Task)
    (path : String) (store : Store) :
    (step.ending task path store server).status ≠ 2 ∧
      ((step.ending task path store server).status = 1 ↔
        ∃ failure command,
          .jobFailed failure command ∈ (step.ending task path store server).events) := by
  obtain ⟨events, result, final, hquiet, hrun, hjournal, hresult⟩ := blameless ⟨store, [], server⟩
  have hsilent (failure : Failure) (command : String) :
      .jobFailed failure command ∉ final.events := by
    intro hmem
    rw [Setting.events, List.mem_reverse, hjournal, List.append_nil] at hmem
    exact absurd (hquiet _ hmem) (by simp [Event.isJobFailure])
  have hunreported (status : UInt8) (h : status ≠ 1) : status = 1 ↔
      ∃ failure command, .jobFailed failure command ∈ final.events ++ [] := by
    rw [List.append_nil]
    refine iff_of_false h ?_
    rintro ⟨failure, command, hmem⟩
    exact hsilent failure command hmem
  unfold Step.ending
  rw [hrun]
  rcases result with (failure | _) | ⟨⟩
  · rcases exitStatus_cases failure with hstatus | ⟨problem, rfl⟩
    · refine ⟨hresult _ rfl, iff_of_true hstatus ⟨failure, task.name, ?_⟩⟩
      exact List.mem_append_right _ List.mem_cons_self
    · exact absurd rfl (hresult _ rfl)
  · exact ⟨(by decide : (101 : UInt8) ≠ 2), hunreported 101 (by decide)⟩
  · exact ⟨(by decide : (0 : UInt8) ≠ 2), hunreported 0 (by decide)⟩

/-- Migrating is blamed on the store. -/
theorem run_inStore_migrate (setting : Setting Exchange) :
    (inStore migrate : Step Unit).run setting =
      ((migrate.run setting.store).1.mapError fun error ↦ .failed (.persistence error),
        { setting with store := (migrate.run setting.store).2 }) := by
  unfold inStore
  rw [run_bind_ok (Job.run_attempt _ _)]
  cases (migrate.run setting.store).1 <;> rfl

/-- A run that fails to migrate fails because of the store. -/
theorem run_work_of_migrate_error {store after : Store} {error : StoreError}
    (h : migrate.run store = (.error error, after)) (task : Task) (config : Config)
    (surroundings : Surroundings) (server : Exchange) :
    (work task config surroundings).run ⟨store, [], server⟩ =
      (.error (.failed (.persistence error)), ⟨after, [], server⟩) := by
  refine run_bind_error ?_ _
  rw [run_inStore_migrate, h]
  rfl

/-- A run that has migrated its store goes on to its task. -/
theorem run_work_of_migrate_ok {store after : Store} (h : migrate.run store = (.ok (), after))
    (task : Task) (config : Config) (surroundings : Surroundings) (server : Exchange) :
    (work task config surroundings).run ⟨store, [], server⟩ =
      (task.perform config surroundings).run ⟨after, [], server⟩ := by
  refine run_bind_ok (a := ()) ?_ _
  rw [run_inStore_migrate, h]
  rfl

/-- An idle run ends with the status 2. It asks nothing, and what it leaves in its database has the
rows that it found there. -/
theorem Idle.exists_run_eq (idle : Idle arguments surroundings) (server : Exchange) :
    ∃ problem kept,
      arguments.run surroundings server =
        ⟨2, kept, [.jobFailed (.config problem) arguments.task.name], server⟩ ∧
      ∀ path after, kept = some (path, after) →
        ∃ before, surroundings.opening path = .ready before ∧ RowsKept before after := by
  cases idle with
  | misconfigured fault =>
    obtain ⟨problem, hrun⟩ := fault.exists_run_eq server
    exact ⟨problem, none, hrun surroundings.opening, fun _ _ h ↦ by cases h⟩
  | @closed text config loads refused =>
    refine ⟨.noDatabase config.databasePath, none, ?_, fun _ _ h ↦ by cases h⟩
    rw [loads.run_eq, refused]
    rfl
  | @tokenless text config before after loads opened migrated task environment file =>
    have htoken := loads.token_eq_none_iff.mpr ⟨environment, file⟩
    refine ⟨.missingToken, some (config.databasePath, after), ?_, fun path kept h ↦ ?_⟩
    · rw [loads.run_eq, opened, task]
      dsimp only
      unfold Step.ending
      rw [run_work_of_migrate_ok migrated, run_perform_of_tokenless htoken]
      rfl
    · cases h
      have hrows := rowsKept_migrate before
      rw [migrated] at hrows
      exact ⟨before, opened, hrows⟩

/-- A run that is not idle does not end with the status 2, and with 1 exactly where it reports a
failure. -/
theorem idle_or_status (arguments : Arguments) (surroundings : Surroundings) (server : Exchange) :
    Idle arguments surroundings ∨
      (arguments.run surroundings server).status ≠ 2 ∧
        ((arguments.run surroundings server).status = 1 ↔
          ∃ failure command,
            .jobFailed failure command ∈ (arguments.run surroundings server).events) := by
  rcases load_cases arguments surroundings with ⟨text, config, loads⟩ | fault
  · rw [loads.run_eq]
    cases hopening : surroundings.opening config.databasePath with
    | refused => exact .inl (.closed loads hopening)
    | ready store =>
      by_cases htokenless : arguments.task = .entitlements ∧ config.platform.token = none
      · obtain ⟨environment, file⟩ := loads.token_eq_none_iff.mp htokenless.2
        rcases hmigrate : migrate.run store with ⟨error | ⟨⟩, after⟩
        · right
          dsimp only
          unfold Step.ending
          rw [run_work_of_migrate_error hmigrate]
          exact ⟨(by decide : (1 : UInt8) ≠ 2),
            iff_of_true rfl ⟨_, _, List.mem_append_right _ List.mem_cons_self⟩⟩
        · exact .inl (.tokenless loads hopening hmigrate htokenless.1 environment file)
      · have hwork : Blameless (work arguments.task config surroundings) :=
          .bind (blameless_inStore migrate) fun _ ↦
            blameless_perform loads.valid surroundings fun htask htoken ↦
              htokenless ⟨htask, htoken⟩
        exact .inr (hwork.ending _ _ _)
  · exact .inl (.misconfigured fault)

/-- The sampler ends with the same status whatever the server is and answers. -/
theorem status_run_graphs (h : arguments.task = .graphs) (surroundings : Surroundings)
    (server other : Exchange) :
    (arguments.run surroundings server).status = (arguments.run surroundings other).status := by
  rcases load_cases arguments surroundings with ⟨text, config, loads⟩ | fault
  · rw [loads.run_eq, loads.run_eq, h]
    cases surroundings.opening config.databasePath with
    | refused => rfl
    | ready store =>
      dsimp only
      rw [status_ending, status_ending]
      rcases hmigrate : migrate.run store with ⟨error | ⟨⟩, after⟩
      · rw [run_work_of_migrate_error hmigrate, run_work_of_migrate_error hmigrate]
      · rw [run_work_of_migrate_ok hmigrate, run_work_of_migrate_ok hmigrate]
        rw [verdict_perform_graphs loads.valid surroundings after server other]
  · obtain ⟨_, _, hrun, -⟩ := (Idle.misconfigured fault).exists_run_eq server
    obtain ⟨_, _, hother, -⟩ := (Idle.misconfigured fault).exists_run_eq other
    rw [hrun, hother]

end

/-- For each run whose arguments name a task. It ends with the status 2 exactly where it is idle:
its configuration cannot be read, decoded or validated, its database cannot be opened, or the
purchases cannot be asked for because there is no token. Such a run asks nothing of the server, and
what it leaves at the place of its database has the rows that were there. Where the configuration is
at fault no database is opened, so that it does not matter what would come of it. The run ends with
the status 1 exactly where it is not idle and reports a failure. For the sampler the status is the
same whatever the server is and answers. -/
theorem run_status (words : List String) (arguments : Arguments)
    (parsed : Arguments.parse words = .ok arguments) (surroundings : Surroundings)
    (server : Exchange) :
    let ending := run words surroundings server
    (ending.status = 2 ↔ Idle arguments surroundings) ∧
      (ending.status = 2 → ending.server = server ∧
        ∀ path after, ending.kept = some (path, after) →
          ∃ before, surroundings.opening path = .ready before ∧ RowsKept before after) ∧
      (ConfigAtFault arguments surroundings → ending.kept = none ∧
        ∀ opening, run words { surroundings with opening } server = ending) ∧
      (ending.status = 1 ↔ ¬ Idle arguments surroundings ∧
        ∃ failure command, .jobFailed failure command ∈ ending.events) ∧
      (arguments.task = .graphs →
        ∀ other, (run words surroundings other).status = ending.status) := by
  have hrun (surroundings : Surroundings) (server : Exchange) :
      run words surroundings server = arguments.run surroundings server := by
    unfold run
    rw [parsed]
  simp only [hrun]
  have hidle : (arguments.run surroundings server).status = 2 ↔ Idle arguments surroundings := by
    refine ⟨fun hstatus ↦ ?_, fun idle ↦ ?_⟩
    · exact (idle_or_status arguments surroundings server).resolve_right fun h ↦ h.1 hstatus
    · obtain ⟨_, _, hending, -⟩ := idle.exists_run_eq server
      rw [hending]
  refine ⟨hidle, fun hstatus ↦ ?_, fun fault ↦ ?_, ?_, fun htask other ↦ ?_⟩
  · obtain ⟨_, _, hending, hrows⟩ := (hidle.mp hstatus).exists_run_eq server
    rw [hending]
    exact ⟨rfl, hrows⟩
  · obtain ⟨problem, hending⟩ := fault.exists_run_eq server
    have hsame : arguments.run surroundings server = endedEarly arguments problem server :=
      hending surroundings.opening
    rw [hsame]
    exact ⟨rfl, hending⟩
  · rcases idle_or_status arguments surroundings server with idle | ⟨hstatus, hreported⟩
    · obtain ⟨_, _, hending, -⟩ := idle.exists_run_eq server
      rw [hending]
      exact iff_of_false (by decide : (2 : UInt8) ≠ 1) fun h ↦ h.1 idle
    · rw [hreported]
      exact (and_iff_right (mt hidle.mpr hstatus)).symm
  · exact status_run_graphs htask surroundings other server

/-- A configuration with the fewest settings, and without a token. -/
def leanText : String :=
  "[database]\npath = \"ops.sqlite\"\n[discord]\napplication_id = \"1\"\n"

/-- A store that was never migrated, with a credit, a sample and a counter of two rows. -/
def unmigratedStore : Store :=
  { Store.empty with
    credits := some [⟨none, "900", some "12", 1, "2020-01-01 00:00:00", "plan", 0, none, ""⟩]
    counters := some [.exact 4, .exact 3]
    graphs := some
      { added := ["games"]
        rows := [.ofSample 3 ⟨"2024-01-15T00:00:00Z", .zero, ⟨5, 4, 3, 2, 1⟩, .none, 0, 0, 0, 0⟩]
        lastId := 8 } }

/-- Surroundings with this configuration and this store, and with a blank token. -/
def blankSurroundings : Surroundings where
  lookup name := if name = tokenVariable then some " \t" else none
  read path := if path = "ops.toml" then .ok leanText.toUTF8.toList else .error .missing
  opening _ := .ready unmigratedStore
  processes := []
  clock := default

/-- A server that would answer with an empty page. -/
def willingServer : Exchange := ⟨⟨false, .loopback, 80⟩, [⟨200, "[]", 3⟩], []⟩

/-- A blank token is none: the store is migrated, its rows stay and the server is not asked. -/
theorem run_status_blankToken :
    let ending := run ["-c", "ops.toml", "entitlements"] blankSurroundings willingServer
    Arguments.parse ["-c", "ops.toml", "entitlements"] =
        .ok ⟨.entitlements, "ops.toml", "info"⟩ ∧
      Idle ⟨.entitlements, "ops.toml", "info"⟩ blankSurroundings ∧ ending.status = 2 ∧
      ending.server = willingServer ∧
      ∃ after, ending.kept = some ("ops.sqlite", after) ∧ RowsKept unmigratedStore after := by
  intro ending
  have hparsed : Arguments.parse ["-c", "ops.toml", "entitlements"] =
      .ok ⟨.entitlements, "ops.toml", "info"⟩ := by decide +kernel
  obtain ⟨hidle, hnothing, -⟩ := run_status _ _ hparsed blankSurroundings willingServer
  have hstatus : ending.status = 2 := by decide +kernel
  obtain ⟨hserver, hrows⟩ := hnothing hstatus
  have hpath : ending.kept.map Prod.fst = some "ops.sqlite" := by decide +kernel
  obtain ⟨⟨path, after⟩, hkept, rfl⟩ := Option.map_eq_some_iff.mp hpath
  obtain ⟨before, hopening, hsame⟩ := hrows _ _ hkept
  cases hopening
  exact ⟨hparsed, hidle.mp hstatus, hstatus, hserver, after, hkept, hsame⟩

/-- In a database that was opened only to be read, and in which nothing is left to migrate, a run
gets as far as the token; in any other such database it fails before that. -/
example :
    let status (command : String) (store : Store) : UInt8 :=
      (run ["-c", "ops.toml", command]
        { blankSurroundings with opening _ := .ready { store with locked := true } }
        willingServer).status
    let migrated := (migrate.run unmigratedStore).2
    status "migrate" migrated = 0 ∧ status "entitlements" migrated = 2 ∧
      status "entitlements" unmigratedStore = 1 := by
  decide +kernel

end BotOps.Command
