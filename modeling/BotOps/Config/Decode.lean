import BotOps.Config.Basic
import BotOps.Toml.Document

/-!
# Reading the configuration

A configuration is a document with a table for each group of settings. Unknown keys do not matter.
A group may also be an array of its settings in their order.
-/

namespace BotOps.Config

open BotOps.Toml

/-- The settings of a group: by key, or by place. A date counts as a group without settings. -/
inductive Group where
  | keyed (entries : Entries)
  | placed (items : List Value)

/-- The group that a value writes. -/
def Group.ofValue? : Value → Option Group
  | .table _ entries => some (.keyed entries)
  | .moment => some (.keyed [])
  | .array items => some (.placed items)
  | .tables elements => some (.placed (elements.map (.table .header)))
  | _ => none

/-- A setting of a group. -/
def Group.get? (group : Group) (place : Nat) (key : String) : Option Value :=
  match group with
  | .keyed entries => entries.lookup key
  | .placed items => items[place]?

/-- A setting that has to be well formed if it is there, and has a default if it is not. -/
def optional? {α : Type} (read : Value → Option α) (default : α) : Option Value → Option α
  | some value => read value
  | none => some default

/-- A text. -/
def text? : Value → Option String
  | .string text => some text
  | _ => none

/-- A whole number of 32 bits without a sign. -/
def word? : Value → Option UInt32
  | .integer n => if 0 ≤ n ∧ n.toNat < UInt32.size then some (UInt32.ofNat n.toNat) else none
  | _ => none

/-- A list of texts. -/
def texts? : Value → Option (List String)
  | .array items => items.mapM text?
  | _ => none

/-- A value without content. -/
def isHollow : Value → Bool
  | .array items => items.isEmpty
  | .tables elements => elements.isEmpty
  | .table _ entries => entries.isEmpty
  | _ => false

/-- An environment by its name. -/
def environmentNamed? (name : String) : Option Environment :=
  match name with
  | "live" => some .live
  | "local" => some .local
  | _ => none

/-- An environment: its name, or a table whose only key is its name. -/
def environment? : Value → Option Environment
  | .string name => environmentNamed? name
  | .table _ [(name, value)] => if isHollow value then environmentNamed? name else none
  | _ => none

/-- The settings of the platform. -/
def platform? (value : Value) : Option Platform := do
  let group ← Group.ofValue? value
  let applicationId ← group.get? 0 "application_id" >>= text?
  let token ← optional? (fun value ↦ (text? value).map some) none (group.get? 1 "token")
  let baseUrl ← optional? text? Platform.defaultUrl (group.get? 2 "api_base")
  return { applicationId, token, baseUrl }

/-- The settings of the sampler. -/
def sampling? (value : Value) : Option Sampling := do
  let group ← Group.ofValue? value
  let preset := Sampling.default
  let environment ← optional? environment? preset.environment (group.get? 0 "environment")
  let shardCount ← optional? word? preset.shardCount (group.get? 1 "shard_count")
  let processPattern ← optional? text? preset.processPattern (group.get? 2 "process_pattern")
  let logFiles ← optional? texts? preset.logFiles (group.get? 3 "log_files")
  let logWindowMinutes ←
    optional? word? preset.logWindowMinutes (group.get? 4 "log_window_minutes")
  let retentionHours ← optional? word? preset.retentionHours (group.get? 5 "retention_hours")
  let internalUrl ← optional? (fun value ↦ (text? value).map some) preset.internalUrl
    (group.get? 6 "internal_api_url")
  return { environment, shardCount, processPattern, logFiles, logWindowMinutes, retentionHours,
           internalUrl }

/-- A group with a single setting, which is a text. -/
def onlyText? (key : String) (value : Value) : Option String := do
  let group ← Group.ofValue? value
  group.get? 0 key >>= text?

/-- The configuration that a table writes. -/
def ofEntries? (entries : Toml.Entries) : Option Config := do
  let databasePath ← entries.lookup "database" >>= onlyText? "path"
  let platform ← entries.lookup "discord" >>= platform?
  let planId ← optional? (onlyText? "plan_id") defaultPlan (entries.lookup "billing")
  let sampling ← optional? sampling? Sampling.default (entries.lookup "sampler")
  return { databasePath, platform, planId, sampling }

/-- The configuration that a text writes. -/
def parse? (text : String) : Option Config := Toml.parse? text >>= ofEntries?

/-- The configuration that a file holds, with the token of the environment, if it is valid. A file
that cannot be read has no content. -/
def load (path : String) (content : Option (List UInt8)) (lookup : String → Option String) :
    Except ConfigProblem Config := do
  match content.bind Text.Utf8.decode? with
  | none => throw (.unreadable path)
  | some text =>
    match parse? (String.ofList text) with
    | none => throw (.malformed path)
    | some config =>
      let config := config.applyEnvironment lookup
      config.validate
      return config

end BotOps.Config
