import BotOps.Command.Program
import BotOps.Store.Snapshot
import Std.Time.Zoned

/-!
# The command line

Reads what a run needs, lets `Command.run` decide, and writes what the run leaves behind: the
store, the events up to the level asked for, and the status. The database is a snapshot in a file.
No server can be reached from here, so each request fails.
-/

namespace BotOps.Console

open BotOps.Command BotOps.Metrics BotOps.Remote BotOps.Store BotOps.Time

/-- The content of a file. -/
def readContent (path : String) : IO (Except Log.ReadFailure (List UInt8)) := do
  try
    let content ← IO.FS.readBinFile path
    return .ok content.toList
  catch error =>
    return .error <| match error with
      | .noFileOrDirectory .. => .missing
      | .permissionDenied .. => .denied
      | _ => .directory

/-- The content of the file that a location names, if there is one. A file that can be created or
written is left open to that. -/
def locatedContent (location : Location) (path : String) : IO (Option (List UInt8)) := do
  if location.mode = .create then let _ ← IO.FS.Handle.mk path .append
  return (← readContent path).toOption

/-- What comes of opening the store that a text locates. -/
def openStore (text : String) : IO Opening := do
  match Location.ofText? text with
  | none => return .refused
  | some location =>
    match location.medium with
    | .memory => return location.opening none
    | .file path =>
      try return location.opening (← locatedContent location path)
      catch _ => return .refused

/-- Writes a store to where a text locates it, unless it was opened only to be read. -/
def keepStore (text : String) (store : Store) : IO Unit :=
  match store.locked, (Location.ofText? text).map Location.medium with
  | false, some (.file path) => IO.FS.writeFile path (Snapshot.save store)
  | _, _ => return ()

/-- An instant by what the library of the system says. -/
def instantOf (since : Std.Time.Duration) : Instant :=
  (Instant.of? since.second.val since.nano.val.toNat).getD .epoch

/-- What the clocks show. -/
def readClock : IO Clock := do
  let now ← Std.Time.Timestamp.now
  let zoned ← Std.Time.PlainDateTime.now
  return ⟨instantOf now.val, instantOf zoned.toWallTime.val⟩

/-- A server that no address leads to. -/
def unreachable : Exchange := ⟨⟨false, .named "", 0⟩, [], []⟩

/-- The value of a field as a text. -/
def datumText : Datum → String
  | .text value => value
  | .whole value => toString value
  | .measured value => toString (Float.ofBits value.bits)
  | .truth value => toString value

/-- An event as a line of the log. -/
def eventLine (event : Event) : String :=
  " ".intercalate (event.level.name.toUpper :: event.message ::
    event.fields.map fun field ↦ field.1 ++ "=" ++ datumText field.2)

/-- The levels that are shown at a log level; `info` is meant by a word that names none. -/
def shownLevels (word : String) : List Level :=
  match word.toLower with
  | "off" => []
  | "error" => [.error]
  | "warn" => [.error, .warn]
  | "debug" => [.error, .warn, .info, .debug]
  | "trace" => [.error, .warn, .info, .debug]
  | _ => [.error, .warn, .info]

/-- How the program is called. -/
def usage : String :=
  "Usage: bot-upkeep [--config <CONFIG>] [--log-level <LOG_LEVEL>] entitlements|graphs|migrate"

/-- Tells why nothing is done. -/
def tellRefusal (refusal : Refusal) : IO Unit :=
  match refusal with
  | .help => IO.println usage
  | .version => IO.println "bot-upkeep 0.1.0"
  | _ => IO.eprintln usage

/-- Reads the logs that a configuration names. -/
def readLogs (config : Config) : IO (List (String × Except Log.ReadFailure (List UInt8))) :=
  config.sampling.logFiles.mapM fun path ↦ return (path, ← readContent path)

/-- Does what arguments ask for, and gives the status. -/
def perform (arguments : Arguments) : IO UInt8 := do
  let token ← IO.getEnv tokenVariable
  let lookup (name : String) : Option String := if name = tokenVariable then token else none
  let content ← readContent arguments.config
  let config := (Config.load arguments.config content.toOption lookup).toOption
  let logs ← (config.map readLogs).getD (return [])
  let files := logs ++ [(arguments.config, content)]
  let opening ← (config.map fun config ↦ openStore config.databasePath).getD (return .refused)
  let surroundings : Surroundings :=
    { lookup
      read := fun path ↦ (files.lookup path).getD (.error .missing)
      opening := fun _ ↦ opening
      processes := []
      clock := ← readClock }
  let ending := arguments.run surroundings unreachable
  (ending.events.filter fun event ↦ event.level ∈ shownLevels arguments.logLevel).forM fun event ↦
    IO.eprintln (eventLine event)
  ending.kept.forM fun kept ↦ keepStore kept.1 kept.2
  return ending.status

end BotOps.Console

/-- The program. -/
def main (arguments : List String) : IO UInt32 := do
  match BotOps.Command.Arguments.parse arguments with
  | .error refusal =>
    BotOps.Console.tellRefusal refusal
    return refusal.exitStatus.toUInt32
  | .ok arguments => return (← BotOps.Console.perform arguments).toUInt32
