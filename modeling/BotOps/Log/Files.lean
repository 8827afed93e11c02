import BotOps.Log.Tail

/-!
# Scanning several logs

A log that cannot be read is skipped and counts nothing. What became of each log is kept as a
finding.
-/

namespace BotOps.Log

/-- Why the content of a file is not known. -/
inductive ReadFailure where
  /-- There is no such file. -/
  | missing
  /-- The file may not be read. -/
  | denied
  /-- The path names a directory. -/
  | directory
deriving DecidableEq, Repr

/-- The text of a failure to read. -/
def ReadFailure.message : ReadFailure → String
  | .missing => "io error: No such file or directory (os error 2)"
  | .denied => "io error: Permission denied (os error 13)"
  | .directory => "io error: Is a directory (os error 21)"

/-- A log by its path, with its content if it can be read. -/
structure File where
  path : String
  content : Except ReadFailure (List UInt8)

/-- The reports inside a window in one log. -/
def File.count (file : File) (window : Window) : Except ReadFailure Counts :=
  file.content.map fun content ↦ countTail content window

/-- What became of one log. -/
inductive Finding where
  /-- The log has `length` bytes and was scanned from `start` on. -/
  | scanned (path : String) (start length : Nat)
  /-- The log could not be read. -/
  | skipped (path : String) (failure : ReadFailure)
deriving DecidableEq, Repr

/-- What becomes of one log. -/
def File.finding (file : File) (window : Window) : Finding :=
  match file.content with
  | .ok content => .scanned file.path (tailStart content window) content.length
  | .error failure => .skipped file.path failure

/-- Adds a log to a running total, which is lost once it no longer fits. -/
def addFile (window : Window) (total : Option Counts) (file : File) : Option Counts :=
  match file.count window with
  | .ok counts => total >>= fun total ↦ total.merge? counts
  | .error _ => total

/-- The reports inside a window in all logs together, if the sum fits. -/
def total (files : List File) (window : Window) : Option Counts :=
  files.foldl (addFile window) (some .none)

/-- What becomes of all logs, in order. -/
def findings (files : List File) (window : Window) : List Finding :=
  files.map fun file ↦ file.finding window

end BotOps.Log
