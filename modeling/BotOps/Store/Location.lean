import BotOps.Text.Percent

/-!
# Locations

Where a store is kept, and how it is opened. A location is written as a path. Behind `file:` the
path has percent codes instead, and options may follow it.
-/

namespace BotOps.Store

open BotOps.Text

/-- How a store is opened. -/
inductive Mode where
  /-- The store has to be there and stays as it is. -/
  | read
  /-- The store has to be there. -/
  | write
  /-- The store is created if it is not there. -/
  | create
  /-- The store is not kept. -/
  | memory
deriving DecidableEq, Repr, Inhabited

namespace Mode

/-- The mode of a name. -/
def ofName? : String → Option Mode
  | "ro" => some .read
  | "rw" => some .write
  | "rwc" => some .create
  | "memory" => some .memory
  | _ => none

/-- A mode may replace an earlier one that allows no less. A store that is not kept is harmless, and
after it each mode is allowed. -/
def mayReplace : Mode → Mode → Bool
  | .memory, _ => true
  | .read, _ => true
  | .write, earlier => earlier ≠ .read
  | .create, earlier => earlier = .create || earlier = .memory

end Mode

/-- Where a store is kept, if it is kept at all. -/
inductive Medium where
  | memory
  | file (path : String)
deriving DecidableEq, Repr

/-- Where and how a store is opened. -/
structure Location where
  medium : Medium
  mode : Mode
  /-- The file is taken for one that nobody changes. -/
  fixed : Bool
deriving DecidableEq, Repr

/-- What the options of a location ask for. -/
structure Options where
  mode : Mode
  /-- The name of the system that holds the files. -/
  system : String
  fixed : Option Bool
deriving DecidableEq, Repr

namespace Options

/-- What is asked for without options. -/
def usual : Options := ⟨.create, "unix", none⟩

/-- The system that holds its files in memory. -/
def memorySystem : String := "memdb"

/-- The systems that there are. -/
def systems : List String := [memorySystem, "unix", "unix-none", "unix-dotfile", "unix-excl"]

/-- A word or a number that means yes. Of a number the last eight bits count. -/
def isYes (value : String) : Bool :=
  let digits := value.toList.takeWhile Char.isDigit
  if digits = [] then value.toLower ∈ ["on", "yes", "true"]
  else digits.foldl (fun n c ↦ 10 * n + (c.toNat - '0'.toNat)) 0 % 256 ≠ 0

/-- Adds an option. Modes and caches have to be known, other options need not be. -/
def add? (options : Options) (name value : String) : Option Options :=
  match name with
  | "mode" => do
    let mode ← Mode.ofName? value
    if mode.mayReplace options.mode then some { options with mode } else none
  | "cache" => if value = "shared" ∨ value = "private" then some options else none
  | "vfs" => some { options with system := value }
  | "immutable" => some { options with fixed := options.fixed <|> some (isYes value) }
  | _ => some options

/-- The location of a name under some options. -/
def locate? (options : Options) (name : String) : Option Location :=
  let unnamed := name = "" ∨ name = ":memory:" ∨ options.mode = .memory
  if options.system ∉ systems then none
  else some {
    medium := if unnamed ∨ options.system = memorySystem then .memory else .file name
    mode := options.mode
    fixed := !unnamed && options.fixed.getD false }

end Options

namespace Location

/-- The text that a part of a location stands for. It ends before a code for a byte of zero. -/
def plain (part : List Char) : String :=
  String.ofList (Utf8.decodeLossy ((Percent.decode part).takeWhile (· ≠ 0)))

/-- Adds an option that is written as a name, perhaps with a value. One without a name is left
out. -/
def addOption? (options : Options) (text : List Char) : Option Options :=
  let name := plain (text.takeWhile (· ≠ '='))
  if name = "" then some options
  else options.add? name (plain ((text.dropWhile (· ≠ '=')).drop 1))

/-- What follows the name of the machine, which can only be this one. -/
def dropMachine? : List Char → Option (List Char)
  | '/' :: '/' :: rest =>
    let machine := String.ofList (rest.takeWhile (· ≠ '/'))
    if machine = "" ∨ machine = "localhost" then some (rest.dropWhile (· ≠ '/')) else none
  | text => some text

/-- Reads what follows `file:`. -/
def ofCoded? (text : List Char) : Option Location := do
  let text := (← dropMachine? text).takeWhile (· ≠ '#')
  let written := (text.dropWhile (· ≠ '?')).drop 1
  let options ← (written.splitOn '&').foldlM addOption? Options.usual
  options.locate? (plain (text.takeWhile (· ≠ '?')))

/-- Reads a location. -/
def ofText? (text : String) : Option Location :=
  if text.contains '\x00' then none
  else
    match text.toList with
    | 'f' :: 'i' :: 'l' :: 'e' :: ':' :: rest => ofCoded? rest
    | _ => Options.usual.locate? text

/-- The store that is opened can be changed. -/
def isWritable (location : Location) : Bool := location.mode ≠ .read && !location.fixed

end Location

end BotOps.Store
