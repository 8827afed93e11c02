import BotOps.Metrics.Double
import BotOps.Pattern.Match

/-!
# The load of the selected processes

A process is selected by its command line. The load is the sum over the selected processes.
-/

namespace BotOps.Metrics

/-- A process: its name, its arguments as far as they can be read, and its share of the processor
in percent. -/
structure RunningProcess where
  name : String
  arguments : List String
  usage : Double
deriving DecidableEq, Repr, Inhabited

/-- The command line of a process: its arguments, or its name if there are none. -/
def commandLine (name : String) (arguments : List String) : String :=
  if arguments.isEmpty then name else " ".intercalate arguments

/-- A pattern selects a process by its command line. -/
def RunningProcess.isSelected (pattern : Pattern.Node) (process : RunningProcess) : Bool :=
  pattern.finds (commandLine process.name process.arguments).toList

/-- The load of the processes that a pattern selects. -/
def loadOf (processes : List RunningProcess) (pattern : Pattern.Node) : Double :=
  let selected := processes.filter (RunningProcess.isSelected pattern)
  selected.foldl (fun load process ↦ load.add process.usage) .zero

end BotOps.Metrics
