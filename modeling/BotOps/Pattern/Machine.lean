import BotOps.Pattern.Plan
import Std.Data.HashMap

/-!
# The room of a matching machine

A plan is turned into a machine that reads a text byte by byte, and into a second one that reads it
backwards. Here only the states of a machine are counted and the room that they take, because a
pattern whose machines grow too large is refused. Equal states of a class are shared, as far as a
table of limited size remembers them.
-/

namespace BotOps.Pattern

open BotOps.Text

/-- A machine as far as it is built: the number of its states, and the room that they take for the
edges that they hold. -/
structure Machine where
  states : Nat
  edges : Nat
deriving DecidableEq, Repr, Inhabited

namespace Machine

/-- The room of a state, not counting its edges. -/
def stateRoom : Nat := 32

/-- The room of an edge that reads a byte. -/
def byteEdge : Nat := 8

/-- The room of an edge that reads nothing. -/
def emptyEdge : Nat := 4

/-- The room that a machine may take. -/
def roomLimit : Nat := 10 * 1024 * 1024

/-- The room of a machine. -/
def room (machine : Machine) : Nat := stateRoom * machine.states + machine.edges

/-- Adds some states, with room for their edges, if the machine does not grow too large. -/
def add? (states edges : Nat) (machine : Machine) : Option Machine :=
  let machine : Machine := ⟨machine.states + states, machine.edges + edges⟩
  if machine.room ≤ roomLimit then some machine else none

/-- Builds something a number of times. -/
def times (build : Machine → Option Machine) : Nat → Machine → Option Machine
  | 0, machine => some machine
  | count + 1, machine =>
    match build machine with
    | some machine => times build count machine
    | none => none

end Machine

/-- The place of some numbers in a table with a number of slots: the FNV-1a hash. -/
def slot (slots : Nat) (numbers : List Nat) : Nat :=
  (numbers.foldl (fun hash n ↦ (hash ^^^ UInt64.ofNat n) * 1099511628211)
    14695981039346656037).toNat % slots

/-- A table that remembers for each slot what was last entered there: a key, and the state that was
built for it. -/
abbrev Memory (κ : Type) := Std.HashMap Nat (κ × Nat)

/-- The state that a table remembers for a key. -/
def Memory.recall? {κ : Type} [DecidableEq κ] (memory : Memory κ) (slot : Nat) (key : κ) :
    Option Nat :=
  match memory[slot]? with
  | some (found, state) => if found = key then some state else none
  | none => none

namespace Forward

/-- An edge: the bytes that it reads and the state that it leads to. -/
structure Edge where
  bytes : ByteRange
  target : Nat
deriving DecidableEq, Repr, Inhabited

/-- A state that is still open: its edges, last one first, and the bytes of one more edge, whose
target is not built yet. -/
structure Opened where
  edges : List Edge
  bytes : ByteRange
deriving Repr, Inhabited

/-- The numbers that the place of a state in the table depends on. -/
def numbers (edges : List Edge) : List Nat :=
  edges.flatMap fun edge ↦ [edge.bytes.1, edge.bytes.2, edge.target]

/-- How many states the table has room for. -/
def slots : Nat := 10000

/-- A machine, and the states that may be shared. -/
abbrev Progress := Machine × Memory (List Edge)

/-- Builds a state with some edges, or takes one that is there already. -/
def close? (edges : List Edge) (progress : Progress) : Option (Nat × Progress) :=
  let (machine, memory) := progress
  let slot := slot slots (numbers edges)
  match memory.recall? slot edges with
  | some state => some (state, progress)
  | none =>
    (machine.add? 1 (Machine.byteEdge * edges.length)).map fun grown ↦
      (machine.states, grown, memory.insert slot (edges, machine.states))

/-- Closes open states, innermost first, the first of which leads to a state. -/
def closeAll? : List Opened → Nat → Progress → Option (Nat × Progress)
  | [], target, progress => some (target, progress)
  | state :: outer, target, progress =>
    match close? ((⟨state.bytes, target⟩ :: state.edges).reverse) progress with
    | some (target, progress) => closeAll? outer target progress
    | none => none

/-- How many byte ranges of a run are those of the open states, outermost first. -/
def sharedCount : List Opened → ByteRun → Nat
  | state :: inner, bytes :: run => if state.bytes = bytes then sharedCount inner run + 1 else 0
  | _, _ => 0

/-- Adds one run: the open states that it does not share are closed, and it opens new ones. -/
def addRun? (final : Nat) (opened : List Opened) (progress : Progress) (run : ByteRun) :
    Option (List Opened × Progress) :=
  let shared := sharedCount opened.reverse run
  let closing := opened.length - (shared + 1)
  match closeAll? (opened.take closing) final progress with
  | none => none
  | some (target, progress) =>
    let open? (opened : List Opened) (bytes : ByteRange) : List Opened := ⟨[], bytes⟩ :: opened
    match opened.drop closing, run.drop shared with
    | state :: outer, bytes :: rest =>
      let state : Opened := ⟨⟨state.bytes, target⟩ :: state.edges, bytes⟩
      some (rest.foldl open? (state :: outer), progress)
    | _, run => some (run.foldl open? [], progress)

/-- Adds some runs. -/
def addRuns? (final : Nat) : List ByteRun → List Opened → Progress → Option Progress
  | [], opened, progress => (closeAll? opened final progress).map Prod.snd
  | run :: runs, opened, progress =>
    match addRun? final opened progress run with
    | some (opened, progress) => addRuns? final runs opened progress
    | none => none

/-- Builds a class: states that read its runs and share what their ends have in common. -/
def build (runs : List ByteRun) (machine : Machine) : Option Machine := do
  let final := machine.states
  let machine ← machine.add? 1 0
  let (machine, _) ← addRuns? final runs [] (machine, ∅)
  return machine

end Forward

namespace Backward

/-- How many states the table has room for. -/
def slots : Nat := 1000

/-- A machine, and the states that may be shared: for each the state that it leads to and the bytes
that it reads. -/
abbrev Progress := Machine × Memory (Nat × ByteRange)

/-- Builds the states of a run, first byte last. -/
def addRun? : ByteRun → Nat → Progress → Option Progress
  | [], _, (machine, memory) =>
    (machine.add? 0 Machine.emptyEdge).map fun machine ↦ (machine, memory)
  | bytes :: run, target, (machine, memory) =>
    let slot := slot slots [target, bytes.1, bytes.2]
    match memory.recall? slot (target, bytes) with
    | some state => addRun? run state (machine, memory)
    | none =>
      match machine.add? 1 0 with
      | some grown =>
        addRun? run machine.states (grown, memory.insert slot ((target, bytes), machine.states))
      | none => none

/-- Adds some runs that lead to the same state. -/
def addRuns? (final : Nat) : List ByteRun → Progress → Option Progress
  | [], progress => some progress
  | run :: runs, progress =>
    match addRun? run final progress with
    | some progress => addRuns? final runs progress
    | none => none

/-- Builds a class: a state that chooses among its runs, and the states of the runs. -/
def build (runs : List ByteRun) (machine : Machine) : Option Machine := do
  let final := machine.states + 1
  let machine ← machine.add? 2 0
  let (machine, _) ← addRuns? final runs (machine, ∅)
  return machine

end Backward

/-- The texts behind those of some literals that begin with a byte, for each byte in the order of
their first occurrence; empty literals are left out. -/
def tails (literals : List (List UInt8)) : List (List (List UInt8)) :=
  let bytes := (literals.filterMap List.head?).eraseDups
  bytes.map fun byte ↦ literals.filterMap fun literal ↦
    if literal.head? = some byte then some literal.tail else none

/-- The parts of a list of literals between the empty ones. -/
def betweenEnds (literals : List (List UInt8)) : List (List (List UInt8)) :=
  literals.splitBy fun a b ↦ !a.isEmpty && !b.isEmpty

/-- The states of a tree of literals up to a depth, without those that end it, and the room of their
edges. At each node the literals that end there keep those before them apart from those behind. -/
def treeSize : Nat → List (List UInt8) → Nat × Nat
  | 0, _ => (0, 0)
  | depth + 1, literals =>
    if literals.all List.isEmpty then (0, 0)
    else
      let ends := literals.countP List.isEmpty
      let parts := (betweenEnds literals).map tails |>.filter (· ≠ [])
      let inner := parts.flatten.map (treeSize depth)
      let edges := (parts.map fun part ↦
        if part.length = 1 then 0 else Machine.byteEdge * part.length).sum
      (1 + parts.length + (inner.map Prod.fst).sum,
        Machine.emptyEdge * (ends + parts.length) + edges + (inner.map Prod.snd).sum)

namespace Plan

/-- The text of a plan that is a literal. -/
def literal? : Plan → Option (List Char)
  | .literal text => some text
  | _ => none

/-- The texts of a choice between literals only. -/
def literals? : Plan → Option (List (List Char))
  | .alt first second => (first :: second.branches).mapM literal?
  | _ => none

/-- Builds a choice between literals: a tree that the beginnings of the literals share. -/
def buildTree (backward : Bool) (literals : List (List Char)) (machine : Machine) :
    Option Machine :=
  let texts := literals.map fun literal ↦
    let bytes := Utf8.encode literal
    if backward then bytes.reverse else bytes
  let depth := (texts.map List.length).foldl max 0
  let (states, edges) := treeSize (depth + 1) texts
  machine.add? (states + 1) edges

/-- Builds a choice between alternatives. The state that chooses among them, and the one in which
they end, are built behind the second. -/
def buildChoice (alternatives : List (Machine → Option Machine)) (machine : Machine) :
    Option Machine :=
  match alternatives with
  | [] => machine.add? 2 0
  | [build] => build machine
  | first :: second :: rest =>
    let joint := Machine.add? 2 (Machine.emptyEdge * alternatives.length)
    rest.foldl Option.bind ((first machine).bind second |>.bind joint)

/-- Builds the repetition of something; what needs characters is repeated without a detour. -/
def buildRepeated (one : Machine → Option Machine) (needsChars : Bool) (least : Nat)
    (greatest : Option Nat) (machine : Machine) : Option Machine :=
  let choice := Machine.add? 1 (2 * Machine.emptyEdge)
  let joint := Machine.add? 1 0
  match least, greatest with
  | 0, some 1 => choice machine |>.bind one |>.bind joint
  | 0, none =>
    if needsChars then choice machine |>.bind one
    else one machine |>.bind choice |>.bind choice |>.bind joint
  | least, none => Machine.times one least machine |>.bind choice
  | least, some greatest =>
    let start := if least = 0 then joint machine else Machine.times one least machine
    if greatest = least then start
    else
      start |>.bind joint
        |>.bind (Machine.times (fun machine ↦ (choice machine).bind one) (greatest - least))

/-- Builds a plan, given how its alternatives are built. -/
def buildFrom (backward : Bool) (plan : Plan) (alternatives : List (Machine → Option Machine)) :
    Machine → Option Machine :=
  match plan.literals? with
  | some literals => buildTree backward literals
  | none => buildChoice alternatives

/-- How the alternatives of a plan are built, each into a machine. -/
def builders (backward : Bool) : Plan → List (Machine → Option Machine)
  | .empty => [Machine.add? 1 0]
  | .literal text => [Machine.add? (Utf8.encode text).length 0]
  | .narrow chars => [Machine.add? 2 (Machine.byteEdge * chars.length)]
  | .wide _ runs => [if backward then Backward.build runs else Forward.build runs]
  | .look _ => [Machine.add? 1 0]
  | .remembered plan =>
    let inner := buildFrom backward plan (builders backward plan)
    let mark := Machine.add? 1 0
    [if backward then inner else fun machine ↦ mark machine |>.bind inner |>.bind mark]
  | .repeated plan least greatest =>
    [buildRepeated (buildFrom backward plan (builders backward plan))
      (plan.leastLength?.any (0 < ·)) least greatest]
  | .seq first second =>
    let first := buildFrom backward first (builders backward first)
    let second := buildFrom backward second (builders backward second)
    [fun machine ↦ if backward then (second machine).bind first else (first machine).bind second]
  | .alt first second =>
    buildFrom backward first (builders backward first) :: builders backward second

/-- Builds the whole machine of a plan. A match may begin anywhere unless the plan says where, and a
machine that reads forward remembers where it began and ended. -/
def machine? (backward : Bool) (plan : Plan) : Option Machine := do
  let isBound := if backward then plan.closesAtEnd else plan.opensAtStart
  let body := buildFrom backward plan (builders backward plan)
  let machine : Machine := ⟨0, 0⟩
  let machine ← if isBound then machine.add? 1 0 else machine.add? 3 16
  if backward then body machine >>= Machine.add? 1 0
  else machine.add? 1 0 >>= body >>= Machine.add? 2 0

/-- So many literals are searched for without a machine. -/
def manyLiterals : Nat := 3000

/-- The machines of a plan, both ways, find room. A choice between many literals needs none. -/
def fits (plan : Plan) : Bool :=
  plan.literals?.any (manyLiterals ≤ ·.length) ||
    ((plan.machine? false).isSome && (plan.machine? true).isSome)

end Plan

end BotOps.Pattern
