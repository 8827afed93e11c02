import BotOps.Pattern.Bracket
import BotOps.Text.Name

/-!
# Reading patterns

The reader goes through a pattern once and keeps the groups that are still open. A pattern that
breaks a rule of the syntax, or that is nested too deep, is none.
-/

namespace BotOps.Pattern

open BotOps.Text

/-- A group that is still open: what is known of it, and what was read of its content. -/
structure Level where
  remembered : Bool
  changes : Changes
  /-- Whether blanks are skipped around the group. -/
  extendedOutside : Bool
  /-- The complete branches, last one first. -/
  branches : List Tree
  /-- The parts of the branch being read, last one first. -/
  parts : List Tree
deriving Repr, Inhabited

/-- The reader of a pattern. -/
structure Reader where
  /-- The group being read. -/
  level : Level
  /-- The groups around it, innermost first. -/
  outer : List Level
  extended : Bool
  /-- The names of groups so far. -/
  names : List (List Char)
deriving Repr, Inhabited

namespace Level

/-- A level at its beginning. -/
def start (remembered : Bool) (changes : Changes) (extendedOutside : Bool) : Level :=
  ⟨remembered, changes, extendedOutside, [], []⟩

/-- A level with one more part. -/
def push (level : Level) (part : Tree) : Level := { level with parts := part :: level.parts }

/-- A level whose branch has ended. -/
def branch (level : Level) : Level :=
  { level with branches := .ofSequence level.parts.reverse :: level.branches, parts := [] }

/-- The content of a level that has ended. -/
def content (level : Level) : Tree := .ofBranches level.branch.branches.reverse

/-- A level whose last part is repeated. -/
def repeatLast? (level : Level) (least : Nat) (greatest : Option Nat) : Option Level :=
  match level.parts with
  | last :: parts =>
    if last.isRepeatable then
      some { level with parts := .repeated last least greatest :: parts }
    else none
  | [] => none

end Level

/-- Reads changes of flags up to the colon or parenthesis that ends them. A flag may occur once,
and a hyphen, once, switches off what follows it. -/
def changes? (negated dangling : Bool) (seen : Changes) :
    List Char → Option (Changes × Char × List Char)
  | [] => none
  | c :: rest =>
    if c = ':' ∨ c = ')' then if dangling then none else some (seen, c, rest)
    else if c = '-' then if negated then none else changes? true true seen rest
    else
      match Flag.ofLetter? c with
      | some flag =>
        if (seen.lookup flag).isSome then none
        else changes? negated false (seen ++ [(flag, !negated)]) rest
      | none => none

/-- A character that the name of a group may begin with. -/
def isNameStart (c : Char) : Bool := c = '_' || nameLetters.contains c

/-- A character that the name of a group may go on with. -/
def isNamePart (c : Char) : Bool :=
  isNameStart c || c = '.' || c = '[' || c = ']' || nameNumbers.contains c

/-- Reads the name of a group up to its closing angle. -/
def groupName? (text : List Char) : Option (List Char × List Char) :=
  match text.takeWhile isNamePart with
  | [] => none
  | c :: name =>
    match text.drop (name.length + 1) with
    | '>' :: rest => if isNameStart c then some (c :: name, rest) else none
    | _ => none

namespace Reader

/-- A reader at the start of a pattern. -/
def start : Reader := ⟨.start false [] false, [], false, []⟩

/-- Adds a part. -/
def push (reader : Reader) (part : Tree) : Reader := { reader with level := reader.level.push part }

/-- Opens a group. -/
def opened (reader : Reader) (remembered : Bool) (changes : Changes) : Reader :=
  { reader with
    level := .start remembered changes reader.extended
    outer := reader.level :: reader.outer
    extended := changes.state .extended reader.extended }

/-- Opens a group with a name, which has to be new. -/
def openNamed? (reader : Reader) (text : List Char) : Option (Reader × List Char) := do
  let (name, rest) ← groupName? text
  if name ∈ reader.names then none
  else some ({ reader with names := name :: reader.names }.opened true [], rest)

/-- Reads what follows an opening parenthesis. What looks ahead or behind is refused. -/
def openGroup? (reader : Reader) (text : List Char) : Option (Reader × List Char) := do
  match skip reader.extended text with
  | '?' :: '=' :: _ => none
  | '?' :: '!' :: _ => none
  | '?' :: '<' :: '=' :: _ => none
  | '?' :: '<' :: '!' :: _ => none
  | '?' :: 'P' :: '<' :: rest => reader.openNamed? rest
  | '?' :: '<' :: rest => reader.openNamed? rest
  | '?' :: rest =>
    let (changes, stop, rest) ← changes? false false [] rest
    if stop = ':' then some (reader.opened false changes, rest)
    else if changes = [] then none
    else
      let extended := changes.state .extended reader.extended
      some ({ reader.push (.flags changes) with extended }, rest)
  | rest => some (reader.opened true [], rest)

/-- Closes the innermost group. -/
def closeGroup? (reader : Reader) : Option Reader :=
  match reader.outer with
  | [] => none
  | level :: outer =>
    let group := Tree.group reader.level.remembered reader.level.changes reader.level.content
    some { reader with
      level := level.push group, outer, extended := reader.level.extendedOutside }

/-- Repeats the last part. -/
def repeatLast? (reader : Reader) (least : Nat) (greatest : Option Nat) : Option Reader :=
  (reader.level.repeatLast? least greatest).map fun level ↦ { reader with level }

/-- What is left behind an operator of repetition and the question mark that may follow it. -/
def dropPreference : List Char → List Char
  | '?' :: rest => rest
  | rest => rest

/-- Reads one part at the front of a text. -/
def step? (reader : Reader) (text : List Char) : Option (Reader × List Char) := do
  match text with
  | [] => none
  | '(' :: rest => reader.openGroup? rest
  | ')' :: rest => return (← reader.closeGroup?, rest)
  | '|' :: rest => return ({ reader with level := reader.level.branch }, rest)
  | '[' :: rest => do
    let (set, rest) ← set? reader.extended rest
    return (reader.push set, rest)
  | '?' :: rest => return (← reader.repeatLast? 0 (some 1), dropPreference rest)
  | '*' :: rest => return (← reader.repeatLast? 0 none, dropPreference rest)
  | '+' :: rest => return (← reader.repeatLast? 1 none, dropPreference rest)
  | '\x7b' :: rest => do
    let (count, rest) ← count? reader.extended rest
    return (← reader.repeatLast? count.1 count.2, rest)
  | text => do
    let (element, rest) ← element? reader.extended text
    return (reader.push (.element element), rest)

/-- Reads a text to its end, as far as `fuel` parts reach. -/
def run : Nat → Reader → List Char → Option Reader
  | 0, _, _ => none
  | fuel + 1, reader, text =>
    match skip reader.extended text with
    | [] => some reader
    | text =>
      match reader.step? text with
      | some (reader, rest) => run fuel reader rest
      | none => none

/-- The pattern that was read, if all groups are closed. -/
def finish? (reader : Reader) : Option Tree :=
  if reader.outer.isEmpty then some reader.level.content else none

end Reader

/-- How deep a pattern may be nested. -/
def depthLimit : Nat := 250

/-- The tree of a pattern. Every part takes at least one character. -/
def Tree.parse? (text : List Char) : Option Tree := do
  let reader ← Reader.start.run (text.length + 1) text
  let tree ← reader.finish?
  if tree.depth ≤ depthLimit then some tree else none

end BotOps.Pattern
