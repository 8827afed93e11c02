import BotOps.Toml.Reader

/-!
# TOML documents

A document consists of lines: headers, assignments and empty lines, all of which may end with a
comment. A header begins a new part.
-/

namespace BotOps.Toml

/-- A part of a document: its header and its assignments, last one first. -/
structure Part where
  header : Header
  assignments : List Assignment
deriving Inhabited, Repr

/-- Reads a header behind its opening bracket, and the rest of its line. -/
def header? (text : List Char) : Option (Header × List Char) := do
  match text with
  | '[' :: rest => do
    let ((path, key), rest) ← key? rest
    let rest ← expect? ']' rest >>= expect? ']' >>= lineRest?
    some (.element path key, rest)
  | _ => do
    let ((path, key), rest) ← key? text
    let rest ← expect? ']' rest >>= lineRest?
    some (.table path key, rest)

/-- Reads an assignment and the rest of its line. -/
def assignment? (text : List Char) : Option (Assignment × List Char) := do
  let (key, rest) ← key? text
  let rest ← expect? '=' rest
  let (value, rest) ← value? (skipBlanks rest)
  let rest ← lineRest? rest
  some ((key, value), rest)

/-- Reads the lines of a document, as far as `fuel` lines reach. The part being read is given, and
those before it, last one first. -/
def linesWithin? : Nat → Part → List Part → List Char → Option (List Part)
  | 0, _, _, _ => none
  | fuel + 1, part, before, text =>
    match skipBlanks text with
    | [] => some (part :: before).reverse
    | '[' :: rest =>
      match header? rest with
      | some (header, rest) => linesWithin? fuel ⟨header, []⟩ (part :: before) rest
      | none => none
    | c :: rest =>
      if c = '#' ∨ c = '\n' ∨ c = '\r' then
        match lineRest? (c :: rest) with
        | some rest => linesWithin? fuel part before rest
        | none => none
      else
        match assignment? (c :: rest) with
        | some (assignment, rest) =>
          linesWithin? fuel { part with assignments := assignment :: part.assignments } before rest
        | none => none

/-- What is left of a text behind a byte order mark, if there is one. -/
def dropMark (text : List Char) : List Char :=
  match text with
  | '\ufeff' :: rest => rest
  | _ => text

/-- The table that a document writes. -/
def parse? (text : String) : Option Entries := do
  let text := dropMark text.toList
  let parts ← linesWithin? (text.length + 1) ⟨.top, []⟩ [] text
  parts.foldlM (fun entries part ↦ Entries.addPart? entries part.header part.assignments.reverse) []

end BotOps.Toml
