import BotOps.Pattern.Machine
import BotOps.Pattern.Parser
import BotOps.Pattern.Property
import BotOps.Text.Folding

/-!
# The meaning of a pattern

What a tree matches depends on the flags in force at each place: `Tree.meaning?` applies them. A
text is matched by whole characters, so without the classes of Unicode a pattern must not ask for
bytes beyond ASCII. A pattern that would need too much room is refused as well.
-/

namespace BotOps.Pattern

open BotOps.Text

/-- The flags that matter for the meaning. -/
structure Flags where
  caseless : Bool
  multiLine : Bool
  dotAll : Bool
  unicode : Bool
  returns : Bool
deriving DecidableEq, Repr, Inhabited

namespace Flags

/-- The flags at the start of a pattern. -/
def start : Flags := ⟨false, false, false, true, false⟩

/-- The flags after some changes. -/
def change (flags : Flags) (changes : Changes) : Flags where
  caseless := changes.state .caseless flags.caseless
  multiLine := changes.state .multiLine flags.multiLine
  dotAll := changes.state .dotAll flags.dotAll
  unicode := changes.state .unicode flags.unicode
  returns := changes.state .returns flags.returns

/-- Closes a class under a change of case if the flags ask for it. -/
def fold (flags : Flags) (chars : Ranges) : Ranges :=
  if flags.caseless then if flags.unicode then chars.folded else chars.foldedAscii else chars

/-- Takes the complement of a class if asked to. Without Unicode it would have bytes beyond
ASCII. -/
def negate? (flags : Flags) (negated : Bool) (chars : Ranges) : Option Ranges :=
  if negated then if flags.unicode then some chars.complement else none else some chars

end Flags

/-- The class of a shorthand. -/
def Shorthand.chars (shorthand : Shorthand) (unicode : Bool) : Ranges :=
  match shorthand, unicode with
  | .digit, true => decimalDigits
  | .blank, true => blanks
  | .word, true => wordRanges
  | .digit, false => Class.digit
  | .blank, false => Class.blank
  | .word, false => Class.word

/-- The class of a range of characters. Without Unicode its ends have to be ASCII. -/
def Flags.range? (flags : Flags) (first last : Char) : Option Ranges :=
  if flags.unicode || last.toNat < 0x80 then some [(first.toNat, last.toNat)] else none

/-- The class of a property, which is one of Unicode. -/
def Flags.property? (flags : Flags) (name : List Char) (negated : Bool) : Option Ranges := do
  if flags.unicode then
    let (chars, others) ← Property.parse? name
    flags.negate? (negated != others) (flags.fold chars)
  else none

/-- The class of a set. -/
def SetTree.chars? (flags : Flags) : SetTree → Option Ranges
  | .nothing => some []
  | .range first last _ => flags.range? first last
  | .shorthand kind negated => flags.negate? negated (kind.chars flags.unicode)
  | .property name negated => flags.property? name negated
  | .named chars negated => flags.negate? negated (flags.fold chars)
  | .nested negated set => do
    let chars ← set.chars? flags
    flags.negate? negated (flags.fold chars)
  | .union first second => do
    let first ← first.chars? flags
    let second ← second.chars? flags
    return .union first second
  | .operation operator left right => do
    let left := flags.fold (← left.chars? flags)
    let right := flags.fold (← right.chars? flags)
    return match operator with
      | .intersection => .intersection left right
      | .difference => .difference left right
      | .symmetricDifference => .symmetricDifference left right

namespace Element

/-- The class of a character. A byte beyond ASCII is a character only in Unicode. -/
def literalClass? (flags : Flags) (c : Char) (byte : Bool) : Option Ranges :=
  if !flags.unicode && byte && 0x80 ≤ c.toNat then none else some (flags.fold (.single c))

/-- The class of the point. -/
def pointClass? (flags : Flags) : Option Ranges :=
  if !flags.unicode then none
  else if flags.dotAll then some .everything
  else some (.complement (if flags.returns then [(0xa, 0xa), (0xd, 0xd)] else [(0xa, 0xa)]))

/-- What an element matches. -/
def meaning? (flags : Flags) : Element → Option Node
  | .literal c byte => (literalClass? flags c byte).map .one
  | .point => (pointClass? flags).map .one
  | .start => some (.look (if flags.multiLine then .lineStart flags.returns else .textStart))
  | .stop => some (.look (if flags.multiLine then .lineEnd flags.returns else .textEnd))
  | .textStart => some (.look .textStart)
  | .textEnd => some (.look .textEnd)
  | .word edge => some (.look (.word flags.unicode edge))
  | .shorthand kind negated => (flags.negate? negated (kind.chars flags.unicode)).map .one
  | .property name negated => (flags.property? name negated).map .one

end Element

/-- What a tree matches, and the flags in force behind it. -/
def Tree.meaning? (flags : Flags) : Tree → Option (Node × Flags)
  | .nothing => some (.empty, flags)
  | .flags changes => some (.empty, flags.change changes)
  | .element part => (part.meaning? flags).map fun node ↦ (node, flags)
  | .set negated content => do
    let chars ← content.chars? flags
    let chars ← flags.negate? negated (flags.fold chars)
    return (.one chars, flags)
  | .repeated tree least greatest => do
    let (node, behind) ← tree.meaning? flags
    return (.repeated node least greatest, behind)
  | .group remembered changes tree => do
    let (node, _) ← tree.meaning? (flags.change changes)
    return (.group remembered node, flags)
  | .seq first second => do
    let (first, flags) ← first.meaning? flags
    let (second, flags) ← second.meaning? flags
    return (.seq first second, flags)
  | .alt first second => do
    let (first, flags) ← first.meaning? flags
    let (second, flags) ← second.meaning? flags
    return (.alt first second, flags)

namespace Node

/-- The pattern that a text writes. -/
def parse? (text : String) : Option Node := do
  let tree ← Tree.parse? text.toList
  let (node, _) ← tree.meaning? .start
  if (Plan.ofNode node).fits then some node else none

end Node

end BotOps.Pattern
