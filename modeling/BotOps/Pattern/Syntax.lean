import BotOps.Pattern.Match

/-!
# Syntax of patterns

A pattern as it is written, before its flags are applied. How deep a tree is nested counts a
sequence of any length, and a choice of any number of branches, as one level.
-/

namespace BotOps.Pattern

open BotOps.Text

/-- What a pattern can switch on and off. -/
inductive Flag where
  /-- Upper and lower case do not differ. -/
  | caseless
  /-- Lines have a start and an end of their own. -/
  | multiLine
  /-- The point stands for the end of a line too. -/
  | dotAll
  /-- Repetitions prefer few matches. -/
  | swapGreed
  /-- Classes are those of Unicode. -/
  | unicode
  /-- A carriage return ends a line too. -/
  | returns
  /-- Blanks and comments in the pattern do not matter. -/
  | extended
deriving DecidableEq, Repr, Inhabited

/-- The flag of a letter. -/
def Flag.ofLetter? (c : Char) : Option Flag :=
  match c with
  | 'i' => some .caseless
  | 'm' => some .multiLine
  | 's' => some .dotAll
  | 'U' => some .swapGreed
  | 'u' => some .unicode
  | 'R' => some .returns
  | 'x' => some .extended
  | _ => none

/-- Flags that are switched on or off. -/
abbrev Changes := List (Flag × Bool)

/-- The state of a flag after some changes. -/
def Changes.state (changes : Changes) (flag : Flag) (before : Bool) : Bool :=
  (changes.lookup flag).getD before

/-- The classes with a letter of their own. -/
inductive Shorthand where
  | digit
  | blank
  | word
deriving DecidableEq, Repr, Inhabited

/-- A part of a pattern that stands for itself. -/
inductive Element where
  /-- A character, which may be written as a byte. -/
  | literal (c : Char) (byte : Bool)
  | point
  /-- The condition written `^`. -/
  | start
  /-- The condition written `$`. -/
  | stop
  | textStart
  | textEnd
  | word (edge : WordEdge)
  | shorthand (shorthand : Shorthand) (negated : Bool)
  /-- A class named for a property. -/
  | property (name : List Char) (negated : Bool)
deriving DecidableEq, Repr, Inhabited

/-- The operations between sets. -/
inductive SetOperator where
  | intersection
  | difference
  | symmetricDifference
deriving DecidableEq, Repr, Inhabited

/-- A set of characters between brackets. -/
inductive SetTree where
  | nothing
  | range (first last : Char) (byte : Bool)
  | shorthand (shorthand : Shorthand) (negated : Bool)
  | property (name : List Char) (negated : Bool)
  /-- A named class of ASCII. -/
  | named (chars : Ranges) (negated : Bool)
  | nested (negated : Bool) (set : SetTree)
  | union (first second : SetTree)
  | operation (operator : SetOperator) (left right : SetTree)
deriving DecidableEq, Repr, Inhabited

namespace SetTree

/-- The set of several items. -/
def ofItems : List SetTree → SetTree
  | [] => .nothing
  | [item] => item
  | item :: items => .union item (ofItems items)

/-- How deep a set is nested. -/
def depth : SetTree → Nat
  | .nested _ set => set.depth + 1
  | .union first (.union second third) => max (first.depth + 1) (depth (.union second third))
  | .union first second => max first.depth second.depth + 1
  | .operation _ left right => max left.depth right.depth + 1
  | _ => 0

end SetTree

/-- A pattern as it is written. -/
inductive Tree where
  | nothing
  /-- A change of flags for what follows. -/
  | flags (changes : Changes)
  | element (element : Element)
  | set (negated : Bool) (set : SetTree)
  | repeated (tree : Tree) (least : Nat) (greatest : Option Nat)
  /-- A group, which may be remembered, with a change of flags for its content. -/
  | group (remembered : Bool) (changes : Changes) (tree : Tree)
  | seq (first second : Tree)
  | alt (first second : Tree)
deriving DecidableEq, Repr, Inhabited

namespace Tree

/-- Trees one behind the other. -/
def ofSequence : List Tree → Tree
  | [] => .nothing
  | [tree] => tree
  | tree :: trees => .seq tree (ofSequence trees)

/-- A choice between trees. -/
def ofBranches : List Tree → Tree
  | [] => .nothing
  | [tree] => tree
  | tree :: trees => .alt tree (ofBranches trees)

/-- How deep a tree is nested. -/
def depth : Tree → Nat
  | .set _ content => content.depth + 1
  | .repeated tree _ _ => tree.depth + 1
  | .group _ _ tree => tree.depth + 1
  | .seq first (.seq second third) => max (first.depth + 1) (depth (.seq second third))
  | .seq first second => max first.depth second.depth + 1
  | .alt first (.alt second third) => max (first.depth + 1) (depth (.alt second third))
  | .alt first second => max first.depth second.depth + 1
  | _ => 0

/-- Something that a repetition can repeat. -/
def isRepeatable : Tree → Bool
  | .nothing => false
  | .flags _ => false
  | _ => true

end Tree

end BotOps.Pattern
