import BotOps.Pattern.Class
import BotOps.Text.Word

/-!
# Matching

A pattern is matched against all parts of a text at once: `reach` takes the places at which a part
may begin to the places at which it may end. A place is what stands before and behind it. Lists of
places have the furthest one first and none twice.
-/

namespace BotOps.Pattern

open BotOps.Text

/-- What a word boundary asks for. -/
inductive WordEdge where
  /-- A word begins or ends. -/
  | boundary
  /-- No word begins or ends. -/
  | inside
  /-- A word begins. -/
  | start
  /-- A word ends. -/
  | stop
  /-- No word character stands before. -/
  | startHalf
  /-- No word character stands behind. -/
  | stopHalf
deriving DecidableEq, Repr, Inhabited

/-- A condition on a place. -/
inductive Look where
  | textStart
  | textEnd
  /-- A line begins; lines end with a line feed, or with a carriage return too. -/
  | lineStart (returns : Bool)
  /-- A line ends. -/
  | lineEnd (returns : Bool)
  /-- A condition on words, whose characters are those of Unicode or of ASCII. -/
  | word (unicode : Bool) (edge : WordEdge)
deriving DecidableEq, Repr, Inhabited

/-- A pattern. -/
inductive Node where
  | empty
  /-- One character of a class. -/
  | one (chars : Ranges)
  | look (look : Look)
  | seq (first second : Node)
  | alt (first second : Node)
  /-- A number of matches in a row. -/
  | repeated (node : Node) (least : Nat) (greatest : Option Nat)
  /-- A part between parentheses, which may be remembered; it matches what its content matches. -/
  | group (remembered : Bool) (node : Node)
deriving DecidableEq, Repr, Inhabited

/-- A place in a text: how many characters stand before it, the last of them, and the text behind
it. -/
structure Place where
  index : Nat
  before : Option Char
  rest : List Char
deriving DecidableEq, Repr, Inhabited

namespace Place

/-- The places of a text from one place on, put before some earlier ones. -/
def onward (earlier : List Place) (index : Nat) (before : Option Char) :
    List Char → List Place
  | [] => ⟨index, before, []⟩ :: earlier
  | c :: rest => onward (⟨index, before, c :: rest⟩ :: earlier) (index + 1) (some c) rest

/-- All places of a text. -/
def all (text : List Char) : List Place := onward [] 0 none text

/-- The place behind one character of a class. -/
def advance? (chars : Ranges) (place : Place) : Option Place :=
  match place.rest with
  | [] => none
  | c :: rest => if chars.contains c then some ⟨place.index + 1, some c, rest⟩ else none

end Place

/-- Some character of a word stands at one side of a place. -/
def isWordAt (unicode : Bool) (c : Option Char) : Bool :=
  c.any (if unicode then wordRanges else Class.word).contains

namespace WordEdge

/-- The condition in terms of word characters before and behind a place. -/
def holds (edge : WordEdge) (before behind : Bool) : Bool :=
  match edge with
  | .boundary => before != behind
  | .inside => before == behind
  | .start => !before && behind
  | .stop => before && !behind
  | .startHalf => !before
  | .stopHalf => !behind

end WordEdge

/-- A place meets a condition. -/
def Look.holds (look : Look) (place : Place) : Bool :=
  let behind := place.rest.head?
  match look with
  | .textStart => place.before.isNone
  | .textEnd => behind.isNone
  | .lineStart false => place.before.isNone || place.before = some '\n'
  | .lineStart true =>
    place.before.isNone || place.before = some '\n' ||
      (place.before = some '\r' && behind != some '\n')
  | .lineEnd false => behind.isNone || behind = some '\n'
  | .lineEnd true =>
    behind.isNone || behind = some '\r' || (behind = some '\n' && place.before != some '\r')
  | .word unicode edge => edge.holds (isWordAt unicode place.before) (isWordAt unicode behind)

/-- Two lists of places as one. -/
def merge : List Place → List Place → List Place
  | [], b => b
  | a, [] => a
  | p :: a, q :: b =>
    if q.index < p.index then p :: merge a (q :: b)
    else if p.index < q.index then q :: merge (p :: a) b
    else p :: merge a b
termination_by a b => a.length + b.length

/-- The places of the first list that are not in the second. -/
def without : List Place → List Place → List Place
  | [], _ => []
  | a, [] => a
  | p :: a, q :: b =>
    if q.index < p.index then p :: without a (q :: b)
    else if p.index < q.index then without (p :: a) b
    else without a b
termination_by a b => a.length + b.length

/-- The places that at most `steps` further steps reach from places that are new. -/
def spread (step : List Place → List Place) : Nat → List Place → List Place → List Place
  | 0, seen, _ => seen
  | steps + 1, seen, new =>
    match without (step new) seen with
    | [] => seen
    | found => spread step steps (merge found seen) found

/-- A bound on the steps that reach something new from some places: how much text there is behind
the first of them. -/
def room (places : List Place) : Nat :=
  ((places.getLast?.map fun place ↦ place.rest.length).getD 0) + 1

/-- The places at which a match may end that begins at one of some places. -/
def reach : Node → List Place → List Place
  | .empty, places => places
  | .one chars, places => places.filterMap (Place.advance? chars)
  | .look look, places => places.filter look.holds
  | .seq first second, places => reach second (reach first places)
  | .alt first second, places => merge (reach first places) (reach second places)
  | .repeated node least greatest, places =>
    let room := room places
    let start := Nat.repeat (reach node) (min least room) places
    let steps := match greatest with
      | some greatest => min (greatest - least) room
      | none => room
    spread (reach node) steps start start
  | .group _ node, places => reach node places

/-- A pattern matches some part of a text. -/
def Node.finds (node : Node) (text : List Char) : Bool := !(reach node (Place.all text)).isEmpty

end BotOps.Pattern
