import BotOps.Pattern.ByteRun
import BotOps.Pattern.Match

/-!
# Plans

Before a pattern is turned into a machine it is simplified: literals that follow one another become
one, so do single characters and classes that are alternatives, and a beginning that all
alternatives share stands before them. A plan is a pattern in this form.
-/

namespace BotOps.Pattern

open BotOps.Text

/-- A simplified pattern. -/
inductive Plan where
  | empty
  | literal (text : List Char)
  /-- A class of several characters of ASCII, or of none. -/
  | narrow (chars : Ranges)
  /-- Any other class, and its runs of bytes. -/
  | wide (chars : Ranges) (runs : List ByteRun)
  | look (look : Look)
  | repeated (plan : Plan) (least : Nat) (greatest : Option Nat)
  /-- A part that is remembered. -/
  | remembered (plan : Plan)
  | seq (first second : Plan)
  | alt (first second : Plan)
deriving DecidableEq, Repr, Inhabited

namespace Plan

/-- The plan of a class. -/
def ofClass (chars : Ranges) : Plan :=
  match chars with
  | [(first, last)] =>
    if first = last then .literal [Char.ofNat first]
    else if last < 0x80 then .narrow chars
    else .wide chars (chars.flatMap ByteRun.ofRange)
  | chars => if chars.isAscii then .narrow chars else .wide chars (chars.flatMap ByteRun.ofRange)

/-- The least number of characters that a plan matches, unless some part of it matches nothing. -/
def leastLength? : Plan → Option Nat
  | .empty => some 0
  | .literal text => some text.length
  | .narrow chars => if chars = [] then none else some 1
  | .wide _ _ => some 1
  | .look _ => some 0
  | .repeated plan least _ => plan.leastLength?.map (least * ·)
  | .remembered plan => plan.leastLength?
  | .seq first second => do return (← first.leastLength?) + (← second.leastLength?)
  | .alt first second => do return min (← first.leastLength?) (← second.leastLength?)

/-- The greatest number of characters that a plan matches, unless there is no limit or some part of
it matches nothing. -/
def greatestLength? : Plan → Option Nat
  | .empty => some 0
  | .literal text => some text.length
  | .narrow chars => if chars = [] then none else some 1
  | .wide _ _ => some 1
  | .look _ => some 0
  | .repeated plan _ greatest => do return (← greatest) * (← plan.greatestLength?)
  | .remembered plan => plan.greatestLength?
  | .seq first second => do return (← first.greatestLength?) + (← second.greatestLength?)
  | .alt first second => do return max (← first.greatestLength?) (← second.greatestLength?)

/-- Every match of a plan begins at the start of the text. -/
def opensAtStart : Plan → Bool
  | .look condition => condition = .textStart
  | .repeated plan least _ => 0 < least && plan.opensAtStart
  | .remembered plan => plan.opensAtStart
  | .seq first second =>
    first.opensAtStart || (first.greatestLength? = some 0 && second.opensAtStart)
  | .alt first second => first.opensAtStart && second.opensAtStart
  | _ => false

/-- Every match of a plan ends at the end of the text; and every match of it is empty. -/
def ending : Plan → Bool × Bool
  | .empty => (false, true)
  | .look condition => (condition = .textEnd, true)
  | .repeated plan least greatest =>
    let (closes, isEmpty) := plan.ending
    (0 < least && closes, greatest.isSome && isEmpty)
  | .remembered plan => plan.ending
  | .seq first second =>
    let (secondCloses, secondIsEmpty) := second.ending
    let (firstCloses, firstIsEmpty) := first.ending
    (secondCloses || (secondIsEmpty && firstCloses), firstIsEmpty && secondIsEmpty)
  | .alt first second =>
    let (firstCloses, firstIsEmpty) := first.ending
    let (secondCloses, secondIsEmpty) := second.ending
    (firstCloses && secondCloses, firstIsEmpty && secondIsEmpty)
  | _ => (false, false)

/-- Every match of a plan ends at the end of the text. -/
def closesAtEnd (plan : Plan) : Bool := plan.ending.1

/-- Something in a plan is remembered. -/
def remembers : Plan → Bool
  | .repeated plan _ _ => plan.remembers
  | .remembered _ => true
  | .seq first second => first.remembers || second.remembers
  | .alt first second => first.remembers || second.remembers
  | _ => false

/-- The parts of a plan that follow one another. -/
def parts : Plan → List Plan
  | .empty => []
  | .seq first second => first :: second.parts
  | plan => [plan]

/-- A part and a plan behind it; a literal before a literal becomes one with it. -/
def prepend : Plan → Plan → Plan
  | .empty, plan => plan
  | part, .empty => part
  | .literal a, .literal b => .literal (a ++ b)
  | .literal a, .seq (.literal b) plan => .seq (.literal (a ++ b)) plan
  | part, plan => .seq part plan

/-- One plan behind the other. -/
def append : Plan → Plan → Plan
  | .seq first second, plan => prepend first (append second plan)
  | part, plan => prepend part plan

/-- The plan of some plans that follow one another. -/
def concat (plans : List Plan) : Plan := plans.foldr append .empty

/-- The alternatives of a plan. -/
def branches : Plan → List Plan
  | .alt first second => first :: second.branches
  | plan => [plan]

/-- The plan of some alternatives; without any it matches nothing. -/
def ofBranches : List Plan → Plan
  | [] => .narrow []
  | [branch] => branch
  | branch :: branches => .alt branch (ofBranches branches)

/-- The number of repetitions that count where only the empty text is repeated. -/
def times (plan : Plan) (least : Nat) (greatest : Option Nat) : Plan :=
  let (least, greatest) :=
    if plan.greatestLength? = some 0 then (min least 1, some (min (greatest.getD 1) 1))
    else (least, greatest)
  if greatest = some 0 then .empty
  else if least = 1 ∧ greatest = some 1 then plan
  else .repeated plan least greatest

/-- The single character that a plan matches. -/
def single? : Plan → Option Char
  | .literal [c] => some c
  | _ => none

/-- The class that a plan is. -/
def class? : Plan → Option Ranges
  | .narrow chars => some chars
  | .wide chars _ => some chars
  | _ => none

/-- A choice between alternatives, without regard to what they share. Single characters make a
class, and so do classes. -/
def choice (plans : List Plan) : Plan :=
  match plans.flatMap branches with
  | [] => .narrow []
  | [branch] => branch
  | branches =>
    match branches.mapM single?, branches.mapM class? with
    | some chars, _ => ofClass (.together (chars.map .single))
    | none, some classes => ofClass (.together classes)
    | none, none => ofBranches branches

/-- How many parts two plans share at their beginning. What is remembered is never the same. -/
def sharedCount : List Plan → List Plan → Nat
  | a :: as, b :: bs => if a = b ∧ !a.remembers then sharedCount as bs + 1 else 0
  | _, _ => 0

/-- The alternatives of a choice, if they have a beginning in common: how many parts it has. -/
def commonCount (alternatives : List (List Plan)) : Nat :=
  match alternatives with
  | [] => 0
  | first :: rest =>
    if alternatives.all fun parts ↦ 2 ≤ parts.length then
      rest.foldl (fun count parts ↦ min count (sharedCount first parts)) first.length
    else 0

/-- A choice between alternatives. A beginning that all of them share stands before the choice. -/
def alternation (plans : List Plan) : Plan :=
  let plain := choice plans
  match plain.branches with
  | [_] => plain
  | branches =>
    let alternatives := branches.map parts
    let count := commonCount alternatives
    if count = 0 then plain
    else
      let rests := alternatives.map fun parts ↦ concat (parts.drop count)
      concat ((alternatives.headD []).take count ++ [choice rests])

/-- The plans of the alternatives of a pattern. -/
def alternatives : Node → List Plan
  | .empty => [.empty]
  | .one chars => [ofClass chars]
  | .look condition => [.look condition]
  | .seq first second =>
    [append (alternation (alternatives first)) (alternation (alternatives second))]
  | .alt first second => alternation (alternatives first) :: alternatives second
  | .repeated node least greatest => [times (alternation (alternatives node)) least greatest]
  | .group isRemembered node =>
    let plan := alternation (alternatives node)
    [if isRemembered then .remembered plan else plan]

/-- The plan of a pattern. -/
def ofNode (node : Node) : Plan := alternation (alternatives node)

end Plan

end BotOps.Pattern
