import BotOps.Pattern.Element

/-!
# Reading sets of characters

A set stands between brackets. The reader keeps the sets that are still open, and for each of them
the operation that waits for its right side.
-/

namespace BotOps.Pattern

/-- A set that is still open, or an operation that waits for its right side. -/
inductive SetFrame where
  /-- An open set and the items of the set around it, last item first. -/
  | opened (negated : Bool) (outside : List SetTree)
  | operation (operator : SetOperator) (left : SetTree)
deriving Repr, Inhabited

/-- Reads a named class of ASCII behind its opening bracket. -/
def namedClass? (text : List Char) : Option (SetTree × List Char) := do
  match text with
  | ':' :: rest =>
    let (negated, rest) := match rest with
      | '^' :: rest => (true, rest)
      | _ => (false, rest)
    let name := rest.takeWhile (· != ':')
    let chars ← Class.named.lookup (String.ofList name)
    match rest.drop name.length with
    | ':' :: ']' :: rest => some (.named chars negated, rest)
    | _ => none
  | _ => none

/-- Reads the opening of a set behind its bracket: whether it is negated, and its first items, last
one first. Leading hyphens and a bracket that would close an empty set stand for themselves. -/
def openSet? (extended : Bool) (text : List Char) : Option (Bool × List SetTree × List Char) := do
  let text ← more? (skip extended text)
  let (negated, text) := match text with
    | '^' :: rest => (true, skip extended rest)
    | _ => (false, text)
  let (hyphens, text) := gather extended (· == '-') text
  let text ← more? text
  let items := hyphens.map fun c ↦ SetTree.range c c false
  match items, text with
  | [], ']' :: rest => do
    let text ← more? (skip extended rest)
    some (negated, [.range ']' ']' false], text)
  | _, _ => some (negated, items, text)

/-- Reads an element of a set, where only the backslash means something. -/
def setElement? (extended : Bool) (text : List Char) : Option (Element × List Char) :=
  match text with
  | [] => none
  | '\\' :: rest => escape? extended rest
  | c :: rest => some (.literal c false, rest)

/-- The item of a set that an element is; conditions on places are none. -/
def itemOf? : Element → Option SetTree
  | .literal c byte => some (.range c c byte)
  | .shorthand shorthand negated => some (.shorthand shorthand negated)
  | .property name negated => some (.property name negated)
  | _ => none

/-- Reads an item of a set: an element, or a range between two characters. -/
def item? (extended : Bool) (text : List Char) : Option (SetTree × List Char) := do
  let (first, text) ← setElement? extended text
  let text ← more? (skip extended text)
  match text with
  | '-' :: rest =>
    let behind := skip extended rest
    if behind.head? = some ']' ∨ behind.head? = some '-' then
      (itemOf? first).map fun item ↦ (item, text)
    else
      let (last, text) ← setElement? extended behind
      match first, last with
      | .literal first firstByte, .literal last lastByte =>
        if first ≤ last then some (.range first last (firstByte || lastByte), text) else none
      | _, _ => none
  | _ => (itemOf? first).map fun item ↦ (item, text)

/-- Completes the operation that waits on top, if there is one. -/
def completeOperation (frames : List SetFrame) (right : SetTree) : SetTree × List SetFrame :=
  match frames with
  | .operation operator left :: frames => (.operation operator left right, frames)
  | _ => (right, frames)

/-- The operator of a doubled character. -/
def setOperator? (c : Char) : Option SetOperator :=
  match c with
  | '&' => some .intersection
  | '-' => some .difference
  | '~' => some .symmetricDifference
  | _ => none

/-- Reads an operator at the front of a text. -/
def operator? (text : List Char) : Option (SetOperator × List Char) :=
  match text with
  | c :: d :: rest => if c = d then (setOperator? c).map fun operator ↦ (operator, rest) else none
  | _ => none

/-- Reads on in a set, in at most as many steps as `fuel` has characters. The items are those of the
innermost open set, last one first. -/
def setWithin (extended : Bool) :
    List Char → List SetFrame → List SetTree → List Char → Option (Tree × List Char)
  | [], _, _, _ => none
  | _ :: fuel, frames, items, text =>
    match skip extended text with
    | [] => none
    | '[' :: rest =>
      match namedClass? rest with
      | some (item, rest) => setWithin extended fuel frames (item :: items) rest
      | none =>
        match openSet? extended rest with
        | some (negated, first, rest) =>
          setWithin extended fuel (.opened negated items :: frames) first rest
        | none => none
    | ']' :: rest =>
      match completeOperation frames (.ofItems items.reverse) with
      | (set, [.opened negated _]) => some (.set negated set, rest)
      | (set, .opened negated outside :: frames) =>
        setWithin extended fuel frames (.nested negated set :: outside) rest
      | _ => none
    | c :: rest =>
      match operator? (c :: rest) with
      | some (operator, rest) =>
        let (left, frames) := completeOperation frames (.ofItems items.reverse)
        setWithin extended fuel (.operation operator left :: frames) [] rest
      | none =>
        match item? extended (c :: rest) with
        | some (item, rest) => setWithin extended fuel frames (item :: items) rest
        | none => none

/-- Reads a set behind its opening bracket. Each step takes a character of the text. -/
def set? (extended : Bool) (text : List Char) : Option (Tree × List Char) := do
  let (negated, items, rest) ← openSet? extended text
  setWithin extended text [.opened negated []] items rest

end BotOps.Pattern
