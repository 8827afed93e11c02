import BotOps.Toml.Value

/-!
# Building tables

Tables are filled by keys with dots and by headers. A dotted key may only add to a table that
dotted keys made, and a header may only be given to a table that has none.
-/

namespace BotOps.Toml

namespace Entries

/-- Sets the value of a key; a new key goes to the end. -/
def put (entries : Entries) (key : String) (value : Value) : Entries :=
  if entries.any fun entry ↦ entry.1 = key then
    entries.map fun entry ↦ if entry.1 = key then (key, value) else entry
  else entries ++ [(key, value)]

/-- Changes the last element of a list if it can be changed. -/
def changeLast? {α : Type} (change : α → Option α) (elements : List α) : Option (List α) := do
  let last ← elements.getLast?
  let last ← change last
  some (elements.dropLast ++ [last])

/-- Adds a value under a dotted key: the keys that lead to the table, and the key in it. `fits` says
that values may be added to the table at hand. -/
def insert? (fits : Bool) (path : List String) (key : String) (value : Value)
    (entries : Entries) : Option Entries :=
  match path with
  | [] => if fits && (entries.lookup key).isNone then some (entries ++ [(key, value)]) else none
  | first :: path =>
    match entries.lookup first with
    | none => do
      let inner ← insert? true path key value []
      some (entries ++ [(first, .table .dotted inner)])
    | some (.table .dotted inner) => do
      let inner ← insert? true path key value inner
      some (entries.put first (.table .dotted inner))
    | some (.table .implied inner) => do
      let inner ← insert? false path key value inner
      some (entries.put first (.table .implied inner))
    | some (.tables elements) => do
      let elements ← changeLast? (insert? false path key value) elements
      some (entries.put first (.tables elements))
    | _ => none

/-- Changes the table that the keys of a header lead to. Tables on the way that are missing are
made, and an array of tables leads to its last table. -/
def descend? (path : List String) (change : Entries → Option Entries) (entries : Entries) :
    Option Entries :=
  match path with
  | [] => change entries
  | first :: path =>
    match entries.lookup first with
    | none => do
      let inner ← descend? path change []
      some (entries ++ [(first, .table .implied inner)])
    | some (.table .inline _) => none
    | some (.table origin inner) => do
      let inner ← descend? path change inner
      some (entries.put first (.table origin inner))
    | some (.tables elements) => do
      let elements ← changeLast? (descend? path change) elements
      some (entries.put first (.tables elements))
    | _ => none

end Entries

/-- A dotted key, its last part apart, and a value. -/
abbrev Assignment := (List String × String) × Value

/-- A table with more values. -/
def Entries.fill? (entries : Entries) (assignments : List Assignment) : Option Entries :=
  assignments.foldlM (fun entries assignment ↦
    entries.insert? true assignment.1.1 assignment.1.2 assignment.2) entries

/-- The head of a part of a document. -/
inductive Header where
  /-- The part before the first header. -/
  | top
  /-- A table of its own. -/
  | table (path : List String) (key : String)
  /-- One more table of an array. -/
  | element (path : List String) (key : String)
deriving DecidableEq, Repr, Inhabited

/-- Adds a part to a document. -/
def Entries.addPart? (entries : Entries) (header : Header) (assignments : List Assignment) :
    Option Entries :=
  match header with
  | .top => entries.fill? assignments
  | .table path key =>
    Entries.descend? path (fun entries ↦
      match entries.lookup key with
      | none => do
        let inner ← Entries.fill? [] assignments
        some (entries ++ [(key, .table .header inner)])
      | some (.table .implied inner) => do
        let inner ← Entries.fill? inner assignments
        some (entries.put key (.table .header inner))
      | _ => none) entries
  | .element path key =>
    Entries.descend? path (fun entries ↦
      match entries.lookup key with
      | none => do
        let inner ← Entries.fill? [] assignments
        some (entries ++ [(key, .tables [inner])])
      | some (.tables elements) => do
        let inner ← Entries.fill? [] assignments
        some (entries.put key (.tables (elements ++ [inner])))
      | _ => none) entries

end BotOps.Toml
