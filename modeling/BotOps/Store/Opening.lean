import BotOps.Store.Location
import BotOps.Store.Snapshot

/-!
# Opening a store

A store is kept in a file as its snapshot. What comes of opening a location depends on the file
there alone. Before the first statement a run prepares the file for its journal, which is done once
for each file and changes it.
-/

namespace BotOps.Store

open BotOps.Text

/-- What comes of opening a location. -/
inductive Opening where
  | refused
  | ready (store : Store)

/-- The store that a file keeps. -/
def ofContent? (content : List UInt8) : Option Store := do
  let text ← Utf8.decode? content
  Snapshot.load? (String.ofList text)

/-- The content of a file that keeps a store. -/
def toContent (store : Store) : List UInt8 := (Snapshot.save store).toUTF8.toList

/-- What comes of opening a location, given the content of the file there, if there is one. An empty
file is not prepared yet, so it cannot be opened only to be read unless it is taken for one that
nobody changes, which needs no journal. -/
def Location.opening (location : Location) (content : Option (List UInt8)) : Opening :=
  let opened (store : Store) : Opening := .ready { store with locked := !location.isWritable }
  match location.medium, content with
  | .memory, _ => opened .empty
  | .file _, none => if location.mode = Mode.create then opened .empty else .refused
  | .file _, some content =>
    match ofContent? content with
    | none => .refused
    | some store =>
      if content = [] ∧ location.mode = Mode.read ∧ !location.fixed then .refused
      else opened store

end BotOps.Store
