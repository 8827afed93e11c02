import BotOps.Log.Files
import BotOps.Store.Opening

/-!
# Folders

The files that a run finds in the folder it works in. A path to a file that is read leads through
folders that are there. A path to a store is first shortened by its names alone, so that what stands
before `..` need not be there.
-/

namespace BotOps.Command

open BotOps.Store

/-- A folder: the files in it and below it, each by the names that lead to it. -/
structure Folder where
  files : List (List String × List UInt8)

/-- A place beside a folder: how many folders above it one starts, and the names from there. -/
structure Place where
  up : Nat
  names : List String
deriving DecidableEq, Repr

namespace Folder

/-- The most bytes that a name has. -/
def nameLimit : Nat := 255

/-- The most bytes that are added to the name of a store for the files that accompany it. -/
def companionLength : Nat := 8

/-- The content of the file at a place below a folder. -/
def content? (folder : Folder) (place : List String) : Option (List UInt8) :=
  folder.files.lookup place

/-- There is a folder at a place below a folder. -/
def isFolder (folder : Folder) (place : List String) : Bool :=
  place = [] ||
    folder.files.any fun file ↦ place.length < file.1.length && place.isPrefixOf file.1

/-- Goes on from a place along names. Only folders are entered. -/
def walk? (folder : Folder) : List String → List String → Option (List String)
  | place, [] => some place
  | place, name :: rest =>
    if !folder.isFolder place then none
    else if name = "" ∨ name = "." then folder.walk? place rest
    else if name = ".." then if place = [] then none else folder.walk? place.dropLast rest
    else folder.walk? (place ++ [name]) rest

/-- The names of a path, which has to lead on from the folder. -/
def namesOf? (path : String) : Option (List String) :=
  if path.startsWith "/" then none else some (path.splitOn "/")

/-- Reads the file at a path. -/
def read (folder : Folder) (path : String) : Except Log.ReadFailure (List UInt8) :=
  match namesOf? path >>= folder.walk? [] with
  | none => .error .missing
  | some place =>
    match folder.content? place with
    | some content => .ok content
    | none => .error (if folder.isFolder place then .directory else .missing)

/-- Goes on from a place along names without looking whether there are such folders. Nothing is
found below a file or under a name that is too long. -/
def locate? (folder : Folder) : Place → List String → Option Place
  | place, [] => some place
  | place, name :: rest =>
    if name = "" ∨ name = "." then folder.locate? place rest
    else if name = ".." then
      if place.names = [] then folder.locate? ⟨place.up + 1, []⟩ rest
      else folder.locate? ⟨place.up, place.names.dropLast⟩ rest
    else if nameLimit < name.utf8ByteSize ∨ place.up = 0 ∧ (folder.content? place.names).isSome then
      none
    else folder.locate? ⟨place.up, place.names ++ [name]⟩ rest

/-- A store may be kept at a place: in a folder that is there, or in the one above. -/
def mayKeep (folder : Folder) (place : Place) : Bool :=
  match place.names.getLast? with
  | none => false
  | some name =>
    name.utf8ByteSize + companionLength ≤ nameLimit &&
      (place.up = 0 && folder.isFolder place.names.dropLast && !folder.isFolder place.names ||
        place.up = 1 && place.names.length = 1)

/-- The place of the store at a path, if one may be kept there. -/
def storePlace? (folder : Folder) (path : String) : Option Place := do
  let place ← namesOf? path >>= folder.locate? ⟨0, []⟩
  if folder.mayKeep place then some place else none

/-- What comes of opening the store that a text locates. -/
def opening (folder : Folder) (text : String) : Opening :=
  match Location.ofText? text with
  | none => .refused
  | some location =>
    match location.medium with
    | .memory => location.opening none
    | .file path =>
      match folder.storePlace? path with
      | none => .refused
      | some place =>
        location.opening (if place.up = 0 then folder.content? place.names else none)

/-- The folder with a file. -/
def write (folder : Folder) (place : List String) (content : List UInt8) : Folder :=
  ⟨(place, content) :: folder.files.filter fun file ↦ file.1 ≠ place⟩

/-- The folder after a store was left where a text locates it. A locked store leaves its file as it
was, but a file that was not there is created empty. -/
def keep (folder : Folder) (text : String) (store : Store) : Folder :=
  match (Location.ofText? text).map Location.medium with
  | some (.file path) =>
    match folder.storePlace? path with
    | some ⟨0, place⟩ =>
      folder.write place
        (if store.locked then (folder.content? place).getD [] else toContent store)
    | _ => folder
  | _ => folder

/-- The store in the file of a name, if there is such a file. -/
def inspect (folder : Folder) (name : String) : Except StoreError (Option Store) :=
  match folder.content? [name] with
  | none => .ok none
  | some content =>
    match ofContent? content with
    | none => .error .unreadable
    | some store => .ok (some store)

end Folder

end BotOps.Command
