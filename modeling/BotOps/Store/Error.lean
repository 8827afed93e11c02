import BotOps.Store.Cell

/-!
# Failures of the store

A statement fails for one of a few causes. Each cause has its text.
-/

namespace BotOps.Store

/-- What a statement does to a row. -/
inductive Change where
  | insert
  | update
  | delete
deriving DecidableEq, Repr, Inhabited

/-- The keyword of a change. -/
def Change.keyword : Change → String
  | .insert => "INSERT"
  | .update => "UPDATE"
  | .delete => "DELETE"

/-- Why a statement fails. -/
inductive StoreError where
  /-- The store has no table of that name. -/
  | missingTable (table : String)
  /-- A column is read that the table does not have. -/
  | missingColumn (column : String)
  /-- A column is written that the table does not have. -/
  | unknownColumn (table column : String)
  /-- A column is added under a name that is taken. -/
  | duplicateColumn (column : String)
  /-- Another row has the same key, which consists of the given columns. -/
  | duplicateKey (columns : List String)
  /-- A column that needs a value would have none. -/
  | missingValue (column : String)
  /-- A sum does not fit in 64 bits. -/
  | overflow
  /-- A value that is read is of another type than is asked for. -/
  | mistyped (kind : Kind) (index : Nat) (column : String)
  /-- A text that is read is not in UTF-8. -/
  | garbled (index : Nat) (defect : Text.Utf8.Defect)
  /-- No number is left for another row. -/
  | full
  /-- Another program does not allow the change. -/
  | blocked (change : Change) (table : String)
  /-- A table that the store keeps about itself is changed. -/
  | unchangeable (table : String)
  /-- A table that the store keeps about itself is dropped. -/
  | undroppable (table : String)
  /-- A rule is made for a table that the store keeps about itself. -/
  | unguardable
  /-- The store can only be read. -/
  | locked
  /-- The file keeps no store. -/
  | unreadable
deriving DecidableEq, Repr, Inhabited

namespace StoreError

/-- The text of a cause. -/
def cause : StoreError → String
  | .missingTable table => "no such table: " ++ table
  | .missingColumn column => "no such column: " ++ column
  | .unknownColumn table column => "table " ++ table ++ " has no column named " ++ column
  | .duplicateColumn column => "duplicate column name: " ++ column
  | .duplicateKey columns => "UNIQUE constraint failed: " ++ ", ".intercalate columns
  | .missingValue column => "NOT NULL constraint failed: " ++ column
  | .overflow => "integer overflow"
  | .mistyped kind index column =>
    "Invalid column type " ++ kind.name ++ " at index: " ++ toString index ++ ", name: " ++ column
  | .garbled index defect =>
    "Conversion error from type Text at index: " ++ toString index ++ ", " ++ defect.text
  | .full => "database or disk is full"
  | .blocked change table => "blocked " ++ change.keyword ++ " " ++ table
  | .unchangeable table => "table " ++ table ++ " may not be modified"
  | .undroppable table => "table " ++ table ++ " may not be dropped"
  | .unguardable => "cannot create trigger on system table"
  | .locked => "attempt to write a readonly database"
  | .unreadable => "file is not a database"

/-- The text of a failed statement. -/
def message (error : StoreError) : String := "sqlite error: " ++ error.cause

end StoreError

end BotOps.Store
