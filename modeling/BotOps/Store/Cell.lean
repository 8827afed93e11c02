import BotOps.Metrics.Double
import BotOps.Text.Utf8

/-!
# Cells

A cell keeps one value of a row. The type of a column is a preference: numbers that stand in a
column of texts are turned into texts, and texts that spell a number are turned into it in a column
of numbers, but what cannot be turned is kept as it is.
-/

namespace BotOps.Store

open BotOps.Metrics BotOps.Text

/-- The types of the values that a cell keeps. -/
inductive Kind where
  | integer
  | real
  | text
  | blob
deriving DecidableEq, Repr, Inhabited

/-- The name of a type of values. -/
def Kind.name : Kind → String
  | .integer => "Integer"
  | .real => "Real"
  | .text => "Text"
  | .blob => "Blob"

/-- A text, which should be in UTF-8, or other bytes. -/
inductive Octets where
  | text (bytes : List UInt8)
  | blob (bytes : List UInt8)
deriving DecidableEq, Repr, Inhabited

namespace Octets

/-- By what texts and bytes are ordered: all texts come before all other bytes. -/
def key : Octets → List UInt8
  | .text bytes => 0 :: bytes
  | .blob bytes => 1 :: bytes

instance : LT Octets := ⟨fun a b ↦ a.key < b.key⟩

instance : LE Octets := ⟨fun a b ↦ a.key ≤ b.key⟩

instance (a b : Octets) : Decidable (a < b) := inferInstanceAs (Decidable (a.key < b.key))

instance (a b : Octets) : Decidable (a ≤ b) := inferInstanceAs (Decidable (a.key ≤ b.key))

/-- A text as it is kept. -/
def ofString (s : String) : Octets := .text (Utf8.encode s.toList)

instance : Coe String Octets := ⟨ofString⟩

/-- The type of a text or other bytes. -/
def kind : Octets → Kind
  | .text _ => .text
  | .blob _ => .blob

end Octets

/-- The value of a cell. -/
inductive Cell where
  | integer (n : Int64)
  | real (x : Double)
  | octets (content : Octets)
deriving DecidableEq, Repr, Inhabited

namespace Cell

instance : Coe Int64 Cell := ⟨integer⟩

instance : Coe Double Cell := ⟨real⟩

/-- The type of a value. -/
def kind : Cell → Kind
  | .integer _ => .integer
  | .real _ => .real
  | .octets content => content.kind

/-- The whole number that a value is. -/
def integer? : Cell → Option Int64
  | .integer n => some n
  | _ => none

/-- The double that a value is, or the one nearest to a whole number. -/
def real? : Cell → Option Double
  | .integer n => some (.ofInt64 n)
  | .real x => some x
  | .octets _ => none

/-- The form in which a column of doubles keeps a value. -/
def stored : Cell → Cell
  | .integer n => .real (.ofInt64 n)
  | .real x => .real x.stored
  | .octets content => .octets content

/-- A double that is no number is kept as no value at all. -/
def isMissing : Cell → Bool
  | .real x => x.isNaN
  | _ => false

end Cell

end BotOps.Store
