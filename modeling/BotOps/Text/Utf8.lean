/-!
# UTF-8

A reader of bytes that keeps what a partly read character still owes. Bytes that belong to no
character are replaced: each longest run that could have started a character becomes one
replacement character, and so does each byte that starts none.
-/

namespace BotOps.Text.Utf8

/-- The character that stands for bytes that belong to none. -/
def replacement : Char := '\ufffd'

/-- What a partly read character still owes: how many bytes, the least and greatest value the
next one may have, and the bits read so far. -/
structure Pending where
  owed : Nat
  least : UInt8
  greatest : UInt8
  bits : Nat
deriving DecidableEq, Repr

/-- What a byte between characters begins. -/
inductive Beginning where
  /-- The byte is a character by itself. -/
  | whole (c : Char)
  /-- The byte is the first of several. -/
  | more (pending : Pending)
  /-- No character begins with the byte. -/
  | invalid
deriving DecidableEq, Repr

/-- Classifies a byte between characters. Overlong forms, surrogates and code points beyond the
last are ruled out here or by the bounds on the second byte. -/
def beginning (b : UInt8) : Beginning :=
  if b < 0x80 then .whole (Char.ofNat b.toNat)
  else if b < 0xc2 then .invalid
  else if b < 0xe0 then .more ⟨1, 0x80, 0xbf, b.toNat - 0xc0⟩
  else if b < 0xf0 then
    .more ⟨2, if b = 0xe0 then 0xa0 else 0x80, if b = 0xed then 0x9f else 0xbf, b.toNat - 0xe0⟩
  else if b < 0xf5 then
    .more ⟨3, if b = 0xf0 then 0x90 else 0x80, if b = 0xf4 then 0x8f else 0xbf, b.toNat - 0xf0⟩
  else .invalid

/-- A text being read: the characters so far, last one first, where `none` marks a replaced run,
and the character that is partly read. -/
structure State where
  read : List (Option Char)
  pending : Option Pending
deriving DecidableEq, Repr

/-- Reads a byte between characters. -/
def State.begin (read : List (Option Char)) (b : UInt8) : State :=
  match beginning b with
  | .whole c => ⟨some c :: read, none⟩
  | .more pending => ⟨read, some pending⟩
  | .invalid => ⟨none :: read, none⟩

/-- Reads one byte. A byte that cannot continue the partly read character ends it as a replaced
run and is then read between characters. -/
def State.step (s : State) (b : UInt8) : State :=
  match s.pending with
  | none => State.begin s.read b
  | some p =>
    if p.least ≤ b ∧ b ≤ p.greatest then
      let bits := p.bits * 64 + (b.toNat - 0x80)
      if p.owed ≤ 1 then ⟨some (Char.ofNat bits) :: s.read, none⟩
      else ⟨s.read, some ⟨p.owed - 1, 0x80, 0xbf, bits⟩⟩
    else State.begin (none :: s.read) b

/-- Ends the text: a character that is still partly read is a replaced run. -/
def State.finish (s : State) : List (Option Char) :=
  match s.pending with
  | none => s.read.reverse
  | some _ => (none :: s.read).reverse

/-- The characters that bytes write, with `none` for each run that writes no character. -/
def units (bytes : List UInt8) : List (Option Char) :=
  (bytes.foldl State.step ⟨[], none⟩).finish

/-- The text that bytes write, with replacement characters where they write none. -/
def decodeLossy (bytes : List UInt8) : List Char :=
  (units bytes).map fun unit ↦ unit.getD replacement

/-- The text that bytes write, if every byte belongs to a character. -/
def decode? (bytes : List UInt8) : Option (List Char) := (units bytes).mapM id

/-- Where bytes go wrong that should write a text. -/
structure Defect where
  /-- How many bytes before it are those of characters. -/
  place : Nat
  /-- How many bytes from there on are wrong, or `none` if the text ends within a character. -/
  length : Option Nat
deriving DecidableEq, Repr, Inhabited

/-- The text of a defect. -/
def Defect.text (defect : Defect) : String :=
  match defect.length with
  | some length =>
    "invalid utf-8 sequence of " ++ toString length ++ " bytes from index " ++
      toString defect.place
  | none => "incomplete utf-8 byte sequence from index " ++ toString defect.place

/-- The first defect of bytes, of which those up to a place were read, and some more of a character
that is partly read. -/
def defectFrom (place taken : Nat) (pending : Option Pending) : List UInt8 → Defect
  | [] => ⟨place, none⟩
  | b :: bytes =>
    let s := State.step ⟨[], pending⟩ b
    if none ∈ s.read then ⟨place, some (max taken 1)⟩
    else if s.pending.isSome then defectFrom place (taken + 1) s.pending bytes
    else defectFrom (place + taken + 1) 0 none bytes

/-- The first defect of bytes that write no text. -/
def defect (bytes : List UInt8) : Defect := defectFrom 0 0 none bytes

example : defect [0xc3, 0xa4, 0xe2, 0x82] = ⟨2, none⟩ ∧
    defect [0xc3, 0xa4, 0xe2, 0x82, 0x41] = ⟨2, some 2⟩ := by
  decide

/-- The bytes that write a text. -/
def encode (text : List Char) : List UInt8 := text.flatMap String.utf8EncodeChar

end BotOps.Text.Utf8
