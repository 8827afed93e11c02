import BotOps.Remote.HostChar
import BotOps.Text.Percent

/-!
# Hosts

The place of a server on the net is an address or a name. An address has up to four parts, each
written to base ten, eight or sixteen; the last part stands for all bytes that are left. A text
whose last part is a number has to be an address.
-/

namespace BotOps.Remote

open BotOps.Text

/-- Where a server is found. -/
inductive Host where
  | address (number : UInt32)
  | named (name : String)
deriving DecidableEq, Repr

namespace Host

/-- The address by which a machine reaches itself. -/
def loopback : Host := .address 0x7f000001

/-- What a host is found as: one name is that of the machine itself. -/
def resolved : Host → Host
  | .named "localhost" => loopback
  | host => host

/-- Splits off the front that says to which base a number is written. -/
def baseOf : List Char → Nat × List Char
  | '0' :: 'x' :: digits => (16, digits)
  | '0' :: c :: digits => (8, c :: digits)
  | digits => (10, digits)

/-- The value of a part of an address. A front without digits is zero. -/
def part? (text : List Char) : Option Nat :=
  let (base, digits) := baseOf text
  if text = [] then none
  else digits.foldlM (fun n c ↦ do
    let d ← hexDigit? c
    if d < base then some (base * n + d) else none) 0

/-- The parts of a text between points. A last part that is empty is no part. -/
def labels (text : List Char) : List (List Char) :=
  let parts := text.splitOn '.'
  if 1 < parts.length ∧ parts.getLast? = some [] then parts.dropLast else parts

/-- A text whose last part is a number has to be an address. -/
def isNumeric (text : List Char) : Bool :=
  match (labels text).getLast? with
  | none => false
  | some last => (last ≠ [] && last.all Char.isDigit) || (part? last).isSome

/-- The number of an address from the values of its parts. -/
def numberOf? : List Nat → Option Nat
  | [] => none
  | parts@(_ :: rest) =>
    let width := 4 - rest.length
    let last := parts.getLast?.getD 0
    if 4 < parts.length ∨ Nat.pow 256 width ≤ last ∨ parts.dropLast.any (256 ≤ ·) then none
    else some (parts.dropLast.foldl (fun n part ↦ 256 * n + part) 0 * Nat.pow 256 width + last)

/-- Reads an address. -/
def address? (text : List Char) : Option Host := do
  let parts ← (labels text).mapM part?
  let number ← numberOf? parts
  return .address (UInt32.ofNat number)

/-- The characters that no name has. -/
def isForbidden (c : Char) : Bool :=
  c.toNat ≤ 0x20 || c.toNat = 0x7f || c ∈ "#%/:<>?@[\\]^|".toList

/-- Reads a host. Percent codes are read first, and the characters are brought into one form. -/
def parse? (text : List Char) : Option Host := do
  let text ← Percent.decodeText? text
  let name := text.flatMap HostChar.normal
  if name = [] ∨ name.any isForbidden then none
  else if isNumeric name then address? name
  else some (.named (String.ofList name))

end Host

end BotOps.Remote
