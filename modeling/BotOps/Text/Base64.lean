/-!
# Base 64

Three bytes are written as four digits of six bits each. The last group is filled up by signs that
stand for no bits.
-/

namespace BotOps.Text.Base64

/-- The digits in the order of their values. -/
def digits : List Char :=
  "ABCDEFGHIJKLMNOPQRSTUVWXYZabcdefghijklmnopqrstuvwxyz0123456789+/".toList

/-- The sign that fills up the last group. -/
def filler : Char := '='

/-- The digit of six bits of a number, which stand above the given number of lower groups. -/
def digit (bits place : Nat) : Char := digits.getD (bits / Nat.pow 64 place % 64) filler

/-- Writes bytes. -/
def encode : List UInt8 → List Char
  | a :: b :: c :: rest =>
    let bits := (a.toNat * 256 + b.toNat) * 256 + c.toNat
    digit bits 3 :: digit bits 2 :: digit bits 1 :: digit bits 0 :: encode rest
  | [a, b] =>
    let bits := (a.toNat * 256 + b.toNat) * 256
    [digit bits 3, digit bits 2, digit bits 1, filler]
  | [a] =>
    let bits := a.toNat * 65536
    [digit bits 3, digit bits 2, filler, filler]
  | [] => []

end BotOps.Text.Base64
