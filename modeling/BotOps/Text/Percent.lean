import BotOps.Text.Hex
import BotOps.Text.Utf8

/-!
# Percent codes

A percent sign and two hexadecimal digits write one byte. A percent sign that no two digits follow
stands for itself, as all other characters do.
-/

namespace BotOps.Text.Percent

/-- Writes one byte. -/
def encodeByte (b : UInt8) : List Char :=
  ['%', (Nat.digitChar (b.toNat / 16)).toUpper, (Nat.digitChar (b.toNat % 16)).toUpper]

/-- Writes the controls, the given characters and all characters beyond ASCII as codes. -/
def encode (special : List Char) (text : List Char) : List Char :=
  text.flatMap fun c ↦
    if c.toNat < 0x20 ∨ 0x7f ≤ c.toNat ∨ c ∈ special then (Utf8.encode [c]).flatMap encodeByte
    else [c]

/-- The bytes that a text stands for. -/
def decode : List Char → List UInt8
  | '%' :: high :: low :: rest =>
    match hexDigit? high, hexDigit? low with
    | some high, some low => UInt8.ofNat (16 * high + low) :: decode rest
    | _, _ => Utf8.encode ['%'] ++ decode (high :: low :: rest)
  | c :: rest => Utf8.encode [c] ++ decode rest
  | [] => []

/-- The text that the bytes of a text with codes write. -/
def decodeText? (text : List Char) : Option (List Char) := Utf8.decode? (decode text)

end BotOps.Text.Percent
