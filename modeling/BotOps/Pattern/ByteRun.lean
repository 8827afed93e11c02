import BotOps.Text.Ranges
import BotOps.Text.Utf8

/-!
# Classes as runs of bytes

The characters of a range are written in UTF-8 as runs of bytes. A range is cut into parts whose
runs have the same length and differ in each byte independently; such a part is a run of byte
ranges.
-/

namespace BotOps.Pattern

open BotOps.Text

/-- A range of bytes, both ends included. -/
abbrev ByteRange := Nat × Nat

/-- A run of byte ranges: the texts that have a byte of each of them in turn. -/
abbrev ByteRun := List ByteRange

namespace ByteRun

/-- The greatest code points that are written in one, two and three bytes. -/
def widths : List Nat := [0x7f, 0x7ff, 0xffff]

/-- Where a range ends that is cut because its ends differ in length. -/
def cutByWidth? (first last : Nat) : Option Nat :=
  widths.find? fun width ↦ first ≤ width && width < last

/-- Where a range ends that is cut because its last bytes do not go through all their values while
an earlier byte changes. A step is the number of characters with the same earlier bytes. -/
def cutByStep? (first last : Nat) (step : Nat) : Option Nat :=
  if first / step = last / step then none
  else if first % step ≠ 0 then some (first / step * step + step - 1)
  else if last % step ≠ step - 1 then some (last / step * step - 1)
  else none

/-- Where the first part of a range ends, if it has to be cut. -/
def cut? (first last : Nat) : Option Nat :=
  match cutByWidth? first last with
  | some width => some width
  | none =>
    if last ≤ 0x7f then none
    else [64, 64 * 64, 64 * 64 * 64].findSome? (cutByStep? first last)

/-- The run of a range that needs no cut. -/
def uncut (first last : Nat) : ByteRun :=
  (Utf8.encode [Char.ofNat first]).zipWith (fun a b ↦ (a.toNat, b.toNat))
    (Utf8.encode [Char.ofNat last])

/-- The runs of a range without surrogates, in order. -/
def ofInterval (first last : Nat) : List ByteRun :=
  match cut? first last with
  | none => [uncut first last]
  | some middle =>
    if first ≤ middle ∧ middle < last then
      ofInterval first middle ++ ofInterval (middle + 1) last
    else [uncut first last]
termination_by last - first

/-- The runs of a range, in order. The surrogates in it are left out. -/
def ofRange (range : Nat × Nat) : List ByteRun :=
  let part (first last : Nat) : List ByteRun := if first ≤ last then ofInterval first last else []
  if range.1 < 0xe000 ∧ 0xd7ff < range.2 then part range.1 0xd7ff ++ part 0xe000 range.2
  else part range.1 range.2

end ByteRun

end BotOps.Pattern
