/-!
# Character classes as code point ranges

A character class of a standard is written as the list of its ranges. The operations on classes
take lists whose ranges are in order and apart, and give such lists; `joined` makes one of any
list. Between two characters nothing is left out: the surrogates, which are no characters, lie
between U+D7FF and U+E000. `contains_iff` says membership in terms of the list.
-/

namespace BotOps.Text

/-- A class of characters: the inclusive ranges of code points it consists of. -/
abbrev Ranges := List (Nat × Nat)

namespace Ranges

/-- A character belongs to a class when one of its ranges holds the character's code point. -/
def contains (ranges : Ranges) (c : Char) : Bool :=
  ranges.any fun range ↦ range.1 ≤ c.toNat && c.toNat ≤ range.2

/-- A class holds a code point. -/
def holds (ranges : Ranges) (point : Nat) : Bool :=
  ranges.any fun range ↦ range.1 ≤ point && point ≤ range.2

/-- Every character. -/
def everything : Ranges := [(0, 0x10ffff)]

/-- One character. -/
def single (c : Char) : Ranges := [(c.toNat, c.toNat)]

/-- Every second character from the first to the last of each pair. -/
def alternate (pairs : List (Nat × Nat)) : Ranges :=
  pairs.flatMap fun pair ↦
    (List.range ((pair.2 - pair.1) / 2 + 1)).map fun i ↦ (pair.1 + 2 * i, pair.1 + 2 * i)

/-- Puts a range behind ordered ones, last one first: one that overlaps or touches the last of them
extends it. -/
def joinTo (found : Ranges) (range : Nat × Nat) : Ranges :=
  match found with
  | [] => [range]
  | last :: found =>
    if range.1 ≤ last.2 + 1 then (last.1, max last.2 range.2) :: found else range :: last :: found

/-- The class of a list of ranges, with its ranges in order and apart. -/
def joined (ranges : Ranges) : Ranges :=
  ((ranges.mergeSort fun a b ↦ a.1 ≤ b.1).foldl joinTo []).reverse

/-- The characters of some classes. -/
def together (classes : List Ranges) : Ranges := joined classes.flatten

/-- The characters of two classes. -/
def union (a b : Ranges) : Ranges := joined (a ++ b)

/-- The code point of the character behind the one with a code point. -/
def next (point : Nat) : Nat := if point = 0xd7ff then 0xe000 else point + 1

/-- The code point of the character before the one with a code point. -/
def previous (point : Nat) : Nat := if point = 0xe000 then 0xd7ff else point - 1

/-- The range between two code points, whichever comes first. -/
def between (a b : Nat) : Nat × Nat := (min a b, max a b)

/-- The ranges between the ranges of a class, and behind the last of them, from the end of a range
on. Where nothing but the surrogates lies between two ranges, the characters at either side of them
stand for the gap. -/
def gaps (last : Nat) : Ranges → Ranges
  | [] => if last < 0x10ffff then [(next last, 0x10ffff)] else []
  | range :: rest => between (next last) (previous range.1) :: gaps range.2 rest

/-- The characters outside a class. -/
def complement : Ranges → Ranges
  | [] => everything
  | range :: rest =>
    if 0 < range.1 then (0, previous range.1) :: gaps range.2 rest else gaps range.2 rest

/-- The characters that two classes share. -/
def intersection : Ranges → Ranges → Ranges
  | [], _ => []
  | _, [] => []
  | a :: as, b :: bs =>
    let rest :=
      if a.2 < b.2 then intersection as (b :: bs) else intersection (a :: as) bs
    if max a.1 b.1 ≤ min a.2 b.2 then (max a.1 b.1, min a.2 b.2) :: rest else rest
termination_by as bs => as.length + bs.length

/-- The characters of the first class that are not in the second. -/
def difference : Ranges → Ranges → Ranges
  | [], _ => []
  | a, [] => a
  | a :: as, b :: bs =>
    if b.2 < a.1 then difference (a :: as) bs
    else if a.2 < b.1 then a :: difference as (b :: bs)
    else
      let rest :=
        if b.2 < a.2 then difference ((next b.2, a.2) :: as) bs else difference as (b :: bs)
      if a.1 < b.1 then (a.1, previous b.1) :: rest else rest
termination_by as bs => as.length + bs.length

/-- The characters in just one of two classes. -/
def symmetricDifference (a b : Ranges) : Ranges := difference (union a b) (intersection a b)

/-- A class consists of characters of ASCII. -/
def isAscii (ranges : Ranges) : Bool := ranges.all fun range ↦ range.2 < 0x80

/-- Membership spelled out: some listed range has the code point between its ends. -/
theorem contains_iff {ranges : Ranges} {c : Char} :
    ranges.contains c = true ↔ ∃ range ∈ ranges, range.1 ≤ c.toNat ∧ c.toNat ≤ range.2 := by
  simp [contains]

end Ranges

end BotOps.Text
