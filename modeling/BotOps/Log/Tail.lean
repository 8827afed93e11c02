import BotOps.Log.Count

/-!
# Scanning the tail of a log

A log grows at its end and is mostly older than the window, so a scan looks for a line to start
from. It walks back in blocks until the first stamped line of a block is older than the window.
-/

namespace BotOps.Log

open BotOps.Text BotOps.Time

/-- The distance between two places at which the scan looks for a line to start from. -/
def blockSize : Nat := 65536

/-- The first line of some bytes, with its newline if it has one, and the bytes behind it. -/
def takeLine (bytes : List UInt8) : List UInt8 × List UInt8 :=
  match bytes.dropWhile (· ≠ newline) with
  | [] => (bytes, [])
  | b :: rest => (bytes.takeWhile (· ≠ newline) ++ [b], rest)

/-- Bytes are their first line and the rest. -/
theorem takeLine_append (bytes : List UInt8) :
    (takeLine bytes).1 ++ (takeLine bytes).2 = bytes := by
  have h : bytes.takeWhile (· ≠ newline) ++ bytes.dropWhile (· ≠ newline) = bytes :=
    List.takeWhile_append_dropWhile
  unfold takeLine
  split
  · simp
  · next hb => rw [hb] at h; simpa using h

/-- Some bytes have a first line, so fewer are left behind it. -/
theorem length_takeLine_lt {bytes : List UInt8} (h : bytes ≠ []) :
    (takeLine bytes).2.length < bytes.length := by
  have ha := congrArg List.length (takeLine_append bytes)
  have hne : (takeLine bytes).1 ≠ [] := by
    unfold takeLine
    split <;> simp [h]
  have := List.length_pos_iff.mpr hne
  rw [List.length_append] at ha
  omega

/-- Among the lines that begin within `room` bytes, the first stamped one is stamped before
`first`. -/
def opensBefore (first : Instant) (room : Nat) (bytes : List UInt8) : Bool :=
  if bytes = [] ∨ room = 0 then false
  else
    match stamp? (Utf8.decodeLossy (takeLine bytes).1) with
    | some t => t < first
    | none => opensBefore first (room - (takeLine bytes).1.length) (takeLine bytes).2
termination_by bytes.length
decreasing_by exact length_takeLine_lt (by simp_all)

/-- Where the first line begins that begins at a place or behind it: at the start of the log, or
behind the line that the place lies in. -/
def lineStart (content : List UInt8) (place : Nat) : Nat :=
  if place = 0 then 0 else place + (takeLine (content.drop place)).1.length

/-- Where a scan that has looked at all lines behind `place` starts: at the first line of the
nearest earlier block that opens before the window, or at the start of the log. -/
def startBefore (content : List UInt8) (window : Window) (place : Nat) : Nat :=
  if place = 0 then 0
  else
    let block := place - blockSize
    let start := lineStart content block
    if opensBefore window.first (block + blockSize - start) (content.drop start) then start
    else startBefore content window block
termination_by place
decreasing_by simp only [blockSize]; omega

/-- Where the scan of a log starts. -/
def tailStart (content : List UInt8) (window : Window) : Nat :=
  startBefore content window content.length

/-- The reports inside a window, counted from where the scan starts. -/
def countTail (content : List UInt8) (window : Window) : Counts :=
  count (content.drop (tailStart content window)) window

end BotOps.Log
