/-!
# Measured values

A measured value is a double by its bits, so that two values are equal exactly when all their bits
are. A database keeps no negative zero and no value that is not a number.
-/

namespace BotOps.Metrics

/-- A double by the bits of its binary64 form. -/
structure Double where
  bits : UInt64
deriving DecidableEq, Repr, Inhabited

namespace Double

/-- The positive zero. -/
def zero : Double := ⟨0⟩

/-- The negative zero. -/
def negativeZero : Double := ⟨0x8000000000000000⟩

/-- The bits save the sign. -/
def magnitude (x : Double) : UInt64 := x.bits &&& 0x7fffffffffffffff

/-- A double is no number when its magnitude exceeds that of infinity. -/
def isNaN (x : Double) : Bool := 0x7ff0000000000000 < x.magnitude

/-- The form in which a database keeps a double: a negative zero loses its sign. -/
def stored (x : Double) : Double := if x = negativeZero then zero else x

/-- The sum of two doubles. -/
def add (x y : Double) : Double := ⟨(Float.ofBits x.bits + Float.ofBits y.bits).toBits⟩

/-- The double nearest to an integer of 64 bits. -/
def ofInt64 (n : Int64) : Double := ⟨n.toFloat.toBits⟩

/-- The integer of 64 bits that a double is, if it is one other than the least and the greatest. -/
def toInt64? (x : Double) : Option Int64 :=
  let n := (Float.ofBits x.bits).toInt64
  if ofInt64 n = x ∧ Int64.minValue < n ∧ n < Int64.maxValue then some n else none

end Double

end BotOps.Metrics
