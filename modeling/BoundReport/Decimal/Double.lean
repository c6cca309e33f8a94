/-!
# Doubles

Numbers that are no integers are held as IEEE 754 binary64 values, by their bits. A finite one
is ± `m · 2 ^ q` for a natural number `m` and an integer `q`, and these two give its decimal
form (`BoundReport.Decimal.Shortest`).
-/

namespace BoundReport

/-- A binary64 value, held by its bits. -/
structure Double where
  bits : UInt64
  deriving DecidableEq, Repr

namespace Double

/-- The value with the bits of a floating point number. -/
def ofFloat (x : Float) : Double := ⟨x.toBits⟩

/-- The floating point number with the bits of the value. -/
def toFloat (x : Double) : Float := Float.ofBits x.bits

/-- Whether the sign bit is set. -/
def isNegative (x : Double) : Bool := x.bits >>> 63 == 1

/-- The biased exponent, eleven bits. -/
def exponentField (x : Double) : Nat := ((x.bits >>> 52) &&& 0x7ff).toNat

/-- The fraction, fifty-two bits. -/
def fractionField (x : Double) : Nat := (x.bits &&& 0xfffffffffffff).toNat

/-- Whether the value is neither infinite nor NaN. -/
def isFinite (x : Double) : Bool := x.exponentField < 0x7ff

/-- Whether the value is infinite. -/
def isInfinite (x : Double) : Bool := x.exponentField == 0x7ff && x.fractionField == 0

/-- The `m` of the magnitude `m · 2 ^ q` of a finite value. -/
def mantissa (x : Double) : Nat :=
  if x.exponentField = 0 then x.fractionField else 0x10000000000000 + x.fractionField

/-- The `q` of the magnitude `m · 2 ^ q` of a finite value. -/
def exponent (x : Double) : Int :=
  if x.exponentField = 0 then -1074 else (x.exponentField : Int) - 1075

/-- The double nearest to `digits · 10 ^ exponent`, ties going to the even one. It is infinite
for a number that rounds beyond the greatest double. An exponent far outside the range of
doubles decides the result without being raised to a power. -/
def nearest (digits : Nat) (exponent : Int) : Double :=
  let size := (Nat.toDigits 10 digits).length
  if digits = 0 ∨ exponent + size < -400 then ⟨0⟩
  else if exponent + size > 400 then ⟨0x7ff0000000000000⟩
  else ofFloat (Float.ofScientific digits (exponent < 0) exponent.natAbs)

/-- The value with the opposite sign. -/
def neg (x : Double) : Double := ⟨x.bits ^^^ 0x8000000000000000⟩

end Double

end BoundReport
