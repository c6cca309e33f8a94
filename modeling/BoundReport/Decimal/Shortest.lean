import BoundReport.Decimal.Double

/-!
# The shortest decimal form of a double

Of the decimal numbers that read back as a given double, the one with the fewest digits is
taken, and among those the nearest to the double.

A decimal reads back as `m · 2 ^ q` if it lies between the midpoints to the two neighbouring
doubles; a midpoint itself counts if `m` is even, since ties are read to even. For each number
of digits, from one up, the two decimals of that many digits next to the value are tried. If
any decimal of that many digits lies in the interval, one of these two does. All numbers are
held as multiples of one fraction of a power of two, so the arithmetic is exact.
-/

namespace BoundReport

/-- The number `digits · 10 ^ exponent`. -/
structure Decimal where
  digits : Nat
  exponent : Int
  deriving DecidableEq, Repr

namespace Decimal

/-- The same number with the trailing zeros of its digits moved into the exponent, at most
`fuel` of them. -/
def stripZeros (fuel : Nat) (d : Decimal) : Decimal :=
  match fuel with
  | 0 => d
  | fuel + 1 =>
    if d.digits ≠ 0 ∧ d.digits % 10 = 0 then stripZeros fuel ⟨d.digits / 10, d.exponent + 1⟩
    else d

/-- A positive value with the interval of numbers that are read as it, all over one
denominator. -/
structure RoundingInterval where
  value : Nat
  low : Nat
  high : Nat
  denominator : Nat
  /-- Whether the ends belong to the interval. -/
  closed : Bool

/-- The interval of the magnitude of a finite double. Below a power of two the neighbour is
half as far as above it. -/
def RoundingInterval.ofDouble (x : Double) : RoundingInterval :=
  let m := x.mantissa
  let below := if x.fractionField = 0 ∧ 1 < x.exponentField then 1 else 2
  let q := x.exponent - 2
  let scale := Nat.pow 2 q.toNat
  ⟨4 * m * scale, (4 * m - below) * scale, (4 * m + 2) * scale, Nat.pow 2 (-q).toNat, m % 2 = 0⟩

namespace RoundingInterval

/-- Whether `n · num / den` lies in the interval. -/
def holds (i : RoundingInterval) (n num den : Nat) : Bool :=
  let point := n * num * i.denominator
  if i.closed then i.low * den ≤ point && point ≤ i.high * den
  else i.low * den < point && point < i.high * den

/-- Of the two multiples of `num / den` next to the value, the one in the interval that is
nearer to the value; of two equally near, the even one. -/
def pick? (i : RoundingInterval) (num den : Nat) : Option Nat :=
  let unit := num * i.denominator
  let lower := i.value * den / unit
  let above := i.value * den % unit
  let lowerFirst := 2 * above < unit || (2 * above == unit && lower % 2 == 0)
  let order := if lowerFirst then [lower, lower + 1] else [lower + 1, lower]
  order.find? fun n => 0 < n && i.holds n num den

/-- The least `k` with the value below `10 ^ k`. -/
def magnitude (i : RoundingInterval) : Int :=
  let size (n : Nat) : Int := (Nat.toDigits 10 n).length
  let k := size i.value - size i.denominator
  if i.denominator * Nat.pow 10 k.toNat ≤ i.value * Nat.pow 10 (-k).toNat then k + 1 else k

/-- The decimal in the interval with the fewest digits, trying `fuel` numbers of digits from
`count` on. -/
def search (i : RoundingInterval) (k : Int) : (fuel count : Nat) → Option Decimal
  | 0, _ => none
  | fuel + 1, count =>
    let exponent := k - count
    match i.pick? (Nat.pow 10 exponent.toNat) (Nat.pow 10 (-exponent).toNat) with
    | some n => some ⟨n, exponent⟩
    | none => search i k fuel (count + 1)

end RoundingInterval

/-- The **shortest decimal** that is read as the magnitude of a finite double. Seventeen
digits always suffice. -/
def shortest (x : Double) : Decimal :=
  if x.mantissa = 0 then ⟨0, 0⟩
  else
    let interval := RoundingInterval.ofDouble x
    match interval.search interval.magnitude 17 1 with
    | some d => stripZeros 17 d
    | none => ⟨0, 0⟩

end Decimal

end BoundReport
