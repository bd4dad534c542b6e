import Formwork.Decimal.Binary
/-!
The shortest decimal that reads back as a float. The reals that round to a float form an interval,
which includes its ends when the mantissa is even. The grids of one, two, … seventeen significant
digits are tried in turn: the first on which a neighbour of the value lies in the interval gives
the digits, and of two such neighbours the nearer one is taken, the even one of two equally near.
-/
namespace Formwork.Decimal

/-- The exponent `e` with `10 ^ e ≤ n / d < 10 ^ (e + 1)`, for positive `n` that is no negative
power of ten. -/
def leadingExponent (n d : Nat) : Int :=
  if d ≤ n then digitCount (n / d) - 1 else -(digitCount (d / n) : Int)

/-- The interval of reals that round to a float, over a common denominator. -/
structure Interval where
  low : Nat
  value : Nat
  high : Nat
  denominator : Nat
  closed : Bool

namespace Interval

/-- The gap below a power of two is half as wide as the one above it. -/
def ofBinary (b : Binary) : Interval :=
  let narrow := b.mantissa = Nat.pow 2 52 ∧ -1074 < b.exponent
  let scale := Nat.pow 2 (b.exponent - 2).toNat
  ⟨(4 * b.mantissa - if narrow then 1 else 2) * scale, 4 * b.mantissa * scale,
    (4 * b.mantissa + 2) * scale, Nat.pow 2 (2 - b.exponent).toNat, b.mantissa % 2 = 0⟩

/-- Whether `n / d` lies in the interval. -/
def holds (i : Interval) (n d : Nat) : Bool :=
  let a := n * i.denominator
  if i.closed then i.low * d ≤ a && a ≤ i.high * d else i.low * d < a && a < i.high * d

/-- The multiple of `10 ^ place` next to the value that lies in the interval, if one does. -/
def onGrid? (i : Interval) (place : Int) : Option Nat :=
  let up := Nat.pow 10 place.toNat
  let down := Nat.pow 10 (-place).toNat
  let below := i.value * down / (i.denominator * up)
  let distance (k : Nat) : Nat :=
    ((k * up * i.denominator : Int) - (i.value * down : Int)).natAbs
  match i.holds (below * up) down, i.holds ((below + 1) * up) down with
  | true, true =>
    some (match compare (distance below) (distance (below + 1)) with
      | .lt => below
      | .gt => below + 1
      | .eq => if below % 2 = 0 then below else below + 1)
  | true, false => some below
  | false, true => some (below + 1)
  | false, false => none

/-- Try the grids with ever more digits, `count` of them. -/
def search (i : Interval) (place : Int) : Nat → Nat × Int
  | 0 => (i.value / i.denominator, 0)
  | count + 1 =>
    match i.onGrid? place with
    | some k => (k, place)
    | none => search i (place - 1) count

end Interval

/-- Drop the zeros that end `n`, raising the exponent; at most `fuel` of them. -/
def dropZeros (n : Nat) (exponent : Int) : Nat → Nat × Int
  | 0 => (n, exponent)
  | fuel + 1 => if n ≠ 0 ∧ n % 10 = 0 then dropZeros (n / 10) (exponent + 1) fuel else (n, exponent)

/-- The digits and exponent of the shortest decimal that reads back as a positive float. -/
def shortest (b : Binary) : Nat × Int :=
  let i := Interval.ofBinary b
  let (digits, place) := i.search (leadingExponent b.numerator b.denominator) 17
  dropZeros digits place (digitCount digits)

end Formwork.Decimal
