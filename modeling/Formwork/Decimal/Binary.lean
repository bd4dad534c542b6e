/-!
The exact value of a finite float, `± mantissa * 2 ^ exponent`, read from its bits, and what can be
said of it without rounding: how it compares with an integer, its whole part, and its neighbour on
a coarser grid.
-/
namespace Formwork.Decimal

structure Binary where
  negative : Bool
  mantissa : Nat
  exponent : Int

namespace Binary

/-- The exact value of a float; infinities and the undefined value have none. -/
def ofFloat? (x : Float) : Option Binary :=
  let bits := x.toBits.toNat
  let negative := Nat.pow 2 63 ≤ bits
  let biased : Nat := bits / Nat.pow 2 52 % Nat.pow 2 11
  let fraction : Nat := bits % Nat.pow 2 52
  if biased = 2047 then none
  else if biased = 0 then some ⟨negative, fraction, -1074⟩
  else some ⟨negative, fraction + Nat.pow 2 52, (biased : Int) - 1075⟩

/-- The magnitude is `numerator / denominator`. -/
def numerator (b : Binary) : Nat := b.mantissa * Nat.pow 2 b.exponent.toNat

def denominator (b : Binary) : Nat := Nat.pow 2 (-b.exponent).toNat

theorem denominator_pos (b : Binary) : 0 < b.denominator := Nat.two_pow_pos _

/-- The numerator with its sign. -/
def signed (b : Binary) : Int := if b.negative then -(b.numerator : Int) else b.numerator

/-- How the value compares with an integer. -/
def compareInt (b : Binary) (n : Int) : Ordering := compare b.signed (n * b.denominator)

/-- The whole part, toward zero. -/
def whole (b : Binary) : Int :=
  let q := b.numerator / b.denominator
  if b.negative then -(q : Int) else q

def isWhole (b : Binary) : Bool := b.numerator % b.denominator = 0

end Binary

/-- The integer nearest to `n / d`, the even one of two. -/
def roundEven (n d : Nat) : Nat :=
  let q := n / d
  let r := n % d
  if 2 * r < d then q else if d < 2 * r then q + 1 else q + q % 2

/-- The number of decimal digits of `n`; zero has one. -/
def digitCount (n : Nat) : Nat := (Nat.toDigits 10 n).length

/-- The float nearest to `± digits * 10 ^ exponent`. Far outside the range of floats the answer is
known without the power. -/
def nearest (negative : Bool) (digits : Nat) (exponent : Int) : Float :=
  let size := (digitCount digits : Int) + exponent
  let magnitude : Float :=
    if digits = 0 ∨ size < -400 then 0.0
    else if 400 < size then Float.ofBits 0x7FF0000000000000
    else Float.ofScientific digits (decide (exponent < 0)) exponent.natAbs
  if negative then -magnitude else magnitude

/-- The float nearest to an integer, unless that is infinite. -/
def ofInt? (n : Int) : Option Float :=
  let x := nearest (decide (n < 0)) n.natAbs 0
  if x.isInf then none else some x

/-- A finite float rounded to two decimal places; its exact value decides, ties to the even
neighbour. -/
def roundToCents (x : Float) : Float :=
  match Binary.ofFloat? x with
  | none => x
  | some b => nearest b.negative (roundEven (b.numerator * 100) b.denominator) (-2)

end Formwork.Decimal
