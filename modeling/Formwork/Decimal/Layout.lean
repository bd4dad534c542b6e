import Formwork.Decimal.Shortest
/-!
How numbers are written: a float by the fewest digits that read back, in positional notation where
the exponent allows it and with a decimal point always; otherwise with an exponent of at least two
digits and a sign.
-/
namespace Formwork.Decimal

/-- The choices left open by the digits: which exponents are written positionally, the least width
of a written exponent, and the words for values without digits. -/
structure Layout where
  leastPositional : Int
  greatestPositional : Int
  exponentWidth : Nat
  infinite : String
  undefined : String

/-- Floats from `1e-04` up to below `1e+16` are written positionally. -/
def Layout.amount : Layout := ⟨-4, 15, 2, "inf", "nan"⟩

def zeros (n : Nat) : String := String.ofList (List.replicate n '0')

/-- Digits with the point after the first `position` of them. -/
def positional (digits : String) (position : Int) : String :=
  let count := digits.length
  if position ≤ 0 then "0." ++ zeros (-position).toNat ++ digits
  else if (count : Int) ≤ position then digits ++ zeros (position.toNat - count) ++ ".0"
  else String.ofList (digits.toList.take position.toNat) ++ "." ++
    String.ofList (digits.toList.drop position.toNat)

/-- Digits with the point after the first of them, and the exponent. -/
def scientific (layout : Layout) (digits : String) (exponent : Int) : String :=
  let rest := String.ofList (digits.toList.drop 1)
  let power := toString exponent.natAbs
  String.ofList (digits.toList.take 1) ++ (if rest.isEmpty then "" else "." ++ rest) ++ "e" ++
    (if exponent < 0 then "-" else "+") ++ zeros (layout.exponentWidth - power.length) ++ power

/-- The text of a float. -/
def Layout.render (layout : Layout) (x : Float) : String :=
  match Binary.ofFloat? x with
  | none => if x.isNaN then layout.undefined
    else if x < 0 then "-" ++ layout.infinite else layout.infinite
  | some b =>
    let sign := if b.negative then "-" else ""
    if b.mantissa = 0 then sign ++ "0.0"
    else
      let (digits, place) := shortest b
      let text := toString digits
      let position := place + text.length
      if layout.leastPositional ≤ position - 1 ∧ position - 1 ≤ layout.greatestPositional then
        sign ++ positional text position
      else sign ++ scientific layout text (position - 1)

/-- The text of a float in every answer of the library. -/
def floatText (x : Float) : String := Layout.amount.render x

end Formwork.Decimal
