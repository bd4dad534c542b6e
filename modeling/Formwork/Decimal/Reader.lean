import Formwork.Decimal.Binary
import Formwork.Text.Blank
import Formwork.Text.Digit
/-!
Reading decimals. `readFloat?` is the reader for what people type: blanks around the number are
dropped, the decimal digits of every script count, and a low line may stand between two digits.
`plainFloat?` is the reader for documents, which knows only the digits of ASCII.
-/
namespace Formwork.Decimal

open Formwork.Text

def isAsciiDigit (c : Char) : Bool := '0' ≤ c && c ≤ '9'

/-- The number that decimal digits spell after `n`. -/
def digitsValue (n : Nat) (cs : List Char) : Nat :=
  cs.foldl (fun n c => 10 * n + (c.toNat - '0'.toNat)) n

/-- A sign in front of a text, and the rest. -/
def takeSign : List Char → Bool × List Char
  | '-' :: rest => (true, rest)
  | '+' :: rest => (false, rest)
  | cs => (false, cs)

/-- An exponent mark with its digits, or nothing at all. -/
def exponent? : List Char → Option Int
  | [] => some 0
  | c :: rest =>
    if c = 'e' ∨ c = 'E' then
      let (negative, digits) := takeSign rest
      if digits.isEmpty ∨ !digits.all isAsciiDigit then none
      else
        let value : Int := digitsValue 0 digits
        some (if negative then -value else value)
    else none

/-- A number without its sign: digits with an optional point, then an optional exponent. -/
def unsigned? (negative : Bool) (cs : List Char) : Option Float :=
  let whole := cs.takeWhile isAsciiDigit
  let afterWhole := cs.dropWhile isAsciiDigit
  let (fraction, rest) := match afterWhole with
    | '.' :: tail => (tail.takeWhile isAsciiDigit, tail.dropWhile isAsciiDigit)
    | tail => ([], tail)
  if whole.isEmpty ∧ fraction.isEmpty then none
  else (exponent? rest).map fun exponent =>
    nearest negative (digitsValue (digitsValue 0 whole) fraction) (exponent - fraction.length)

def infinity (negative : Bool) : Float :=
  Float.ofBits (if negative then 0xFFF0000000000000 else 0x7FF0000000000000)

def undefinedFloat : Float := Float.ofBits 0x7FF8000000000000

/-- A decimal in ASCII with an optional sign, or one of the words for values without digits in any
case. -/
def plainFloat? (cs : List Char) : Option Float :=
  let (negative, rest) := takeSign cs
  let word := String.ofList (rest.map Char.toLower)
  if word = "inf" ∨ word = "infinity" then some (infinity negative)
  else if word = "nan" then some undefinedFloat
  else unsigned? negative rest

/-- Every decimal digit in its ASCII form; other characters beyond ASCII do not occur in numbers. -/
def asciiDigits (cs : List Char) : List Char :=
  cs.map fun c => match digitValue? c with
    | some d => Char.ofNat ('0'.toNat + d)
    | none => c

/-- Remove the low lines, each of which must stand between two digits. -/
def joinDigits? (before : Option Char) : List Char → Option (List Char)
  | [] => some []
  | '_' :: rest =>
    match before, rest with
    | some d, e :: _ =>
      if isAsciiDigit d ∧ isAsciiDigit e then joinDigits? (some '_') rest else none
    | _, _ => none
  | c :: rest => (joinDigits? (some c) rest).map (c :: ·)

def readFloat? (s : String) : Option Float :=
  (joinDigits? none (asciiDigits (trimBy isBlank s.toList))).bind plainFloat?

end Formwork.Decimal
