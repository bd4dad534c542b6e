/-!
Numbers in hexadecimal digits.
-/
namespace Formwork.Text

def hexDigit? (c : Char) : Option Nat :=
  if '0' ≤ c ∧ c ≤ '9' then some (c.toNat - '0'.toNat)
  else if 'a' ≤ c ∧ c ≤ 'f' then some (c.toNat - 'a'.toNat + 10)
  else if 'A' ≤ c ∧ c ≤ 'F' then some (c.toNat - 'A'.toNat + 10)
  else none

def isHexDigit (c : Char) : Bool := (hexDigit? c).isSome

/-- The number that the hexadecimal digits of a word spell; other characters are skipped. -/
def hexValue (word : List Char) : Nat :=
  word.foldl (fun n c => match hexDigit? c with | some d => 16 * n + d | none => n) 0

/-- The digits of a number, with zeros in front up to a width. -/
def hexDigits (width n : Nat) : List Char :=
  let digits := Nat.toDigits 16 n
  List.replicate (width - digits.length) '0' ++ digits

end Formwork.Text
