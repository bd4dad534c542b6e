import Formwork.Text.Mapping
/-!
Labels beyond ASCII in the letters, digits and hyphens that hosts are named with. The ASCII
characters of a label come first and a hyphen behind them; the others follow in ascending order,
each as the distance from the one before, counted in code points and places and written in digits
to a base of 36 whose weights adapt to the distances seen.
-/
namespace Formwork.Mail

open Text

namespace Punycode

def base : Nat := 36

/-- The smallest digit that ends a number at a place, given the bias. -/
def threshold (bias place : Nat) : Nat :=
  let k := base * (place + 1)
  if k ≤ bias + 1 then 1 else if bias + 26 ≤ k then 26 else k - bias

/-- Divide a distance until it is small, counting the steps by the base. -/
def settle : Nat → Nat → Nat → Nat
  | 0, k, _ => k
  | fuel + 1, k, delta => if 455 < delta then settle fuel (k + base) (delta / 35) else
    k + base * delta / (delta + 38)

/-- The bias after a distance. -/
def adapt (delta count : Nat) (first : Bool) : Nat :=
  let delta := if first then delta / 700 else delta / 2
  let delta := delta + delta / count
  settle delta 0 delta

def digitOf (n : Nat) : Char :=
  if n < 26 then Char.ofNat ('a'.toNat + n) else Char.ofNat ('0'.toNat + (n - 26))

def digitValue? (c : Char) : Option Nat :=
  if 'a' ≤ c ∧ c ≤ 'z' then some (c.toNat - 'a'.toNat)
  else if '0' ≤ c ∧ c ≤ '9' then some (c.toNat - '0'.toNat + 26)
  else none

/-! ## Writing -/

/-- The digits of a distance from a place on. -/
def number (bias : Nat) : Nat → Nat → Nat → List Char
  | 0, _, n => [digitOf n]
  | fuel + 1, place, n =>
    let t := threshold bias place
    if n < t then [digitOf n]
    else digitOf (t + (n - t) % (base - t)) :: number bias fuel (place + 1) ((n - t) / (base - t))

structure Writer where
  /-- The distance counted so far. -/
  delta : Nat
  bias : Nat
  /-- How many characters are written. -/
  count : Nat
  first : Bool
  digits : List Char

/-- Write the places of one code point in the label. -/
def writePlaces (code : Nat) : List Char → Writer → Writer
  | [], w => w
  | c :: rest, w =>
    if c.toNat < code then writePlaces code rest { w with delta := w.delta + 1 }
    else if c.toNat = code then
      writePlaces code rest
        { delta := 0, bias := adapt w.delta (w.count + 1) w.first, count := w.count + 1,
          first := false, digits := w.digits ++ number w.bias w.delta 0 w.delta }
    else writePlaces code rest w

/-- Write code points in ascending order, each above `last`. -/
def writeCodes (cs : List Char) : Nat → List Nat → Writer → Writer
  | _, [], w => w
  | last, code :: rest, w =>
    let w := writePlaces code cs { w with delta := w.delta + (code - last - 1) * (w.count + 1) }
    writeCodes cs code rest { w with delta := w.delta + 1 }

end Punycode

/-- The letters, digits and hyphens for a label. -/
def punycode (cs : List Char) : List Char :=
  let plain := cs.filter fun c => c.toNat < 128
  let codes := ((cs.filter fun c => 128 ≤ c.toNat).map (·.toNat)).mergeSort
  let w := Punycode.writeCodes cs 127 codes.eraseDups ⟨0, 72, plain.length, true, []⟩
  (if plain.isEmpty then [] else plain ++ ['-']) ++ w.digits

namespace Punycode

/-! ## Reading -/

/-- A number in front of digits: its value, and the digits behind it. -/
def readNumber? (bias : Nat) : Nat → Nat → Nat → List Char → Option (Nat × List Char)
  | _, _, _, [] => none
  | place, weight, value, c :: rest => do
    let digit ← digitValue? c
    let value := value + digit * weight
    let t := threshold bias place
    if digit < t then pure (value, rest)
    else readNumber? bias (place + 1) (weight * (base - t)) value rest

/-- Put in the characters that the digits name. `position` is where in the label the last one
stands, and `fuel` at least the number of digits. -/
def insertAll? : Nat → Nat → Nat → Nat → Bool → List Char → List Char → Option (List Char)
  | _, _, _, _, _, cs, [] => some cs
  | 0, _, _, _, _, _, _ => none
  | fuel + 1, code, position, bias, first, cs, digits => do
    let (delta, rest) ← readNumber? bias 0 1 0 digits
    let count := cs.length + 1
    let position := position + delta
    let code := code + position / count
    if !code.isValidChar then none
    else
      let place := position % count
      insertAll? fuel code (place + 1) (adapt delta count first) false
        (cs.take place ++ Char.ofNat code :: cs.drop place) rest

end Punycode

/-- The label that letters, digits and hyphens stand for, in lower case. -/
def ofPunycode? (cs : List Char) : Option (List Char) :=
  let digits := (cs.reverse.takeWhile (· ≠ '-')).reverse
  let plain := cs.take (cs.length - digits.length - 1)
  Punycode.insertAll? digits.length 128 0 72 true plain digits

end Formwork.Mail
