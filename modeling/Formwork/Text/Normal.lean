import Formwork.Text.NormalTable
/-!
The composed normal forms of text. Both decompose, put combining marks in order and compose again;
they differ in the decompositions they use, canonical ones or those of compatibility.
-/
namespace Formwork.Text

/-- A pair of code points as one number, in the order of the pairs. -/
def pairKey (first second : Nat) : Nat := first * 0x110000 + second

def composites : Array (Nat × List Char) :=
  ((words composingPairs.toList).filterMap fun word =>
    match wordsOn ':' word with
    | [pair, composite] =>
      match wordsOn '+' pair with
      | [first, second] =>
        some (pairKey (hexValue first) (hexValue second), [charAt (hexValue composite)])
      | _ => none
    | _ => none).toArray

def classRanges : Array (Nat × Nat × Nat) :=
  ((words combiningClasses.toList).filterMap fun word =>
    match wordsOn ':' word with
    | [range, value] =>
      match wordsOn '-' range with
      | [first, last] => some (hexValue first, hexValue last, hexValue value)
      | _ => none
    | _ => none).toArray

/-- The value of the range that holds `n`, among those with an index in `[low, high)`. -/
def classIn (ranges : Array (Nat × Nat × Nat)) (n low high : Nat) : Nat :=
  if low < high then
    let middle := (low + high) / 2
    match ranges[middle]? with
    | none => 0
    | some (first, last, value) =>
      if n < first then classIn ranges n low middle
      else if last < n then classIn ranges n (middle + 1) high
      else value
  else 0
termination_by high - low

/-- The combining class of a character; zero for one that starts a sequence. -/
def combiningClass (c : Char) : Nat :=
  if c.toNat < 0x300 then 0 else classIn classRanges c.toNat 0 classRanges.size

/-- The leading, vowel and trailing parts of a Hangul syllable. -/
def syllableParts (n : Nat) : List Char :=
  let i := n - 0xAC00
  let tail := i % 28
  let opening := [charAt (0x1100 + i / 588), charAt (0x1161 + i % 588 / 28)]
  if tail = 0 then opening else opening ++ [charAt (0x11A7 + tail)]

def decomposeChar (compatible : Bool) (c : Char) : List Char :=
  if c.toNat < 0xA0 then [c]
  else if 0xAC00 ≤ c.toNat ∧ c.toNat ≤ 0xD7A3 then syllableParts c.toNat
  else if compatible then
    ((compatibleForms.get? c).orElse fun _ => canonicalForms.get? c).getD [c]
  else (canonicalForms.get? c).getD [c]

/-- Put a mark before the marks of a higher class that end the text, given last character first. -/
def insertMark (c : Char) : List Char → List Char
  | [] => [c]
  | d :: before =>
    if combiningClass c < combiningClass d then d :: insertMark c before else c :: d :: before

/-- Marks in the order of their classes between two starting characters. -/
def orderMarks (cs : List Char) : List Char :=
  (cs.foldl (fun before c => if combiningClass c = 0 then c :: before else insertMark c before)
    []).reverse

def composePair? (first second : Char) : Option Char :=
  let a := first.toNat
  let b := second.toNat
  if 0x1100 ≤ a ∧ a < 0x1113 ∧ 0x1161 ≤ b ∧ b < 0x1176 then
    some (charAt (0xAC00 + ((a - 0x1100) * 21 + (b - 0x1161)) * 28))
  else if 0xAC00 ≤ a ∧ a ≤ 0xD7A3 ∧ (a - 0xAC00) % 28 = 0 ∧ 0x11A7 < b ∧ b < 0x11C3 then
    some (charAt (a + (b - 0x11A7)))
  else match Mapping.searchIn composites (pairKey a b) 0 composites.size with
    | some [c] => some c
    | _ => none

/-- Compose what follows a starting character. `pending` are the marks passed over, latest first;
a character that does not rank above the latest of them cannot reach the start. -/
def composeFrom (start : Char) (pending : List Char) : List Char → List Char
  | [] => start :: pending.reverse
  | c :: rest =>
    let blocked := match pending with
      | [] => false
      | d :: _ => decide (combiningClass c ≤ combiningClass d)
    match if blocked then none else composePair? start c with
    | some composite => composeFrom composite pending rest
    | none =>
      if combiningClass c = 0 then start :: pending.reverse ++ composeFrom c [] rest
      else composeFrom start (c :: pending) rest

def compose : List Char → List Char
  | [] => []
  | c :: rest => composeFrom c [] rest

/-- The composed form in which canonically equal texts agree. -/
def composed (cs : List Char) : List Char :=
  compose (orderMarks (cs.flatMap (decomposeChar false)))

/-- The composed form in which compatible texts agree. -/
def composedCompatible (cs : List Char) : List Char :=
  compose (orderMarks (cs.flatMap (decomposeChar true)))

end Formwork.Text
