import Formwork.Text.Hex
/-!
Sets of characters given as ranges of code points. A set is written as words of hexadecimal digits,
`41-5A` for a range and `AA` for one character, in ascending order; membership is a binary search
over the ranges read from that text.
-/
namespace Formwork.Text

/-- The words of a text that characters of a kind separate, empty words left out. -/
def wordsBetween (separates : Char → Bool) (text : List Char) : List (List Char) :=
  let close (word : List Char) (rest : List (List Char)) :=
    if word.isEmpty then rest else word :: rest
  let (word, rest) := text.foldr (fun c (word, rest) =>
    if separates c then ([], close word rest) else (c :: word, rest)) ([], [])
  close word rest

def wordsOn (separator : Char) (text : List Char) : List (List Char) :=
  wordsBetween (· = separator) text

/-- The words of a table, which blanks and line ends separate. -/
def words (text : List Char) : List (List Char) := wordsBetween (fun c => c = ' ' || c = '\n') text

/-- Ascending, disjoint ranges of code points, both ends included. -/
abbrev Ranges := Array (Nat × Nat)

namespace Ranges

def ofString (text : String) : Ranges :=
  ((words text.toList).map fun word =>
    match wordsOn '-' word with
    | [first, last] => (hexValue first, hexValue last)
    | _ => (hexValue word, hexValue word)).toArray

/-- Whether `n` lies in one of the ranges with an index in `[low, high)`. -/
def searchIn (ranges : Ranges) (n low high : Nat) : Bool :=
  if low < high then
    let middle := (low + high) / 2
    match ranges[middle]? with
    | none => false
    | some (first, last) =>
      if n < first then searchIn ranges n low middle
      else if last < n then searchIn ranges n (middle + 1) high
      else true
  else false
termination_by high - low

def contains (ranges : Ranges) (c : Char) : Bool :=
  searchIn ranges c.toNat 0 ranges.size

end Ranges
end Formwork.Text
