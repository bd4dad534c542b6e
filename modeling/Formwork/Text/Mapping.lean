import Formwork.Text.Ranges
/-!
Maps from a character to the characters that replace it, written as words such as `DF:53,53`:
a code point, a colon, and the replacement. Words ascend by code point, and a look-up is a binary
search; a character without a word is left as it is.
-/
namespace Formwork.Text

/-- The character of a code point; text tables hold no surrogates. -/
def charAt (code : Nat) : Char := Char.ofNat code

abbrev Mapping := Array (Nat × List Char)

namespace Mapping

private def entry? (word : List Char) : Option (Nat × List Char) :=
  match wordsOn ':' word with
  | [code, replacement] =>
    some (hexValue code, (wordsOn ',' replacement).map fun digits => charAt (hexValue digits))
  | [code] => some (hexValue code, [])
  | _ => none

def ofString (text : String) : Mapping :=
  ((words text.toList).filterMap entry?).toArray

def searchIn (mapping : Mapping) (n low high : Nat) : Option (List Char) :=
  if low < high then
    let middle := (low + high) / 2
    match mapping[middle]? with
    | none => none
    | some (code, replacement) =>
      if n < code then searchIn mapping n low middle
      else if code < n then searchIn mapping n (middle + 1) high
      else some replacement
  else none
termination_by high - low

def get? (mapping : Mapping) (c : Char) : Option (List Char) :=
  searchIn mapping c.toNat 0 mapping.size

end Mapping
end Formwork.Text
