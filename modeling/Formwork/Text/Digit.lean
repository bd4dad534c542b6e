import Formwork.Text.Ranges
/-!
Decimal digits of all scripts. Each script's digits zero to nine follow one another, so a table of
the zeros gives the value of every digit. A second table holds the digits that stand for a value
but are not used in place notation, such as superscripts. A whole number that is written or read has
a limited number of digits.
-/
namespace Formwork.Text

def zeroDigits : Ranges := Ranges.ofString
  "30 660 6F0 7C0 966 9E6 A66 AE6 B66 BE6 C66 CE6 D66 DE6 E50 ED0 F20 1040 1090 17E0 1810 1946
  19D0 1A80 1A90 1B50 1BB0 1C40 1C50 A620 A8D0 A900 A9D0 A9F0 AA50 ABF0 FF10 104A0 10D30 11066
  110F0 11136 111D0 112F0 11450 114D0 11650 116C0 11730 118E0 11950 11C50 11D50 11DA0 16A60 16AC0
  16B50 1D7CE 1D7D8 1D7E2 1D7EC 1D7F6 1E140 1E2F0 1E950 1FBF0"

def decorativeDigits : Ranges := Ranges.ofString
  "B2-B3 B9 1369-1371 19DA 2070 2074-2079 2080-2089 2460-2468 2474-247C 2488-2490 24EA 24F5-24FD
  24FF 2776-277E 2780-2788 278A-2792 10A40-10A43 10E60-10E68 11052-1105A 1F100-1F10A"

/-- The value of a decimal digit. -/
def digitValue? (c : Char) : Option Nat :=
  if '0' ≤ c ∧ c ≤ '9' then some (c.toNat - '0'.toNat)
  else if c.toNat < 128 then none
  else (zeroDigits.toList.find? fun zero => zero.1 ≤ c.toNat ∧ c.toNat < zero.1 + 10).map
    fun zero => c.toNat - zero.1

def isDecimal (c : Char) : Bool := (digitValue? c).isSome

/-- Decimal digits and the decorative ones. -/
def isDigit (c : Char) : Bool := isDecimal c || (128 ≤ c.toNat && decorativeDigits.contains c)

/-- The digits that a whole number may have where it is written or read. -/
def digitLimit : Nat := 4300

/-- What is said of a number with more digits; of one that is read their count is known. -/
def digitComplaint (count : Option Nat) : String :=
  let found := match count with
    | some n => s!": value has {n} digits"
    | none => ""
  s!"Exceeds the limit ({digitLimit} digits) for integer string conversion" ++ found ++
    "; use sys.set_int_max_str_digits() to increase the limit"

end Formwork.Text
