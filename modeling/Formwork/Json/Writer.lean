import Formwork.Data.Value
import Formwork.Decimal.Layout
import Formwork.Data.Display
/-!
Writing values as JSON in ASCII: characters beyond it are escaped, in pairs of surrogates where they
need two units.
-/
namespace Formwork.Json

open Formwork.Text (hexDigits)

def escapedUnit (n : Nat) : List Char := '\\' :: 'u' :: hexDigits 4 n

def escapedChar (c : Char) : List Char :=
  if c = '"' ∨ c = '\\' then ['\\', c]
  else if c = '\n' then ['\\', 'n']
  else if c = '\r' then ['\\', 'r']
  else if c = '\t' then ['\\', 't']
  else if c = '\x08' then ['\\', 'b']
  else if c = '\x0c' then ['\\', 'f']
  else if 0x20 ≤ c.toNat ∧ c.toNat < 0x7F then [c]
  else if c.toNat < 0x10000 then escapedUnit c.toNat
  else
    let n := c.toNat - 0x10000
    escapedUnit (0xD800 + n / 0x400) ++ escapedUnit (0xDC00 + n % 0x400)

def writeString (s : String) : String :=
  String.ofList ('"' :: s.toList.flatMap escapedChar ++ ['"'])

/-- Floats that have no digits are written as words. -/
def writeFloat (x : Float) : String :=
  if x.isNaN then "NaN"
  else if x.isInf then (if x < 0.0 then "-Infinity" else "Infinity")
  else Decimal.floatText x

mutual

def write : Value → String
  | .null => "null"
  | .bool b => if b then "true" else "false"
  | .int n => toString n
  | .float x => writeFloat x
  | .text s => writeString s
  | .list items => "[" ++ ", ".intercalate (writeItems items) ++ "]"
  | .map entries => "\x7b" ++ ", ".intercalate (writeEntries entries) ++ "\x7d"
termination_by structural v => v

def writeItems : List Value → List String
  | [] => []
  | v :: rest => write v :: writeItems rest
termination_by structural vs => vs

def writeEntries : List (String × Value) → List String
  | [] => []
  | (name, v) :: rest => (writeString name ++ ": " ++ write v) :: writeEntries rest
termination_by structural es => es

end
end Formwork.Json
