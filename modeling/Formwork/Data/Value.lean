import Formwork.Data.Entries
/-!
The values that forms hold and that documents are made of. Whole numbers have any size and are kept
apart from floats; the entries of a map keep their order.
-/
namespace Formwork

inductive Value where
  | null
  | bool (b : Bool)
  | int (n : Int)
  | float (x : Float)
  | text (s : String)
  | list (items : List Value)
  | map (entries : List (String × Value))
  deriving Inhabited

namespace Value

/-- What a value is called in messages about what it cannot do. -/
def kindName : Value → String
  | null => "NoneType"
  | bool _ => "bool"
  | int _ => "int"
  | float _ => "float"
  | text _ => "str"
  | list _ => "list"
  | map _ => "dict"

/-- Whether a value counts as true where a condition is asked for. -/
def truthy : Value → Bool
  | null => false
  | bool b => b
  | int n => n != 0
  | float x => x != 0.0
  | text s => !s.isEmpty
  | list items => !items.isEmpty
  | map entries => !entries.isEmpty

def isList : Value → Bool
  | list _ => true
  | _ => false

/-- The entry under a name, where the value is a map that has one. -/
def get? (name : String) : Value → Option Value
  | map entries => Entries.get? name entries
  | _ => none

/-- A text, or the null value where there is none. -/
def ofText? : Option String → Value
  | none => null
  | some s => text s

def ofInt? : Option Int → Value
  | none => null
  | some n => int n

def ofTexts (items : List String) : Value := list (items.map text)

end Value
end Formwork
