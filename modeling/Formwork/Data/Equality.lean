import Formwork.Data.Value
import Formwork.Decimal.Binary
/-!
When two values are the same. Numbers are compared by their exact value, whether whole numbers,
floats, or the truth values, which count as one and zero. Lists are compared item by item, maps by
what they hold under each name, in whatever order.
-/
namespace Formwork.Value

open Formwork.Decimal

/-- A number in exact form, or a float that has none. -/
inductive Numeric where
  | whole (n : Int)
  | float (x : Float)

def numeric? : Value → Option Numeric
  | bool b => some (.whole (if b then 1 else 0))
  | int n => some (.whole n)
  | float x => some (.float x)
  | _ => none

/-- How a whole number compares with a float; nothing compares with the undefined float. -/
def compareFloat? (n : Int) (x : Float) : Option Ordering :=
  match Binary.ofFloat? x with
  | some b => some (b.compareInt n).swap
  | none => if x.isNaN then none else some (if x < 0.0 then .gt else .lt)

def Numeric.same : Numeric → Numeric → Bool
  | whole m, whole n => m == n
  | float x, float y => x == y
  | whole m, float y => compareFloat? m y == some .eq
  | float x, whole n => compareFloat? n x == some .eq

mutual

def same : Value → Value → Bool
  | null, null => true
  | text s, text t => s == t
  | list xs, list ys => sameItems xs ys
  | map xs, map ys => xs.length == ys.length && sameEntries xs ys
  | a, b =>
    match a.numeric?, b.numeric? with
    | some x, some y => x.same y
    | _, _ => false
termination_by structural v => v

def sameItems : List Value → List Value → Bool
  | [], [] => true
  | x :: xs, y :: ys => x.same y && sameItems xs ys
  | _, _ => false
termination_by structural xs => xs

/-- Whether each of the entries has its equal under the same name in the others. -/
def sameEntries : List (String × Value) → List (String × Value) → Bool
  | [], _ => true
  | (name, x) :: xs, ys =>
    (match Entries.get? name ys with
      | some y => x.same y
      | none => false) && sameEntries xs ys
termination_by structural xs => xs

end

/-- Whether a list holds a value equal to `v`. -/
def isIn (v : Value) (items : List Value) : Bool := items.any (·.same v)

end Formwork.Value
