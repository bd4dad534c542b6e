import Formwork.Context
import Formwork.Data.Reading
import Formwork.Condition.Basic
/-!
The left side of a comparison, which is a value or, where the time is asked for, an instant; and the
ordered things as which both sides can be read.
-/
namespace Formwork

open Calendar

inductive Operand where
  | value (v : Value)
  | moment (i : Instant)

namespace Operand

def isEmpty : Operand → Bool
  | value v => v.isEmpty
  | moment _ => false

def display : Operand → Except Failure String
  | value v => v.display
  | moment i => .ok i.spacedText

/-- Quote an operand in a message, which an instant never hinders. -/
def quote : Operand → Except Failure Unit
  | value v => do let _ ← v.literal
  | moment _ => .ok ()

def number? : Operand → Except Failure (Option Float)
  | value v => v.number?
  | moment _ => .ok none

def instant? (clock : Clock) : Operand → Except Failure (Option Instant)
  | value v => v.instant? clock
  | moment i => .ok (some i)

def same : Operand → Value → Bool
  | value v, w => v.same w
  | moment _, _ => false

/-- The words that are read as truth values. -/
def truthOfWord? (word : String) : Option Bool :=
  if word ∈ ["true", "yes", "1", "on"] then some true
  else if word ∈ ["false", "no", "0", "off"] then some false
  else none

def truth? : Operand → Except Failure (Option Bool)
  | value (.bool b) => .ok (some b)
  | value (.int n) => .ok (some (n != 0))
  | value (.float x) => .ok (some (x != 0.0))
  | operand => do pure (truthOfWord? (Text.lower (Text.trim (← operand.display))))

end Operand

/-- A value that has an order among those of its kind. -/
inductive Comparable where
  | text (s : String)
  | number (x : Float)
  | instant (i : Instant)
  | truth (b : Bool)

namespace Comparable

/-- The order of two floats; an undefined one has none. -/
def floatOrder? (x y : Float) : Option Ordering :=
  if x == y then some .eq else if x < y then some .lt else if y < x then some .gt else none

def order? : Comparable → Comparable → Option Ordering
  | text s, text t => some (compare s t)
  | number x, number y => floatOrder? x y
  | instant i, instant j => some (i.compare j)
  | truth a, truth b => some (compare a b)
  | _, _ => none

end Comparable

/-- Reading a side of a comparison: it may name nothing of the kind, or be beyond what can be
held. -/
abbrev Reading := OptionT (Except Failure)

namespace Operand

/-- What was looked for in an operand, which is quoted where it names none. -/
def found {α : Type} (o : Operand) (search : Except Failure (Option α)) : Reading α :=
  OptionT.mk do
    match ← search with
    | some a => pure (some a)
    | none => do
      o.quote
      pure none

/-- Read a side as the declared type; the type that leaves it open reads texts. -/
def readAs (host : Host) (type : ValueType) (o : Operand) : Reading Comparable :=
  match type with
  | .auto | .string => do pure (.text (← o.display))
  | .number => do pure (.number (← o.found o.number?))
  | .date => do pure (.instant (← o.found (o.instant? host.clock)))
  | .boolean => do pure (.truth (← o.found o.truth?))

end Operand

end Formwork
