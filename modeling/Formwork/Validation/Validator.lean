import Formwork.Context
import Formwork.Data.Reading
/-!
Validators: tests of answers that forms ask for by name.
-/
namespace Formwork

open Calendar

/-- Whether an answer passes, in a context. -/
abbrev Validator := Value → Context → Except Failure Bool

namespace Validator

/-- The answer names an instant that passes a test; what names none does not pass. -/
def ofInstant (test : Instant → Context → Bool) : Validator := fun v context => do
  match ← v.instant? context.host.clock with
  | some i => pure (test i context)
  | none => pure false

def futureDate : Validator := ofInstant fun i context => context.now.compare i == .lt

def pastDate : Validator := ofInstant fun i context => i.compare context.now == .lt

/-- The date of a birth at least eighteen years ago. -/
def adult : Validator := ofInstant fun i context => 18 ≤ ageInYears i context.now

def isPhoneChar (c : Char) : Bool :=
  c.isDigit || Text.isBlank c || c = '-' || c = '(' || c = ')'

/-- Seven to twenty characters of a phone number. -/
def isPhoneBody (cs : List Char) : Bool := 7 ≤ cs.length && cs.length ≤ 20 && cs.all isPhoneChar

/-- A phone number, with a plus in front or without; a line end may follow it. -/
def isPhone (s : String) : Bool :=
  let cs := s.toList
  let body := if cs.head? = some '+' then cs.drop 1 else cs
  isPhoneBody body || (body.getLast? = some '\n' && isPhoneBody body.dropLast)

def phone : Validator := fun v _ => do pure (isPhone (← v.display))

/-- The validators that every form can ask for. -/
def builtIn : Entries Validator :=
  [("future_date", futureDate), ("past_date", pastDate), ("min_age_18", adult), ("phone", phone)]

end Validator
end Formwork
