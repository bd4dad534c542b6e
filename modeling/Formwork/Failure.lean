import Formwork.Refusal
import Formwork.Document.Fault
import Formwork.Calendar.Reading
import Formwork.Web.Location
import Formwork.Json.Reader
import Formwork.Pattern.Fault
/-!
Everything that can keep a request from being answered: refusals, documents with faults, and values
beyond what a computation can hold.
-/
namespace Formwork

inductive Failure where
  | refused (refusal : Refusal)
  | malformed (model : String) (faults : List Document.Fault)
  /-- A whole number beyond every float. -/
  | integerTooLarge
  | span (fault : Calendar.SpanFault)
  | time (fault : Calendar.IsoFault)
  | location (fault : Web.LocationFault)
  | json (fault : Json.Fault)
  /-- A word that is no member of an enumeration. -/
  | notMember (literal enumeration : String)
  /-- A record id that no record has. -/
  | noRecord
  /-- A parameter that a message asks for and nobody supplies. -/
  | noParameter (name : String)
  /-- A name that every record of a log has already. -/
  | reservedName (name : String)
  /-- A word that stands for something else than a level of a log. -/
  | noLevel (meaning : String)
  /-- A whole number that has too many digits to be written. -/
  | tooManyDigits
  /-- What breaks off the reading of a pattern. -/
  | pattern (breach : Pattern.Breach)
  /-- A value that lacks what things of another kind have. -/
  | noPart (kind part : String)

namespace Failure

/-- Instants that the calendar does not reach. -/
def beyondCalendar : Failure := span .beyondCalendar

def message : Failure → String
  | refused r => r.message
  | malformed model faults =>
    s!"{faults.length} faults in {model}: " ++
      "; ".intercalate (faults.map fun f => f.cause.message)
  | integerTooLarge => "int too large to convert to float"
  | span .beyondCalendar => "date value out of range"
  | span (.tooManyDays days) => s!"days={days}; must have magnitude <= 999999999"
  | span .uncountable => "Python int too large to convert to C int"
  | span .infinite => "cannot convert float infinity to integer"
  | span .undefined => "cannot convert float NaN to integer"
  | time fault => fault.message
  | location fault => fault.message
  | json fault => fault.message
  | notMember literal enumeration => s!"{literal} is not a valid {enumeration}"
  | noRecord => ""
  | noParameter name => Text.quoted name
  | reservedName name => Text.quoted s!"Attempt to overwrite '{name}' in LogRecord"
  | noLevel meaning => "Unknown level: " ++ Text.quoted meaning
  | tooManyDigits => Text.digitComplaint none
  | pattern breach => breach.message
  | noPart kind part => "'" ++ kind ++ "' object has no attribute '" ++ part ++ "'"

/-- Failures that the check of a document reports as faults of it; others end its reading. -/
def isReported : Failure → Bool
  | tooManyDigits | pattern (.tooManyDigits _) | pattern .incompatibleFlags => true
  | _ => false

/-- A refusal of the given kind. -/
def refuse (kind : Refusal.Kind) (message : String) (details : Entries Value) : Failure :=
  refused ⟨kind, message, details, none⟩

end Failure
end Formwork
