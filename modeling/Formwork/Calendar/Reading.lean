import Formwork.Calendar.Iso
import Formwork.Calendar.FreeForm
import Formwork.Decimal.Binary
/-!
Instants from text of either kind, and spans of hours. A text is read as an ISO form first and, if
it is none, as a date written by hand; a text that is neither has no instant. An ISO form whose
instant lies outside the calendar is an error of its own, which no other reading hides.
-/
namespace Formwork.Calendar

/-- Why arithmetic on instants has no answer. -/
inductive SpanFault where
  /-- The calendar does not reach the instant. -/
  | beyondCalendar
  /-- More days than a span may have. -/
  | tooManyDays (days : Int)
  /-- More days than are counted at all. -/
  | uncountable
  | infinite
  | undefined
  deriving DecidableEq

/-- Read an instant, if the text names one. -/
def Instant.read (clock : Clock) (s : String) : Except SpanFault (Option Instant) :=
  if s.isEmpty then .ok none
  else
    match Instant.ofIso s with
    | .ok i => .ok (some i)
    | .error .beyondCalendar => .error .beyondCalendar
    | .error _ => .ok (Instant.ofHand? clock s)

def microsPerHour : Nat := 3600 * microsPerSecond

/-- The microseconds of a number of hours. The part behind the point is multiplied as a float and
rounded to the even neighbour. -/
def hourMicros (hours : Float) : Except SpanFault Int :=
  match Decimal.Binary.ofFloat? hours with
  | none => .error (if hours.isNaN then .undefined else .infinite)
  | some b =>
    let fraction := hours - Float.ofInt b.whole
    match Decimal.Binary.ofFloat? (3600000000.0 * fraction) with
    | none => .error .undefined
    | some f =>
      let rounded : Int := Decimal.roundEven f.numerator f.denominator
      .ok (b.whole * microsPerHour + if f.negative then -rounded else rounded)

/-- A span is held in days, which are counted in a word of 32 bits and limited to nine digits. -/
def checkSpan (micros : Int) : Except SpanFault Int :=
  let days := micros.fdiv microsPerDay
  if days < -Int.pow 2 31 ∨ Int.pow 2 31 ≤ days then .error .uncountable
  else if 999999999 < days.natAbs then .error (.tooManyDays days)
  else .ok micros

/-- The clock reading a span later. -/
def Stamp.addMicros (s : Stamp) (micros : Int) : Except SpanFault Stamp := do
  let micros ← checkSpan micros
  match s.shift? micros with
  | some later => pure later
  | none => throw .beyondCalendar

def Stamp.addHours (s : Stamp) (hours : Float) : Except SpanFault Stamp := do
  s.addMicros (← hourMicros hours)

def Instant.addHours (i : Instant) (hours : Float) : Except SpanFault Instant := do
  pure (← (Stamp.ofInstant i).addHours hours).wall

/-- Hours from one instant to another: seconds as the nearest float, then an hour's share. -/
def Instant.hoursTo (a b : Instant) : Float :=
  let micros := a.elapsed b
  Decimal.nearest (decide (micros < 0)) micros.natAbs (-6) / 3600.0

/-- Hours between two stamps, where the calendar reaches both. -/
def Stamp.hoursTo (a b : Stamp) : Except SpanFault Float :=
  match b.instant?, a.instant? with
  | some later, some earlier => .ok (earlier.hoursTo later)
  | _, _ => .error .beyondCalendar

/-- Whole years from one clock reading's date to another's. -/
def ageInYears (birth today : Instant) : Int :=
  let b := birth.date
  let t := today.date
  let reached := b.month < t.month ∨ (b.month = t.month ∧ b.day ≤ t.day)
  (t.year : Int) - b.year - if reached then 0 else 1

end Formwork.Calendar
