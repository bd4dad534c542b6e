import Formwork.Calendar.Instant
/-!
Reading the ISO forms of dates and times. A date is a year alone, year and month, a calendar date
with or without dashes, a week date or a day of the year. One character of any kind separates it
from a time, whose colons are all there or all left out; the seconds may have a fraction after a
point or a comma, and an offset may follow at any place after the separator.
-/
namespace Formwork.Calendar

/-- Why a text is no ISO date and time. -/
inductive IsoFault where
  | notAscii
  | tooShort
  | noDigits (count : Nat) (found : String)
  | mixedDashes
  | week (n : Nat)
  | weekday (n : Nat)
  | dayOfYearMissing
  | dayOfYear (n year : Nat)
  | timeTooShort
  | mixedColons
  | leftover
  | lateMidnight
  | offsetLength
  | offsetSign
  | offsetMinutes
  | offsetHours
  | misfit (part : Misfit)
  /-- The date is right, but the calendar does not reach the instant. -/
  | beyondCalendar
  deriving DecidableEq

def IsoFault.message : IsoFault → String
  | .notAscii => "ISO-8601 strings should contain only ASCII characters"
  | .tooShort => "ISO string too short"
  | .noDigits count found => s!"Expected {count} digits, got '{found}'"
  | .mixedDashes => "Inconsistent use of dash separator"
  | .week n => s!"Invalid week: {n}"
  | .weekday n => s!"Invalid weekday: {n}"
  | .dayOfYearMissing => "Invalid ordinal day"
  | .dayOfYear n year => s!"Invalid ordinal day {n} for year {year}"
  | .timeTooShort => "ISO time too short"
  | .mixedColons => "Inconsistent use of colon separator"
  | .leftover => "Unused components in ISO string"
  | .lateMidnight => "Hour may only be 24 at 24:00:00.000"
  | .offsetLength => "Time zone offset must be 1, 3, 5 or 6 characters"
  | .offsetSign => "Time zone offset requires sign"
  | .offsetMinutes => "Invalid minutes in time zone offset"
  | .offsetHours => "Invalid hours in time zone offset"
  | .misfit part => part.message
  | .beyondCalendar => "date value out of range"

namespace Iso

def isDigit (c : Char) : Bool := '0' ≤ c && c ≤ '9'

/-- The number that exactly `count` digits spell. -/
def number (count : Nat) (cs : List Char) : Except IsoFault Nat :=
  if cs.length = count ∧ cs.all isDigit then
    .ok (cs.foldl (fun n c => 10 * n + (c.toNat - '0'.toNat)) 0)
  else .error (.noDigits count (String.ofList cs))

/-- A calendar date or a part of one, and what follows it. -/
def calendarDate? (cs : List Char) : Option (Date × List Char) := do
  let part (count : Nat) (cs : List Char) := (number count (cs.take count)).toOption
  let year ← part 4 cs
  match cs.drop 4 with
  | [] => pure (⟨year, 1, 1⟩, [])
  | '-' :: rest =>
    let month ← part 2 rest
    match rest.drop 2 with
    | [] => pure (⟨year, month, 1⟩, [])
    | '-' :: rest => pure (⟨year, month, ← part 2 rest⟩, rest.drop 2)
    | _ => none
  | rest =>
    let month ← part 2 rest
    pure (⟨year, month, ← part 2 (rest.drop 2)⟩, rest.drop 4)

/-- The day number of the Monday of a year's first week, the week of the fourth of January. -/
def firstMonday (year : Nat) : Nat :=
  let fourth := (Date.mk year 1 4).number
  fourth - fourth % 7

def weekDate (year week day : Nat) : Except IsoFault Date :=
  if week < 1 ∨ 53 < week then .error (.week week)
  else if day < 1 ∨ 7 < day then .error (.weekday day)
  else if year < 1 ∨ 9999 < year then .error (.misfit (.year year))
  else
    let n := firstMonday year + 7 * (week - 1) + (day - 1)
    if n < dayCount then .ok (Date.ofNumber n) else .error .beyondCalendar

/-- A week date or a day of the year, and what follows it. -/
def otherDate (cs : List Char) : Except IsoFault (Date × List Char) := do
  if cs.length < 4 then throw .tooShort
  let year ← number 4 (cs.take 4)
  let dashed := (cs.drop 4).head? = some '-'
  match cs.drop (if dashed then 5 else 4) with
  | 'W' :: rest =>
    let week ← number 2 (rest.take 2)
    match rest.drop 2 with
    | [] => pure (← weekDate year week 1, [])
    | c :: more =>
      if (c = '-' : Bool) != dashed then throw .mixedDashes
      let rest := if dashed then more else c :: more
      let day ← number 1 (rest.take 1)
      pure (← weekDate year week day, rest.drop 1)
  | rest =>
    if rest.length < 3 then throw .dayOfYearMissing
    let day ← number 3 (rest.take 3)
    if day < 1 ∨ yearLength year < day then throw (.dayOfYear day year)
    if year < 1 then throw (.misfit (.year year))
    pure (Date.ofNumber (daysBeforeYear year + (day - 1)), rest.drop 3)

def date (cs : List Char) : Except IsoFault (Date × List Char) :=
  match calendarDate? cs with
  | some found => .ok found
  | none => otherDate cs

/-- An offset in microseconds: the letter of universal time, or a sign with hours and perhaps
minutes. -/
def offset (cs : List Char) : Except IsoFault Int := do
  if cs = ['Z'] ∨ cs = ['z'] then return 0
  if cs.length ≠ 3 ∧ cs.length ≠ 5 ∧ cs.length ≠ 6 then throw .offsetLength
  let sign : Int ← match cs.head? with
    | some '-' => pure (-1)
    | some '+' => pure 1
    | _ => throw .offsetSign
  let hours ← number 2 ((cs.drop 1).take 2)
  let minutes ← if cs.length = 3 then pure 0
    else number 2 (if (cs.drop 3).head? = some ':' then cs.drop 4 else cs.drop 3)
  if 59 < minutes then throw .offsetMinutes
  if 23 < hours then throw .offsetHours
  pure (sign * ((hours * 60 + minutes) * 60 * microsPerSecond : Nat))

structure Time where
  hour : Nat := 0
  minute : Nat := 0
  second : Nat := 0
  micro : Nat := 0
  offset : Option Int := none

def startsOffset : List Char → Bool
  | c :: _ => c = '-' || c = '+' || c = 'Z' || c = 'z'
  | [] => false

/-- What may end a time after any of its parts: nothing more, or an offset. -/
def ending? (t : Time) (cs : List Char) : Option (Except IsoFault Time) :=
  if cs.isEmpty then some (.ok t)
  else if startsOffset cs then some ((offset cs).map fun o => { t with offset := some o })
  else none

/-- The fraction of a second to the microsecond, and what follows it. -/
def fraction : List Char → Nat × List Char
  | c :: rest =>
    let digits := rest.takeWhile isDigit
    if (c = '.' ∨ c = ',') ∧ !digits.isEmpty then
      let kept := digits.take 6
      (kept.foldl (fun n d => 10 * n + (d.toNat - '0'.toNat)) 0 * Nat.pow 10 (6 - kept.length),
        rest.dropWhile isDigit)
    else (0, c :: rest)
  | [] => (0, [])

/-- What follows the seconds: an ending, perhaps behind a fraction. -/
def afterSeconds (t : Time) (cs : List Char) : Except IsoFault Time :=
  match ending? t cs with
  | some done => done
  | none => (ending? { t with micro := (fraction cs).1 } (fraction cs).2).getD (.error .leftover)

/-- What follows the minutes: an ending, or seconds after a colon if there was one before. -/
def afterMinutes (t : Time) (colons : Bool) (cs : List Char) : Except IsoFault Time :=
  match ending? t cs with
  | some done => done
  | none => do
    if colons ∧ cs.head? ≠ some ':' then throw .mixedColons
    let cs := if colons then cs.drop 1 else cs
    let second ← number 2 (cs.take 2)
    afterSeconds { t with second := second } (cs.drop 2)

/-- What follows the hours: an ending, or minutes, perhaps after a colon. -/
def afterHours (t : Time) (cs : List Char) : Except IsoFault Time :=
  match ending? t cs with
  | some done => done
  | none => do
    let colons := cs.head? = some ':'
    let cs := if colons then cs.drop 1 else cs
    let minute ← number 2 (cs.take 2)
    afterMinutes { t with minute := minute } colons (cs.drop 2)

def time (cs : List Char) : Except IsoFault Time :=
  if cs.length < 2 then .error .timeTooShort
  else
    match ending? {} cs with
    | some done => done
    | none => do afterHours { hour := ← number 2 (cs.take 2) } (cs.drop 2)

end Iso

/-- Read a stamp from an ISO text. The hour 24 stands for the midnight that ends the day, and for
no other time. -/
def Stamp.ofIso (s : String) : Except IsoFault Stamp := do
  let cs := s.toList
  if cs.any (fun c => 127 < c.toNat) then throw .notAscii
  let (date, rest) ← Iso.date cs
  let t ← if rest.isEmpty then pure {} else Iso.time (rest.drop 1)
  if t.hour = 24 ∧ (t.minute ≠ 0 ∨ t.second ≠ 0 ∨ t.micro ≠ 0) then throw .lateMidnight
  let hour := if t.hour = 24 then 0 else t.hour
  let wall ← (Instant.ofParts date hour t.minute t.second t.micro).mapError .misfit
  if t.hour = 24 then
    match wall.shift? microsPerDay with
    | some next => pure ⟨next, t.offset⟩
    | none => throw .beyondCalendar
  else pure ⟨wall, t.offset⟩

/-- Read an instant from an ISO text; a time without an offset is universal time. -/
def Instant.ofIso (s : String) : Except IsoFault Instant := do
  match (← Stamp.ofIso s).instant? with
  | some i => pure i
  | none => throw .beyondCalendar

end Formwork.Calendar
