import Formwork.Calendar.Instant
import Formwork.Decimal.Reader
/-!
Timestamps of documents. A text is a date with dashes and, after a separator, a time with colons;
a date alone is its first instant. A number counts seconds from the first instant of 1970, or
milliseconds where it is too large for seconds.
-/
namespace Formwork.Calendar

/-- Why a text or a number is no timestamp. -/
inductive TimestampFault where
  | tooShort
  | leftover
  | separator
  | yearDigit
  | monthDigit
  | dayDigit
  | month
  | day
  | tooEarly
  | tooLate
  | undefined
  /-- Anything wrong with the time; a text is then judged as a date. -/
  | time
  deriving DecidableEq

def TimestampFault.reason : TimestampFault → String
  | .tooShort => "input is too short"
  | .leftover => "unexpected extra characters at the end of the input"
  | .separator => "invalid date separator, expected `-`"
  | .yearDigit => "invalid character in year"
  | .monthDigit => "invalid character in month"
  | .dayDigit => "invalid character in day"
  | .month => "month value is outside expected range of 1-12"
  | .day => "day value is outside expected range"
  | .tooEarly => "dates before 1600 are not supported as unix timestamps"
  | .tooLate => "dates after 9999 are not supported as unix timestamps"
  | .undefined => "NaN values not permitted"
  | .time => "invalid time"

namespace Timestamp

open Decimal (isAsciiDigit digitsValue)

/-- The number spelled by the first `count` characters, and what follows them. -/
def digits (count : Nat) (fault : TimestampFault) (cs : List Char) :
    Except TimestampFault (Nat × List Char) :=
  let taken := cs.take count
  if taken.length = count ∧ taken.all isAsciiDigit then .ok (digitsValue 0 taken, cs.drop count)
  else .error fault

def expect (c : Char) (fault : TimestampFault) : List Char → Except TimestampFault (List Char)
  | d :: rest => if d = c then .ok rest else .error fault
  | [] => .error fault

/-- A date with dashes, and what follows it. -/
def date (s : String) : Except TimestampFault (Date × List Char) := do
  if s.utf8ByteSize < 10 then throw .tooShort
  let (year, cs) ← digits 4 .yearDigit s.toList
  let cs ← expect '-' .separator cs
  let (month, cs) ← digits 2 .monthDigit cs
  let cs ← expect '-' .separator cs
  let (day, cs) ← digits 2 .dayDigit cs
  if month < 1 ∨ 12 < month then throw .month
  if day < 1 ∨ monthLength year month < day then throw .day
  pure (⟨year, month, day⟩, cs)

/-- Seconds and microseconds behind the minutes, and what follows them. -/
def seconds : List Char → Except TimestampFault (Nat × Nat × List Char)
  | ':' :: cs => do
    let (second, cs) ← digits 2 .time cs
    match cs with
    | c :: rest =>
      if c = '.' ∨ c = ',' then
        let fraction := rest.takeWhile isAsciiDigit
        if fraction.isEmpty then throw .time
        let kept := fraction.take 6
        pure (second, digitsValue 0 kept * Nat.pow 10 (6 - kept.length), rest.dropWhile isAsciiDigit)
      else pure (second, 0, c :: rest)
    | [] => pure (second, 0, [])
  | cs => pure (0, 0, cs)

def offset : List Char → Except TimestampFault (Option Int)
  | [] => pure none
  | ['Z'] => pure (some 0)
  | ['z'] => pure (some 0)
  | c :: cs => do
    let sign : Int ← if c = '+' then pure 1 else if c = '-' ∨ c.toNat = 0x2212 then pure (-1)
      else throw .time
    let (hours, cs) ← digits 2 .time cs
    let (minutes, cs) ← digits 2 .time (if cs.head? = some ':' then cs.drop 1 else cs)
    if !cs.isEmpty ∨ 59 < minutes ∨ 23 < hours then throw .time
    pure (some (sign * ((hours * 60 + minutes) * 60 * microsPerSecond : Nat)))

/-- A date and a time of day. -/
def dateTime (s : String) : Except TimestampFault Stamp := do
  let (date, cs) ← date s
  match cs with
  | [] => throw .time
  | c :: cs =>
    if c ≠ 'T' ∧ c ≠ 't' ∧ c ≠ ' ' ∧ c ≠ '_' then throw .time
    let (hour, cs) ← digits 2 .time cs
    let cs ← expect ':' .time cs
    let (minute, cs) ← digits 2 .time cs
    let (second, micro, cs) ← seconds cs
    let offset ← offset cs
    match Instant.ofParts date hour minute second micro with
    | .ok wall => pure ⟨wall, offset⟩
    | .error _ => throw .time

/-- Days from the first of January of year 1 to that of 1970. -/
def epochDay : Nat := 719162

/-- A count of seconds, or of milliseconds where it exceeds `2 * 10 ^ 10`, with microseconds. -/
def ofSeconds (n : Int) (micro : Nat) : Except TimestampFault Stamp :=
  let total := if n.natAbs ≤ 20000000000 then n * 1000000 + micro else n * 1000 + micro
  if total < -11676096000 * 1000000 then .error .tooEarly
  else
    match Instant.ofMicros? ((epochDay * microsPerDay : Nat) + total) with
    | some i => .ok (Stamp.ofInstant i)
    | none => .error .tooLate

/-- The whole number below `x` as seconds or milliseconds, and a fraction of a second. -/
def ofWhole (x fraction : Float) : Except TimestampFault Stamp :=
  match Decimal.Binary.ofFloat? x with
  | none => .error (if x.isNaN then .undefined else if x < 0 then .tooEarly else .tooLate)
  | some b => ofSeconds (b.signed / (b.denominator : Int)) (fraction * 1000000).round.toUInt64.toNat

/-- A number with a fraction. The fraction counts without its sign, and always as one of a second. -/
def ofFloat (x : Float) : Except TimestampFault Stamp :=
  ofWhole x (x - if x < 0 then x.ceil else x.floor).abs

/-- A text with a fraction is turned into seconds before its fraction is taken. -/
def ofDecimalText (x : Float) : Except TimestampFault Stamp :=
  let seconds := if x.abs > 20000000000 then x / 1000 else x
  ofWhole seconds (seconds - seconds.floor)

/-- A text that is a number counts as one. -/
def ofNumeral? (s : String) : Option (Except TimestampFault Stamp) :=
  let (negative, cs) := Decimal.takeSign s.toList
  if !cs.isEmpty ∧ cs.all isAsciiDigit then
    let n : Int := digitsValue 0 cs
    some (ofSeconds (if negative then -n else n) 0)
  else if (cs.head?.map isAsciiDigit).getD false then
    (Decimal.unsigned? negative cs).map ofDecimalText
  else none

end Timestamp

/-- Read a timestamp from a text. A text with a fault in its time is judged as a date. -/
def Stamp.ofTimestamp (s : String) : Except TimestampFault Stamp :=
  match Timestamp.dateTime s with
  | .ok stamp => .ok stamp
  | .error _ =>
    match Timestamp.ofNumeral? s with
    | some result => result
    | none => do
      let (date, rest) ← Timestamp.date s
      if !rest.isEmpty then throw .leftover
      match Instant.ofParts date 0 0 0 0 with
      | .ok wall => pure ⟨wall, none⟩
      | .error _ => throw .day

end Formwork.Calendar
