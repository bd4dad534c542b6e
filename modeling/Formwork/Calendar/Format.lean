import Formwork.Calendar.Instant
/-!
Written forms of instants and stamps: year, month and day with dashes, a separator, hours, minutes
and seconds with colons, microseconds only where there are any, and the offset. The form that is
shown to people has a letter for the offset of universal time.
-/
namespace Formwork.Calendar

/-- A number with zeros in front up to a width. -/
def padded (width n : Nat) : String :=
  let digits := toString n
  String.ofList (List.replicate (width - digits.length) '0') ++ digits

/-- The part of a second, where there is one. -/
def fractionText (micro : Nat) : String := if micro = 0 then "" else "." ++ padded 6 micro

def Instant.clockText (i : Instant) (separator : String) : String :=
  let d := i.date
  let seconds := i.microOfDay / microsPerSecond
  let micro := i.microOfDay % microsPerSecond
  padded 4 d.year ++ "-" ++ padded 2 d.month ++ "-" ++ padded 2 d.day ++ separator ++
    padded 2 (seconds / 3600) ++ ":" ++ padded 2 (seconds / 60 % 60) ++ ":" ++
    padded 2 (seconds % 60) ++ fractionText micro

/-- An offset with its sign, to the minute where that is exact. -/
def offsetText (ahead : Int) : String :=
  let n := ahead.natAbs / microsPerSecond
  let micro := ahead.natAbs % microsPerSecond
  (if ahead < 0 then "-" else "+") ++ padded 2 (n / 3600) ++ ":" ++ padded 2 (n / 60 % 60) ++
    (if n % 60 = 0 ∧ micro = 0 then "" else ":" ++ padded 2 (n % 60) ++ fractionText micro)

/-- Replace a part of a text wherever it stands; `skip` of the characters belong to a part that has
already been replaced. -/
def replaceFrom (part new : List Char) : Nat → List Char → List Char
  | _, [] => []
  | skip + 1, _ :: rest => replaceFrom part new skip rest
  | 0, c :: rest =>
    if part.isPrefixOf (c :: rest) then new ++ replaceFrom part new (part.length - 1) rest
    else c :: replaceFrom part new 0 rest

namespace Stamp

/-- The plain form, in which universal time is the offset zero. -/
def plainText (s : Stamp) : String :=
  s.wall.clockText "T" ++ (match s.offset with | none => "" | some n => offsetText n)

/-- The form of documents, in which universal time has a letter. -/
def documentText (s : Stamp) : String :=
  s.wall.clockText "T" ++
    (match s.offset with | none => "" | some n => if n = 0 then "Z" else offsetText n)

end Stamp

namespace Instant

def isoText (i : Instant) : String :=
  String.ofList (replaceFrom "+00:00".toList ['Z'] 0 (Stamp.ofInstant i).plainText.toList)

/-- The form in which an instant takes part in comparisons of text. -/
def spacedText (i : Instant) : String := i.clockText " " ++ "+00:00"

end Instant

/-- The form in which the instant of a stamp is shown, unless the calendar does not reach it. -/
def Stamp.isoText? (s : Stamp) : Option String := s.instant?.map Instant.isoText

end Formwork.Calendar
