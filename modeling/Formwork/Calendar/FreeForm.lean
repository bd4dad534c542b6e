import Formwork.Calendar.Instant
import Formwork.Calendar.Token
import Formwork.Text.Case
/-!
Reading dates written by hand: names of months and weekdays, numbers in the usual orders, hours with
colons or letters, halves of the day, and zones. Parts that are not written are those of the day on
the machine's clock, and a two-digit year lies near the year in which the program was started.
-/
namespace Formwork.Calendar

open Formwork.Text

/-- The machine's clock, as far as the reading of dates asks for it. -/
structure Clock where
  /-- The day that lends its parts to dates written without them. -/
  today : Date
  /-- The year in which the program was started; two-digit years are taken near it. -/
  startYear : Nat
  deriving DecidableEq

/-- A non-negative decimal `digits / 10 ^ places` as it stands in a text. -/
structure Figure where
  digits : Nat
  places : Nat

namespace Figure

/-- The denominator of the figure. -/
def scale (f : Figure) : Nat := Nat.pow 10 f.places

def whole (f : Figure) : Nat := f.digits / f.scale

/-- Whether the figure lies in `[low, high]`. -/
def within (f : Figure) (low high : Nat) : Bool :=
  low * f.scale ≤ f.digits && f.digits ≤ high * f.scale

def exceeds (f : Figure) (n : Nat) : Bool := n * f.scale < f.digits

/-- Sixtieths in the part behind the point, if there is one. -/
def sixtieths? (f : Figure) : Option Nat :=
  let rest := f.digits % f.scale
  if rest = 0 then none else some (60 * rest / f.scale)

/-- Digits of any script with at most one point among them. -/
def ofWord? (word : String) : Option Figure :=
  let cs := word.toList
  let whole := cs.takeWhile (· ≠ '.')
  let rest := cs.dropWhile (· ≠ '.')
  let places := rest.drop 1
  let value (cs : List Char) (n : Nat) : Option Nat :=
    cs.foldlM (fun n c => (digitValue? c).map (10 * n + ·)) n
  if whole.isEmpty ∨ (!rest.isEmpty ∧ places.isEmpty) then none
  else do
    let n ← value whole 0
    pure ⟨← value places n, places.length⟩

end Figure

/-- A number made of decimal digits alone. -/
def integer? (word : String) : Option Nat :=
  if word.toList.isEmpty then none
  else word.toList.foldlM (fun n c => (digitValue? c).map (10 * n + ·)) 0

/-- Whether a word would be read as a number, be it one without a value. -/
def isNumeral (word : String) : Bool :=
  (Figure.ofWord? word).isSome ||
    ["nan", "inf", "infinity"].contains (lower word)

def indexIn? (names : List (List String)) (word : String) : Option Nat :=
  names.findIdx? (·.contains (lower word))

def isFiller (word : String) : Bool :=
  [" ", ".", ",", ";", "-", "/", "'", "at", "on", "and", "ad", "m", "t", "of", "st", "nd", "rd",
    "th"].contains (lower word)

def weekday? : String → Option Nat := indexIn?
  [["mon", "monday"], ["tue", "tuesday"], ["wed", "wednesday"], ["thu", "thursday"],
    ["fri", "friday"], ["sat", "saturday"], ["sun", "sunday"]]

def month? (word : String) : Option Nat :=
  (indexIn? [["jan", "january"], ["feb", "february"], ["mar", "march"], ["apr", "april"], ["may"],
    ["jun", "june"], ["jul", "july"], ["aug", "august"], ["sep", "sept", "september"],
    ["oct", "october"], ["nov", "november"], ["dec", "december"]] word).map (· + 1)

/-- Hours, minutes or seconds, as the letters behind a number say. -/
def unit? : String → Option Nat := indexIn?
  [["h", "hour", "hours"], ["m", "minute", "minutes"], ["s", "second", "seconds"]]

/-- The first or the second half of the day. -/
def half? : String → Option Nat := indexIn? [["am", "a"], ["pm", "p"]]

def universalZones : List String := ["UTC", "GMT", "Z", "z"]

/-- Years, months and days in the order in which they are met, with the places of those whose role
is known. -/
structure DateParts where
  values : List Nat := []
  yearAt : Option Nat := none
  monthAt : Option Nat := none
  fullYear : Bool := false

namespace DateParts

def addYear? (p : DateParts) (n : Nat) : Option DateParts :=
  if p.yearAt.isSome then none
  else some { p with values := p.values ++ [n], yearAt := some p.values.length }

def addMonth? (p : DateParts) (n : Nat) : Option DateParts :=
  if p.monthAt.isSome then none
  else some { p with values := p.values ++ [n], monthAt := some p.values.length }

/-- Add the digits of a word. More than two digits can only be a year. -/
def addWord? (p : DateParts) (word : String) (isYear : Bool) : Option DateParts := do
  let long := word.toList.all isDigit && 2 < word.length
  let n ← integer? word
  let p := { p with fullYear := p.fullYear || long }
  if long || isYear then p.addYear? n else some { p with values := p.values ++ [n] }

/-- Add a figure. One above a hundred can only be a year. -/
def addFigure? (p : DateParts) (f : Figure) : Option DateParts :=
  if f.exceeds 100 then { p with fullYear := true }.addYear? f.whole
  else some { p with values := p.values ++ [f.whole] }

/-- Whether a figure could be the day, given the month and the year where they are known. -/
def couldBeDay (p : DateParts) (f : Figure) : Bool :=
  match p.monthAt.bind (p.values[·]?) with
  | none => f.within 1 31
  | some month =>
    match p.yearAt.bind (p.values[·]?) with
    | none => f.within 1 (monthLength 2000 month)
    | some year => f.within 1 (monthLength year month)

/-- Year, month and day of three values when the places of two roles are known or when none is. -/
def resolveThree (p : DateParts) (a b c : Nat) : Option Nat × Option Nat × Option Nat :=
  match p.monthAt, p.yearAt with
  | some m, some y =>
    let d := 3 - m - y
    (p.values[y]?, p.values[m]?, p.values[d]?)
  | some 0, none => if 31 < b then (some b, some a, some c) else (some c, some a, some b)
  | some 1, none => if 31 < a then (some a, some b, some c) else (some c, some b, some a)
  | some _, none => if 31 < b then (some b, some c, some a) else (some a, some c, some b)
  | none, y =>
    if 31 < a ∨ y = some 0 then (some a, some b, some c)
    else if 12 < a then (some c, some b, some a)
    else (some c, some a, some b)

/-- Year, month and day, each where it is known; more than three values have no reading. -/
def resolve? (p : DateParts) : Option (Option Nat × Option Nat × Option Nat) :=
  match p.values with
  | [] => some (none, none, none)
  | [a] =>
    match p.monthAt, p.yearAt with
    | some _, _ => some (none, some a, none)
    | none, some _ => some (some a, none, none)
    | none, none => some (if 31 < a then (some a, none, none) else (none, none, some a))
  | [a, b] =>
    match p.monthAt, p.yearAt with
    | some m, some y => some (p.values[y]?, p.values[m]?, none)
    | some m, none =>
      let month := if m = 0 then a else b
      let other := if m = 0 then b else a
      some (if 31 < other then (some other, some month, none) else (none, some month, some other))
    | none, _ =>
      some (if 31 < a then (some a, some b, none)
        else if 31 < b then (some b, some a, none)
        else (none, some a, some b))
  | [a, b, c] => some (p.resolveThree a b c)
  | _ => none

end DateParts

/-- What has been understood of a text. -/
structure HandDate where
  parts : DateParts := {}
  weekday : Option Nat := none
  hour : Option Nat := none
  minute : Option Nat := none
  second : Option Nat := none
  micro : Option Nat := none
  half : Option Nat := none
  zone : Option String := none
  /-- Microseconds by which the zone is ahead of universal time. -/
  offset : Option Int := none

namespace HandDate

/-- Seconds with their fraction to the microsecond. -/
def seconds? (word : String) : Option (Nat × Nat) :=
  let cs := word.toList
  if cs.contains '.' then
    let whole := String.ofList (cs.takeWhile (· ≠ '.'))
    let fraction := (cs.dropWhile (· ≠ '.')).drop 1
    if fraction.contains '.' then none
    else do
      let kept := (fraction ++ List.replicate (6 - fraction.length) '0').take 6
      pure (← integer? whole, ← integer? (String.ofList kept))
  else (integer? word).map (·, 0)

/-- Noon is the twelfth hour of the second half, midnight that of the first. -/
def hourInHalf (hour half : Nat) : Nat :=
  if hour < 12 ∧ half = 1 then hour + 12 else if hour = 12 ∧ half = 0 then 0 else hour

def setMinutes (d : HandDate) (f : Figure) : HandDate :=
  { d with minute := some f.whole, second := f.sixtieths? }

/-- Take a number as hours, minutes or seconds; a smaller unit than seconds has no place. -/
def setUnit? (d : HandDate) (word : String) (f : Figure) (unit : Nat) : Option HandDate :=
  match unit with
  | 0 => some { d with hour := some f.whole, minute := f.sixtieths?.orElse fun _ => d.minute }
  | 1 => some (d.setMinutes f)
  | 2 => (seconds? word).map fun (s, us) => { d with second := some s, micro := some us }
  | _ => some d

/-- A zone's name is in capitals and comes after the hour. -/
def couldBeZone (hour : Option Nat) (zone : Option String) (offset : Option Int)
    (word : String) : Bool :=
  hour.isSome && zone.isNone && offset.isNone && word.length ≤ 5 &&
    (word.toList.all (fun c => 'A' ≤ c && c ≤ 'Z') || universalZones.contains word)

/-- Where the unit of the number at `i` is named: behind it, or before it. -/
def unitAt? (words : Array String) (i : Nat) : Option Nat :=
  let unit (j : Nat) : Bool := ((words[j]?).bind unit?).isSome
  let blank (j : Nat) : Bool := words[j]? = some " "
  if unit (i + 1) then some (i + 1)
  else if blank (i + 1) && unit (i + 2) then some (i + 2)
  else if 0 < i && unit (i - 1) then some (i - 1)
  else if 1 < i && i + 1 = words.size && blank (i - 1) && unit (i - 2) then some (i - 2)
  else none

/-- The first characters of a word and the characters from a place up to another. -/
def slice (word : String) (start stop : Nat) : String :=
  String.ofList ((word.toList.take stop).drop start)

/-- Day, month and year with separators between them, from the word at `i` on. -/
def separated? (words : Array String) (i : Nat) (d : HandDate) : Option (Nat × HandDate) := do
  let separator ← words[i + 1]?
  let parts ← d.parts.addWord? (← words[i]?) false
  match words[i + 2]? with
  | none => pure (i + 1, { d with parts := parts })
  | some second =>
    if isFiller second then pure (i + 1, { d with parts := parts })
    else
      let parts ← if second.toList.all isDigit then parts.addWord? second false
        else parts.addMonth? (← month? second)
      if words[i + 3]? = some separator then
        let third ← words[i + 4]?
        let parts ← match month? third with
          | some n => parts.addMonth? n
          | none => parts.addWord? third false
        pure (i + 4, { d with parts := parts })
      else pure (i + 2, { d with parts := parts })

/-- Take the number at `i`. The answer is the last place that was read. -/
def number? (words : Array String) (i : Nat) (d : HandDate) : Option (Nat × HandDate) := do
  let word ← words[i]?
  let f ← Figure.ofWord? word
  let size := word.length
  let next := words[i + 1]?
  let point := word.toList.findIdx? (· = '.')
  let nextIs (p : String → Bool) : Bool := match next with | some w => p w | none => false
  if d.parts.values.length = 3 ∧ (size = 2 ∨ size = 4) ∧ d.hour.isNone ∧
      !nextIs (fun w => w = ":" || (unit? w).isSome) then
    let hour ← integer? (slice word 0 2)
    let minute ← if size = 4 then (integer? (slice word 2 4)).map some else pure d.minute
    pure (i, { d with hour := some hour, minute := minute })
  else if size = 6 ∨ (6 < size ∧ point = some 6) then
    if d.parts.values.isEmpty ∧ point.isNone then
      let parts ← d.parts.addWord? (slice word 0 2) false
      let parts ← parts.addWord? (slice word 2 4) false
      pure (i, { d with parts := ← parts.addWord? (slice word 4 size) false })
    else
      let hour ← integer? (slice word 0 2)
      let minute ← integer? (slice word 2 4)
      let (second, micro) ← seconds? (slice word 4 size)
      pure (i, { d with
        hour := some hour, minute := some minute, second := some second, micro := some micro })
  else if size = 8 ∨ size = 12 ∨ size = 14 then
    let parts ← d.parts.addWord? (slice word 0 4) true
    let parts ← parts.addWord? (slice word 4 6) false
    let d := { d with parts := ← parts.addWord? (slice word 6 8) false }
    if size = 8 then pure (i, d)
    else
      let hour ← integer? (slice word 8 10)
      let minute ← integer? (slice word 10 12)
      let second ← if size = 14 then (integer? (slice word 12 14)).map some else pure d.second
      pure (i, { d with hour := some hour, minute := some minute, second := second })
  else if let some j := unitAt? words i then
    let unit ← words[j]?.bind unit?
    if i < j then pure (j, ← d.setUnit? word f unit) else pure (i, ← d.setUnit? word f (unit + 1))
  else if next = some ":" ∧ i + 2 < words.size then
    let minutes ← words[i + 2]?.bind Figure.ofWord?
    let d := { d with hour := some f.whole }.setMinutes minutes
    if words[i + 3]? = some ":" ∧ i + 4 < words.size then
      let (second, micro) ← words[i + 4]?.bind seconds?
      pure (i + 4, { d with second := some second, micro := some micro })
    else pure (i + 2, d)
  else if next = some "-" ∨ next = some "/" ∨ next = some "." then separated? words i d
  else if next.isNone ∨ nextIs isFiller then
    match words[i + 2]?.bind half? with
    | some half => pure (i + 2, { d with hour := some (hourInHalf f.whole half) })
    | none => pure (i + 1, { d with parts := ← d.parts.addFigure? f })
  else
    match next.bind half? with
    | some half =>
      if f.whole < 24 then pure (i + 1, { d with hour := some (hourInHalf f.whole half) })
      else if d.parts.couldBeDay f then pure (i, { d with parts := ← d.parts.addFigure? f })
      else none
    | none =>
      if d.parts.couldBeDay f then pure (i, { d with parts := ← d.parts.addFigure? f }) else none

/-- A two-digit year in the century of the start, moved so that it is less than fifty years away. -/
def fullYear (clock : Clock) (year : Nat) (complete : Bool) : Nat :=
  if year < 100 ∧ !complete then
    let n := year + clock.startYear / 100 * 100
    if clock.startYear + 50 ≤ n then n - 100
    else if n < clock.startYear - 50 then n + 100
    else n
  else year

/-- Take the month at `i`, with the day and the year that separators tie to it. -/
def monthName? (clock : Clock) (words : Array String) (i month : Nat) (d : HandDate) :
    Option (Nat × HandDate) := do
  let parts ← d.parts.addMonth? month
  let next := words[i + 1]?
  if next = some "-" ∨ next = some "/" then
    let parts ← parts.addWord? (← words[i + 2]?) false
    if words[i + 3]?.isSome ∧ words[i + 3]? = next then
      pure (i + 4, { d with parts := ← parts.addWord? (← words[i + 4]?) false })
    else pure (i + 2, { d with parts := parts })
  else if next = some " " ∧ words[i + 3]? = some " " ∧ i + 4 < words.size ∧
      (words[i + 2]?.map lower) = some "of" then
    match words[i + 4]?.bind integer? with
    | some n =>
      let year := toString (fullYear clock n false)
      pure (i + 4, { d with parts := ← parts.addWord? year true })
    | none => pure (i + 4, { d with parts := parts })
  else pure (i, { d with parts := parts })

/-- Take the offset whose sign stands at `i`, and a zone's name in brackets behind it. -/
def offset? (words : Array String) (i : Nat) (sign : Int) (d : HandDate) :
    Option (Nat × HandDate) := do
  let digits ← words[i + 1]?
  let (hours, minutes, i) ←
    if digits.length = 4 then do
      pure (← integer? (slice digits 0 2), ← integer? (slice digits 2 4), i)
    else if words[i + 2]? = some ":" then do
      pure (← integer? digits, ← words[i + 3]?.bind integer?, i + 2)
    else if digits.length ≤ 2 then do pure (← integer? (slice digits 0 2), 0, i)
    else none
  let d := { d with offset := some (sign * ((hours * 60 + minutes) * 60 * microsPerSecond : Nat)) }
  match words[i + 4]? with
  | some name =>
    if i + 5 < words.size ∧ ((words[i + 2]?.map isFiller).getD false) ∧
        words[i + 3]? = some "(" ∧ words[i + 5]? = some ")" ∧ 3 ≤ name.length ∧
        couldBeZone d.hour d.zone none name then
      pure (i + 5, { d with zone := some name })
    else pure (i + 1, d)
  | none => pure (i + 1, d)

/-- Take a zone's name. A sign behind it says where universal time lies, seen from the zone, so it
is turned round. -/
def zoneName (words : Array String) (i : Nat) (word : String) (d : HandDate) :
    Array String × HandDate :=
  let universal := universalZones.contains word
  let d := { d with zone := some word, offset := if universal then some 0 else none }
  match words[i + 1]? with
  | some "+" =>
    (words.set! (i + 1) "-", { d with offset := none, zone := if universal then none else d.zone })
  | some "-" =>
    (words.set! (i + 1) "+", { d with offset := none, zone := if universal then none else d.zone })
  | _ => (words, d)

/-- Take the word at `i`. The answer is the last place that was read, and the words left to read
with a sign perhaps turned round. -/
def word? (clock : Clock) (words : Array String) (i : Nat) (d : HandDate) :
    Option (Nat × Array String × HandDate) := do
  let word ← words[i]?
  if isNumeral word then
    let (j, d) ← number? words i d
    pure (j, words, d)
  else if let some n := weekday? word then pure (i, words, { d with weekday := some n })
  else if let some n := month? word then
    let (j, d) ← monthName? clock words i n d
    pure (j, words, d)
  else if let some half := half? word then
    let hour ← d.hour
    if 12 < hour then none
    else pure (i, words, { d with hour := some (hourInHalf hour half), half := some half })
  else if couldBeZone d.hour d.zone d.offset word then
    let (words, d) := zoneName words i word d
    pure (i, words, d)
  else if d.hour.isSome ∧ (word = "+" ∨ word = "-") then
    let (j, d) ← offset? words i (if word = "+" then 1 else -1) d
    pure (j, words, d)
  else if isFiller word then pure (i, words, d)
  else none

/-- Take all words from `i` on; each step reads at least one of the `fuel` that are left. -/
def wordsFrom? (clock : Clock) (words : Array String) (i : Nat) (d : HandDate) :
    Nat → Option HandDate
  | 0 => some d
  | fuel + 1 =>
    if i < words.size then do
      let (j, words, d) ← word? clock words i d
      wordsFrom? clock words (j + 1) d fuel
    else some d

/-- The zone's offset once all is read: the universal zones have the offset zero. -/
def settleZone (d : HandDate) : HandDate :=
  match d.zone, d.offset with
  | none, some 0 => { d with zone := some "UTC" }
  | some name, _ =>
    if name = "Z" ∨ name = "z" then { d with zone := some "UTC", offset := some 0 }
    else if universalZones.contains name then { d with offset := some 0 }
    else d
  | _, _ => d

/-- Whether anything at all was understood. -/
def isEmpty (d : HandDate) (year month day : Option Nat) : Bool :=
  year.isNone && month.isNone && day.isNone && d.weekday.isNone && d.hour.isNone &&
    d.minute.isNone && d.second.isNone && d.micro.isNone && d.zone.isNone && d.offset.isNone &&
    d.half.isNone

/-- The stamp of what was understood, with the parts of today where nothing was said. A weekday
without a day is the first one from there on. -/
def stamp? (clock : Clock) (d : HandDate) : Option Stamp := do
  let (year, month, day) ← d.parts.resolve?
  let d := d.settleZone
  if d.isEmpty year month day then none
  let year := (year.map (fullYear clock · d.parts.fullYear)).getD clock.today.year
  let monthNumber := month.getD clock.today.month
  if monthNumber < 1 ∨ 12 < monthNumber then none
  let dayNumber := day.getD (min clock.today.day (monthLength year monthNumber))
  let wall ← (Instant.ofParts ⟨year, monthNumber, dayNumber⟩ (d.hour.getD 0) (d.minute.getD 0)
    (d.second.getD 0) (d.micro.getD 0)).toOption
  let wall ← match d.weekday, day with
    | some weekday, none => wall.shift? ((7 + weekday - wall.date.weekday) % 7 * microsPerDay)
    | _, _ => some wall
  match d.offset with
  | none => pure ⟨wall, none⟩
  | some ahead => if ahead.natAbs < microsPerDay then pure ⟨wall, some ahead⟩ else none

end HandDate

/-- Read an instant from a date written by hand; a time without a zone is universal time. -/
def Instant.ofHand? (clock : Clock) (s : String) : Option Instant := do
  let words := (handWords s).toArray
  let d ← HandDate.wordsFrom? clock words 0 {} words.size
  (← d.stamp? clock).instant?

end Formwork.Calendar
