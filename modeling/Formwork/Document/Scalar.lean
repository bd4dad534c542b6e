import Formwork.Document.Decoder
import Formwork.Text.Case
import Formwork.Data.Reading
/-!
Decoders of single values. Numbers, truth values and times are also read from texts, and from each
other where nothing is lost.
-/
namespace Formwork.Document

open Formwork.Text Formwork.Decimal Formwork.Calendar

/-- A type whose members are known by name. -/
class Named (α : Type) where
  all : List α
  name : α → String

/-- The member of a name. -/
def Named.ofName? (α : Type) [Named α] (name : String) : Option α :=
  (Named.all : List α).find? fun a => Named.name a == name

/-- The member that a value names, where a caller gives one. -/
def Named.ofValue (α : Type) [Named α] (enumeration : String) (v : Value) : Except Failure α :=
  let found := match v with
    | .text s => Named.ofName? α s
    | _ => none
  match found with
  | some a => .ok a
  | none => do throw (.notMember (← v.literal) enumeration)

namespace Decoder

def any : Decoder Value := pure .ok

def anyMap : Decoder (Entries Value) := entries any

def text : Decoder String := pure fun
  | .text s => .ok s
  | _ => .fault .notText

def oneOf (α : Type) [Named α] : Decoder α := pure fun v =>
  let named := match v with
    | .text s => Named.ofName? α s
    | _ => none
  match named with
  | some a => .ok a
  | none => .fault (.notOneOf ((Named.all : List α).map Named.name))

/-- A name that is the only one admitted. -/
def constant (name : String) : Decoder String := pure fun
  | .text s => if s = name then .ok s else .fault (.notConstant name)
  | _ => .fault (.notConstant name)

/-- Low lines stand singly between other characters, and are dropped. -/
def dropLowLines? (cs : List Char) : Option (List Char) :=
  let rec doubled : List Char → Bool
    | '_' :: '_' :: _ => true
    | _ :: rest => doubled rest
    | [] => false
  if cs.head? = some '_' ∨ cs.getLast? = some '_' ∨ doubled cs then none
  else some (cs.filter (· ≠ '_'))

/-- The digits behind needless zeros; of zeros alone, or before a point, one is kept. -/
def significant? : List Char → Option (List Char)
  | '0' :: rest =>
    let tail := rest.dropWhile fun c => c = '0' || c = '_'
    match tail with
    | [] => some (rest.getLast?.getD '0' :: [])
    | '.' :: _ =>
      let passed := rest.take (rest.length - tail.length)
      some (passed.getLast?.getD '0' :: tail)
    | c :: _ => if '1' ≤ c ∧ c ≤ '9' then some tail else none
  | c :: rest => if ('1' ≤ c ∧ c ≤ '9') ∨ c = '-' then some (c :: rest) else none
  | [] => none

/-- A point with nothing but zeros behind it is dropped. -/
def dropZeroFraction (cs : List Char) : List Char :=
  match cs.dropWhile (· ≠ '.') with
  | '.' :: rest => if rest.all (· = '0') then cs.takeWhile (· ≠ '.') else cs
  | _ => cs

/-- A whole number in plain digits, with an optional minus. -/
def plainInt? (cs : List Char) : Option Int :=
  let (negative, digits) := match cs with
    | '-' :: rest => (true, rest)
    | _ => (false, cs)
  if digits.isEmpty ∨ !digits.all isAsciiDigit ∨ (digits.head? = some '0' ∧ digits ≠ ['0']) then
    none
  else
    let n : Int := digitsValue 0 digits
    some (if negative then -n else n)

/-- A whole number as people write it: with blanks around, a sign, zeros in front, low lines, and
zeros behind a point. -/
def wholeOfText? (s : String) : Option Int := do
  let cs := trimBy isWhiteSpace s.toList
  let cs ← match cs with
    | '+' :: '-' :: _ => none
    | '+' :: rest => some rest
    | _ => some cs
  let cs := dropZeroFraction (← significant? cs)
  plainInt? ((dropLowLines? cs).getD cs)

def maxWord : Int := Int.pow 2 63

def whole : Decoder Int := pure fun
  | .int n => .ok n
  | .bool b => .ok (if b then 1 else 0)
  | .float x =>
    match Binary.ofFloat? x with
    | none => .fault .notFinite
    | some b =>
      if !b.isWhole then .fault .fractional
      else if -maxWord < b.whole ∧ b.whole < maxWord then .ok b.whole
      else .fault .wholeTooLarge
  | .text s =>
    if 4300 < s.utf8ByteSize then .fault .wholeTooLarge
    else
      match wholeOfText? s with
      | some n => .ok n
      | none => .fault .wholeText
  | _ => .fault .notWhole

def numberOfText? (s : String) : Option Float :=
  match plainFloat? (trimBy isWhiteSpace s.toList) with
  | some x => some x
  | none => (dropLowLines? s.toList).bind plainFloat?

def number : Decoder Float := pure fun
  | .float x => .ok x
  | .int n =>
    match ofInt? n with
    | some x => .ok x
    | none => .fault .notNumber
  | .bool b => .ok (if b then 1.0 else 0.0)
  | .text s =>
    match numberOfText? s with
    | some x => .ok x
    | none => .fault .numberText
  | _ => .fault .notNumber

def truthOfText? (s : String) : Option Bool :=
  let word := String.ofList (s.toList.map Char.toLower)
  if word ∈ ["1", "true", "t", "yes", "y", "on"] then some true
  else if word ∈ ["0", "false", "f", "no", "n", "off"] then some false
  else none

def truthOfInt (n : Int) : Checked Bool :=
  if n = 0 then .ok false else if n = 1 then .ok true else .fault .truthText

def truth : Decoder Bool := pure fun
  | .bool b => .ok b
  | .int n => if -maxWord ≤ n ∧ n < maxWord then truthOfInt n else .fault .notTruth
  | .float x =>
    match Binary.ofFloat? x with
    | none => .fault .notTruth
    | some b =>
      if b.isWhole ∧ -maxWord < b.whole ∧ b.whole < maxWord then truthOfInt b.whole
      else .fault .notTruth
  | .text s =>
    match truthOfText? s with
    | some b => .ok b
    | none => .fault .truthText
  | _ => .fault .notTruth

/-- A time with its offset: a text, or a number of seconds. -/
def stamp : Decoder Stamp := pure fun v =>
  match v with
  | .text s =>
    match Stamp.ofTimestamp s with
    | .ok stamp => .ok stamp
    | .error fault => .fault (.timeText fault)
  | .int n =>
    match Timestamp.ofSeconds n 0 with
    | .ok stamp => .ok stamp
    | .error fault => .fault (.timeNumber fault)
  | .float x =>
    match Timestamp.ofFloat x with
    | .ok stamp => .ok stamp
    | .error fault => .fault (.timeNumber fault)
  | _ => .fault .notTime

/-- A time as the instant it names. -/
def instant : Decoder Instant := fun v => do
  return (← stamp v).andThen fun s =>
    match s.instant? with
    | some i => .ok i
    | none => .failed .beyondCalendar

end Decoder

/-- Values of optional parts. -/
def ofOption {α : Type} (f : α → Value) : Option α → Value
  | none => .null
  | some a => f a

def ofList {α : Type} (f : α → Value) (items : List α) : Value := .list (items.map f)

def ofEntries {α : Type} (f : α → Value) (es : Entries α) : Value :=
  .map (es.map fun (name, a) => (name, f a))

def ofNamed {α : Type} [Named α] (a : α) : Value := .text (Named.name a)

def ofStamp (s : Stamp) : Value := .text s.documentText

end Formwork.Document
