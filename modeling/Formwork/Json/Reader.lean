import Formwork.Host
import Formwork.Data.Value
import Formwork.Decimal.Reader
import Formwork.Text.Hex
/-!
Reading JSON texts into values. Of a name that an object has twice the last value counts, at the
first place; whole numbers have any size up to a limit on their digits; the words for numbers
without digits are read too. Lists and objects may be inside one another as long as the machine has
room. A fault says what was expected and where. A surrogate without its partner is no character, so
a JSON text that names one is refused once it has been read, whatever it says otherwise.
-/
namespace Formwork.Json

open Formwork.Decimal
open Formwork.Text (hexDigit?)

inductive Cause where
  | byteOrderMark
  | value
  | propertyName
  | colon
  | comma
  | extraData
  | unterminated
  | control
  | badEscape
  | badUnicodeEscape
  deriving DecidableEq

def Cause.message : Cause → String
  | byteOrderMark => "Unexpected UTF-8 BOM (decode using utf-8-sig)"
  | value => "Expecting value"
  | propertyName => "Expecting property name enclosed in double quotes"
  | colon => "Expecting ':' delimiter"
  | comma => "Expecting ',' delimiter"
  | extraData => "Extra data"
  | unterminated => "Unterminated string starting at"
  | control => "Invalid control character at"
  | badEscape => "Invalid \\escape"
  | badUnicodeEscape => "Invalid \\uXXXX escape"

inductive Container where
  | array
  | object
  deriving DecidableEq

def Container.name : Container → String
  | array => "array"
  | object => "object"

/-- What stops the reader, with the characters that are left at the place. -/
inductive Stop where
  | expected (cause : Cause) (left : Nat)
  | tooManyDigits (count : Nat)
  | tooDeep (container : Container)
  | unpairedSurrogate

def isSpace (c : Char) : Bool := c = ' ' || c = '\t' || c = '\n' || c = '\r'

def skipSpace (cs : List Char) : List Char := cs.dropWhile isSpace

/-- Four hexadecimal digits, with at least one character behind them. -/
def unicodeEscape? : List Char → Option (Nat × List Char)
  | a :: b :: c :: d :: e :: rest => do
    let a ← hexDigit? a
    let b ← hexDigit? b
    let c ← hexDigit? c
    let d ← hexDigit? d
    pure (((a * 16 + b) * 16 + c) * 16 + d, e :: rest)
  | _ => none

def simpleEscape? : Char → Option Char
  | '"' => some '"'
  | '\\' => some '\\'
  | '/' => some '/'
  | 'b' => some '\x08'
  | 'f' => some '\x0c'
  | 'n' => some '\n'
  | 'r' => some '\r'
  | 't' => some '\t'
  | _ => none

/-- The half of a surrogate pair that stands second, read after the first half. -/
def lowSurrogate? : List Char → Except Stop (Option (Nat × List Char))
  | '\\' :: 'u' :: rest =>
    if rest.length < 5 then .ok none
    else
      match unicodeEscape? rest with
      | none => .error (.expected .badUnicodeEscape (rest.length + 1))
      | some (n, after) => .ok (if 0xDC00 ≤ n ∧ n ≤ 0xDFFF then some (n, after) else none)
  | _ => .ok none

/-- What a backslash and the characters behind it stand for. A surrogate without its partner leaves a
replacement in its place. -/
def escape (start : Nat) : List Char → Except Stop (Char × List Char)
  | [] => .error (.expected .unterminated start)
  | 'u' :: rest =>
    match unicodeEscape? rest with
    | none => .error (.expected .badUnicodeEscape (rest.length + 1))
    | some (n, after) =>
      if 0xD800 ≤ n ∧ n ≤ 0xDBFF then do
        match ← lowSurrogate? after with
        | some (m, after) =>
          pure (Char.ofNat (0x10000 + (n - 0xD800) * 0x400 + (m - 0xDC00)), after)
        | none => pure ('\uFFFD', after)
      else if 0xDC00 ≤ n ∧ n ≤ 0xDFFF then .ok ('\uFFFD', after)
      else .ok (Char.ofNat n, after)
  | c :: rest =>
    match simpleEscape? c with
    | some d => .ok (d, rest)
    | none => .error (.expected .badEscape (rest.length + 2))

/-- The characters of a string behind its opening quote; `start` characters were left before it. -/
def string (start : Nat) : Nat → List Char → List Char → Except Stop (String × List Char)
  | 0, _, _ => .error (.expected .unterminated start)
  | fuel + 1, read, cs =>
    match cs with
    | [] => .error (.expected .unterminated start)
    | '"' :: rest => .ok (String.ofList read.reverse, rest)
    | '\\' :: rest => do
      let (c, rest) ← escape start rest
      string start fuel (c :: read) rest
    | c :: rest =>
      if c.toNat < 0x20 then .error (.expected .control cs.length)
      else string start fuel (c :: read) rest

/-- The digits of a whole number without needless zeros, if there are any. -/
def wholeDigits : List Char → List Char × List Char
  | '0' :: rest => (['0'], rest)
  | cs => (cs.takeWhile isAsciiDigit, cs.dropWhile isAsciiDigit)

def fractionDigits : List Char → List Char × List Char
  | '.' :: d :: rest =>
    if isAsciiDigit d then
      (d :: rest.takeWhile isAsciiDigit, rest.dropWhile isAsciiDigit)
    else ([], '.' :: d :: rest)
  | cs => ([], cs)

/-- An exponent, where a mark with digits behind it stands. -/
def exponentPart : List Char → Option Int × List Char
  | c :: rest =>
    if c = 'e' ∨ c = 'E' then
      let (negative, digits) := takeSign rest
      let own := digits.takeWhile isAsciiDigit
      if own.isEmpty then (none, c :: rest)
      else
        let n : Int := digitsValue 0 own
        (some (if negative then -n else n), digits.dropWhile isAsciiDigit)
    else (none, c :: rest)
  | [] => (none, [])

/-- A number at the front of the text. -/
def number (cs : List Char) : Except Stop (Value × List Char) :=
  let (negative, unsigned) := match cs with
    | '-' :: rest => (true, rest)
    | _ => (false, cs)
  let (whole, rest) := wholeDigits unsigned
  if whole.isEmpty then .error (.expected .value cs.length)
  else
    let (fraction, rest) := fractionDigits rest
    let (exponent, rest) := exponentPart rest
    if fraction.isEmpty ∧ exponent.isNone then
      if Text.digitLimit < whole.length then .error (.tooManyDigits whole.length)
      else
        let n : Int := digitsValue 0 whole
        .ok (.int (if negative then -n else n), rest)
    else
      let digits := digitsValue (digitsValue 0 whole) fraction
      .ok (.float (nearest negative digits (exponent.getD 0 - fraction.length)), rest)

/-- A word at the front of the text, or else a number. -/
def word (cs : List Char) : Except Stop (Value × List Char) :=
  match cs with
  | 'n' :: 'u' :: 'l' :: 'l' :: rest => .ok (.null, rest)
  | 't' :: 'r' :: 'u' :: 'e' :: rest => .ok (.bool true, rest)
  | 'f' :: 'a' :: 'l' :: 's' :: 'e' :: rest => .ok (.bool false, rest)
  | 'N' :: 'a' :: 'N' :: rest => .ok (.float undefinedFloat, rest)
  | 'I' :: 'n' :: 'f' :: 'i' :: 'n' :: 'i' :: 't' :: 'y' :: rest =>
    .ok (.float (infinity false), rest)
  | '-' :: 'I' :: 'n' :: 'f' :: 'i' :: 'n' :: 'i' :: 't' :: 'y' :: rest =>
    .ok (.float (infinity true), rest)
  | _ => number cs

mutual

/-- A value at the front of the text, and what is left, given the room for containers. At most two
steps of the reader belong to one character, so that twice as much fuel as there are characters is
enough. -/
def value : Nat → Nat → List Char → Except Stop (Value × List Char)
  | 0, _, cs => .error (.expected .value cs.length)
  | fuel + 1, room, cs =>
    match cs with
    | '"' :: rest => do
      let (s, rest) ← string cs.length cs.length [] rest
      pure (.text s, rest)
    | '[' :: rest =>
      if room = 0 then .error (.tooDeep .array)
      else
        match skipSpace rest with
        | ']' :: rest => .ok (.list [], rest)
        | rest => items fuel (room - 1) [] rest
    | '\x7b' :: rest =>
      if room = 0 then .error (.tooDeep .object)
      else
        match skipSpace rest with
        | '\x7d' :: rest => .ok (.map [], rest)
        | rest => members fuel (room - 1) [] rest
    | _ => word cs

/-- The rest of a list, after the items read so far. -/
def items : Nat → Nat → List Value → List Char → Except Stop (Value × List Char)
  | 0, _, _, cs => .error (.expected .value cs.length)
  | fuel + 1, room, read, cs => do
    let (v, rest) ← value fuel room cs
    match skipSpace rest with
    | ']' :: rest => pure (.list (v :: read).reverse, rest)
    | ',' :: rest => items fuel room (v :: read) (skipSpace rest)
    | rest => throw (.expected .comma rest.length)

/-- The rest of an object, after the members read so far. -/
def members : Nat → Nat → List (String × Value) → List Char → Except Stop (Value × List Char)
  | 0, _, _, cs => .error (.expected .value cs.length)
  | fuel + 1, room, read, cs =>
    match cs with
    | '"' :: rest => do
      let (name, rest) ← string cs.length cs.length [] rest
      match skipSpace rest with
      | ':' :: rest =>
        let (v, rest) ← value fuel room (skipSpace rest)
        match skipSpace rest with
        | '\x7d' :: rest => pure (.map (Entries.ofList ((name, v) :: read).reverse), rest)
        | ',' :: rest => members fuel room ((name, v) :: read) (skipSpace rest)
        | rest => throw (.expected .comma rest.length)
      | rest => throw (.expected .colon rest.length)
    | _ => .error (.expected .propertyName cs.length)

end

/-- Whether an escape names a surrogate without its partner. Where a JSON text has been read, every
backslash starts an escape of one of its strings. -/
def hasUnpaired : Nat → List Char → Bool
  | 0, _ | _, [] => false
  | fuel + 1, '\\' :: 'u' :: rest =>
    match unicodeEscape? rest with
    | none => hasUnpaired fuel rest
    | some (n, after) =>
      if 0xD800 ≤ n ∧ n ≤ 0xDBFF then
        match lowSurrogate? after with
        | .ok (some (_, after)) => hasUnpaired fuel after
        | _ => true
      else (0xDC00 ≤ n && n ≤ 0xDFFF) || hasUnpaired fuel after
  | fuel + 1, '\\' :: _ :: rest => hasUnpaired fuel rest
  | fuel + 1, _ :: rest => hasUnpaired fuel rest

/-- Why a text has no value: it is no JSON, for a cause at a place in it, or goes beyond a limit. -/
inductive Fault where
  | malformed (cause : Cause) (line column offset : Nat)
  | tooManyDigits (count : Nat)
  | tooDeep (container : Container)
  /-- A surrogate without its partner, which no text holds. -/
  | unpairedSurrogate
  deriving DecidableEq

def Fault.message : Fault → String
  | malformed cause line column offset =>
    s!"{cause.message}: line {line} column {column} (char {offset})"
  | tooManyDigits count => Text.digitComplaint count
  | tooDeep container =>
    s!"maximum recursion depth exceeded while decoding a JSON {container.name} " ++
      "from a unicode string"
  | unpairedSurrogate => "surrogates not allowed"

/-- The fault of a reader that stopped in `cs`. -/
def Stop.fault (cs : List Char) : Stop → Fault
  | tooManyDigits count => .tooManyDigits count
  | tooDeep container => .tooDeep container
  | unpairedSurrogate => .unpairedSurrogate
  | expected cause left =>
    let before := cs.take (cs.length - left)
    let line := (before.filter (· = '\n')).length + 1
    let column := (before.reverse.takeWhile (· ≠ '\n')).length + 1
    .malformed cause line column before.length

def readChars (host : Host) (cs : List Char) : Except Stop Value :=
  match cs with
  | '\uFEFF' :: _ => .error (.expected .byteOrderMark cs.length)
  | _ => do
    let (v, rest) ← value (2 * cs.length + 2) host.jsonRoom (skipSpace cs)
    match skipSpace rest with
    | [] => if hasUnpaired cs.length cs then throw .unpairedSurrogate else pure v
    | rest => throw (.expected .extraData rest.length)

/-- The value of a whole text. -/
def read (host : Host) (text : String) : Except Fault Value :=
  (readChars host text.toList).mapError (·.fault text.toList)

end Formwork.Json
