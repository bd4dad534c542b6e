import Formwork.Host
import Formwork.Pattern.Cursor
import Formwork.Decimal.Reader
import Formwork.Text.Hex
/-!
Escapes in patterns: what a backslash with the characters behind it stands for, inside and outside
of character sets.
-/
namespace Formwork.Pattern

open Formwork.Decimal (isAsciiDigit digitsValue)
open Formwork.Text (isHexDigit hexValue)

/-- What the flags turn on. -/
structure Flags where
  ignoreCase : Bool := false
  manyLines : Bool := false
  dotAll : Bool := false
  spaced : Bool := false
  ascii : Bool := false
  /-- The flags for templates and for full character classes, which change nothing. -/
  template : Bool := false
  full : Bool := false
  deriving DecidableEq

namespace Flags

def fold (f : Flags) : Fold :=
  if !f.ignoreCase then .exact else if f.ascii then .ascii else .full

end Flags

/-- A group that has been opened: its widths once it is closed. -/
abbrev Groups := List (Option (Nat × Nat))

def isOctal (c : Char) : Bool := '0' ≤ c && c ≤ '7'

def octalValue (cs : List Char) : Nat := cs.foldl (fun n c => 8 * n + (c.toNat - '0'.toNat)) 0

/-- Escapes that stand for one character everywhere. -/
def controlEscape? : Char → Option Nat
  | 'a' => some 7
  | 'b' => some 8
  | 'f' => some 12
  | 'n' => some 10
  | 'r' => some 13
  | 't' => some 9
  | 'v' => some 11
  | '\\' => some 0x5C
  | _ => none

def categoryEscape? (ascii : Bool) : Char → Option Member
  | 'd' => some (.category .digit ascii false)
  | 'D' => some (.category .digit ascii true)
  | 's' => some (.category .space ascii false)
  | 'S' => some (.category .space ascii true)
  | 'w' => some (.category .word ascii false)
  | 'W' => some (.category .word ascii true)
  | _ => none

def isAsciiLetter (c : Char) : Bool := c.isAlpha

def escapeText (x : Char) (more : List Char) : String := String.ofList ('\\' :: x :: more)

/-- The code point of an escape with a fixed number of hexadecimal digits. -/
def hexEscape (x : Char) (width : Nat) (c : Cursor) : Except Fault (Nat × Cursor) := do
  let (digits, c) ← c.takeUpTo isHexDigit width
  if digits.length ≠ width then
    c.complain (.incompleteEscape (escapeText x digits)) (digits.length + 2)
  else
    let n := hexValue digits
    if 0x10FFFF < n then
      c.complain (.badEscape (escapeText x digits)) (digits.length + 2)
    else pure (n, c)

/-- A character by its name. -/
def nameEscape (host : Host) (c : Cursor) : Except Fault (Nat × Cursor) := do
  if !c.sees '\x7b' then c.complain .missingBrace
  else
    let c ← c.advance
    let (name, c) ← c.takeUntil '\x7d' "character name" (c.left + 1) []
    match host.charNamed? name with
    | some x => pure (x.toNat, c)
    | none => c.complain (.unknownCharacterName name) (name.length + 4)

/-- An escape inside a character set; the cursor stands behind it. -/
def setEscape (host : Host) (flags : Flags) (x : Char) (c : Cursor) :
    Except Fault (Member × Cursor) :=
  let bad := c.complain (.badEscape (escapeText x [])) 2
  match controlEscape? x, categoryEscape? flags.ascii x with
  | some n, _ => .ok (.char n, c)
  | none, some category => .ok (category, c)
  | none, none =>
    let asChar (r : Except Fault (Nat × Cursor)) : Except Fault (Member × Cursor) := do
      let (n, c) ← r
      pure (.char n, c)
    if x = 'x' then asChar (hexEscape x 2 c)
    else if x = 'u' then asChar (hexEscape x 4 c)
    else if x = 'U' then asChar (hexEscape x 8 c)
    else if x = 'N' then asChar (nameEscape host c)
    else if isOctal x then do
      let (digits, c) ← c.takeUpTo isOctal 2
      let n := octalValue (x :: digits)
      if 0o377 < n then c.complain (.largeOctal (escapeText x digits)) (digits.length + 2)
      else pure (.char n, c)
    else if isAsciiDigit x ∨ isAsciiLetter x then bad
    else .ok (.char x.toNat, c)

/-- A place escape outside of sets. -/
def anchorEscape? (ascii : Bool) : Char → Option Anchor
  | 'A' => some .textStart
  | 'Z' => some .textEnd
  | 'b' => some (.wordEdge ascii false)
  | 'B' => some (.wordEdge ascii true)
  | _ => none

/-- Whether a group may be referred to: it is closed, and not part of the text looked behind at. -/
def checkGroup (groups : Groups) (lookBehind : Option Nat) (number : Nat) (c : Cursor)
    (back : Nat) : Except Fault Unit :=
  match groups[number]? with
  | some (some _) =>
    match lookBehind with
    | some limit => if limit ≤ number then c.complain .groupInLookBehind else .ok ()
    | none => .ok ()
  | _ => c.complain .openGroup back

/-- A number behind a backslash: an octal code of three digits, or a group. -/
def numberEscape (flags : Flags) (groups : Groups) (lookBehind : Option Nat) (x : Char)
    (c : Cursor) : Except Fault (Node × Cursor) := do
  let (second, c) ← c.takeUpTo isAsciiDigit 1
  let (third, c) ←
    if isOctal x ∧ !second.isEmpty ∧ second.all isOctal then c.takeUpTo isOctal 1
    else pure ([], c)
  let digits := second ++ third
  if !third.isEmpty then
    let n := octalValue (x :: digits)
    if 0o377 < n then c.complain (.largeOctal (escapeText x digits)) 4
    else pure (.char (charTest n flags.fold false), c)
  else
    let number := digitsValue 0 (x :: digits)
    if number < groups.length then
      checkGroup groups lookBehind number c (digits.length + 2)
      pure (.same number flags.fold, c)
    else c.complain (.unknownGroup number) (digits.length + 1)

/-- An escape outside of sets; the cursor stands behind it. -/
def escape (host : Host) (flags : Flags) (groups : Groups) (lookBehind : Option Nat) (x : Char)
    (c : Cursor) : Except Fault (Node × Cursor) :=
  let literal (n : Nat) : Node := .char (charTest n flags.fold false)
  match anchorEscape? flags.ascii x, categoryEscape? flags.ascii x, controlEscape? x with
  | some a, _, _ => .ok (.anchor a, c)
  | none, some m, _ => .ok (.char (setTest [m] flags.fold false), c)
  | none, none, some n => .ok (literal n, c)
  | none, none, none =>
    let asNode (r : Except Fault (Nat × Cursor)) : Except Fault (Node × Cursor) := do
      let (n, c) ← r
      pure (literal n, c)
    if x = 'x' then asNode (hexEscape x 2 c)
    else if x = 'u' then asNode (hexEscape x 4 c)
    else if x = 'U' then asNode (hexEscape x 8 c)
    else if x = 'N' then asNode (nameEscape host c)
    else if x = '0' then do
      let (digits, c) ← c.takeUpTo isOctal 2
      pure (literal (octalValue digits), c)
    else if isAsciiDigit x then numberEscape flags groups lookBehind x c
    else if isAsciiLetter x then c.complain (.badEscape (escapeText x [])) 2
    else .ok (literal x.toNat, c)

end Formwork.Pattern
