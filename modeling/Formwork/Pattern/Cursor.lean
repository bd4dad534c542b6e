import Formwork.Pattern.Syntax
import Formwork.Pattern.Fault
/-!
A place in a pattern that is read from front to back. The cursor holds one token ahead: a character,
or a backslash with the character behind it.
-/
namespace Formwork.Pattern

structure Cursor where
  /-- The token ahead; the list is empty at the end. -/
  next : List Char
  rest : List Char
  /-- The place behind the token ahead. -/
  reached : Nat

namespace Cursor

/-- The place in front of the token ahead. -/
def place (c : Cursor) : Nat := c.reached - c.next.length

/-- The cursor in front of the given characters at a place. -/
def ahead (place : Nat) : List Char → Except Fault Cursor
  | [] => .ok ⟨[], [], place⟩
  | ['\\'] => .error (.bad .escapeAtEnd place)
  | '\\' :: c :: rest => .ok ⟨['\\', c], rest, place + 2⟩
  | c :: rest => .ok ⟨[c], rest, place + 1⟩

def start (pattern : List Char) : Except Fault Cursor := ahead 0 pattern

/-- The cursor behind the token ahead. -/
def advance (c : Cursor) : Except Fault Cursor := ahead c.reached c.rest

def isEnd (c : Cursor) : Bool := c.next.isEmpty

def sees (c : Cursor) (x : Char) : Bool := c.next == [x]

/-- Characters left, the token ahead included. -/
def left (c : Cursor) : Nat := c.next.length + c.rest.length

/-- Up to `n` single characters of a kind. -/
def takeUpTo (p : Char → Bool) : Nat → Cursor → Except Fault (List Char × Cursor)
  | 0, c => .ok ([], c)
  | n + 1, c =>
    match c.next with
    | [x] =>
      if p x then do
        let (xs, c) ← takeUpTo p n (← c.advance)
        pure (x :: xs, c)
      else .ok ([], c)
    | _ => .ok ([], c)

/-- A complaint about a place that lies `back` characters in front of the token ahead. -/
def complain {α : Type} (c : Cursor) (complaint : Complaint) (back : Nat := 0) : Except Fault α :=
  .error (.bad complaint (c.place - back))

/-- The characters up to a terminator, which is passed too. -/
def takeUntil (terminator : Char) (what : String) :
    Nat → List Char → Cursor → Except Fault (String × Cursor)
  | 0, _, c => c.complain (.missingName what)
  | n + 1, passed, c =>
    if c.isEnd then
      if passed.isEmpty then c.complain (.missingName what)
      else c.complain (.unterminatedName (String.singleton terminator)) passed.length
    else do
      let after ← c.advance
      if c.sees terminator then
        if passed.isEmpty then after.complain (.missingName what) 1
        else pure (String.ofList passed, after)
      else takeUntil terminator what n (passed ++ c.next) after

end Cursor
end Formwork.Pattern
