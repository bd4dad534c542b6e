import Formwork.Context
import Formwork.Condition.Evaluate
/-!
Placeholders in texts. A path in double braces stands for what it names in a context; a text that is
a single placeholder becomes the thing itself, and in any other text the placeholder is replaced by
the thing's own text, once, from front to back. A thing without a text cannot be put into one.
-/
namespace Formwork

open Document

/-- A placeholder at the front of a text: its path, and how many characters it takes. -/
def placeholder? : List Char → Option (String × Nat)
  | '\x7b' :: '\x7b' :: rest =>
    let before := rest.takeWhile Text.isBlank
    let rest := rest.drop before.length
    let path := rest.takeWhile isPathChar
    let rest := rest.drop path.length
    let after := rest.takeWhile Text.isBlank
    match path, rest.drop after.length with
    | _ :: _, '\x7d' :: '\x7d' :: _ =>
      some (String.ofList path, before.length + path.length + after.length + 4)
    | _, _ => none
  | _ => none

/-- The path of a text that is one placeholder. -/
def wholePlaceholder? (s : String) : Option String :=
  let cs := Text.trimBy Text.isBlank s.toList
  match placeholder? cs with
  | some (path, taken) => if taken = cs.length then some path else none
  | none => none

namespace Context

/-- Follow a path through maps. -/
def follow (v : Value) : List String → Value
  | [] => v
  | part :: rest => follow ((v.get? part).getD .null) rest

/-- What a path names: data of the form, the user, the submission, or the instant. A name that the
user lacks is looked up among the user's attributes. -/
def lookUp (c : Context) (path : String) : Value :=
  let head := Value.headOfPath path
  let rest := String.ofList (path.toList.drop (head.length + 1))
  let parts := if rest.isEmpty then [] else Text.split '.' rest
  if head = "data" then follow (.map c.data) parts
  else if head = "submission" then follow c.submission.document parts
  else if head = "now" then .text c.now.isoText
  else if head = "user" then
    match c.user with
    | none => follow (.map []) parts
    | some u =>
      match follow u.document parts with
      | .null => (u.attributes.get? rest).getD .null
      | v => v
  else .null

/-- The text that takes the place of a placeholder. -/
def insertion (c : Context) (path : String) : Except Failure String :=
  match c.lookUp path with
  | .null => .ok ""
  | v => v.display

/-- Replace the placeholders of a text, `skip` of whose characters belong to the last one. -/
def fillFrom (c : Context) : Nat → List Char → Except Failure (List Char)
  | _, [] => .ok []
  | skip + 1, _ :: rest => fillFrom c skip rest
  | 0, x :: rest =>
    match placeholder? (x :: rest) with
    | some (path, taken) => do
      let inserted ← c.insertion path
      pure (inserted.toList ++ (← fillFrom c (taken - 1) rest))
    | none => do pure (x :: (← fillFrom c 0 rest))

def renderText (c : Context) (s : String) : Except Failure Value :=
  match wholePlaceholder? s with
  | some path => .ok (c.lookUp path)
  | none => do pure (.text (String.ofList (← c.fillFrom 0 s.toList)))

mutual

/-- Replace the placeholders of all texts in a value. -/
def render (c : Context) : Value → Except Failure Value
  | .text s => c.renderText s
  | .list items => do pure (.list (← renderItems c items))
  | .map entries => do pure (.map (← renderEntries c entries))
  | v => .ok v
termination_by structural v => v

def renderItems (c : Context) : List Value → Except Failure (List Value)
  | [] => .ok []
  | v :: rest => do
    let first ← render c v
    pure (first :: (← renderItems c rest))
termination_by structural vs => vs

def renderEntries (c : Context) : List (String × Value) → Except Failure (List (String × Value))
  | [] => .ok []
  | (name, v) :: rest => do
    let first ← render c v
    pure ((name, first) :: (← renderEntries c rest))
termination_by structural es => es

end

end Context
end Formwork
