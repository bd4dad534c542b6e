import Formwork.Pattern.Reader
/-!
Searching a text for a pattern. The matcher tries the ways in which a pattern can match in the order
of preference of its parts, each with what is to follow; a repetition goes on after its least count
only if its last round has moved.
-/
namespace Formwork.Pattern

/-- Where the groups matched. -/
abbrev Captures := List (Nat × Nat × Nat)

def Captures.get? (captures : Captures) (number : Nat) : Option (Nat × Nat) :=
  captures.lookup number

/-- A place in the text with the groups matched so far. -/
structure Found where
  place : Nat
  captures : Captures

abbrev Following := Found → Option Found

/-- The text that is searched, as code points. -/
abbrev Subject := Array Nat

def isWordAt (text : Subject) (ascii : Bool) (place : Nat) : Bool :=
  match text[place]? with
  | some code => Category.word.holds ascii code
  | none => false

def Anchor.holds (text : Subject) (place : Nat) : Anchor → Bool
  | textStart => place == 0
  | textEnd => place == text.size
  | lineStart => place == 0 || text[place - 1]? == some 10
  | lineEnd => place == text.size || text[place]? == some 10
  | lastEnd => place == text.size || (place + 1 == text.size && text[place]? == some 10)
  | wordEdge ascii negated =>
    text.size != 0 &&
      ((0 < place && isWordAt text ascii (place - 1)) != isWordAt text ascii place) != negated

/-- Whether the text from one place reads like the text from another. -/
def sameFrom (text : Subject) (fold : Fold) (from₁ from₂ : Nat) : Nat → Bool
  | 0 => true
  | n + 1 =>
    match text[from₁]?, text[from₂]? with
    | some a, some b =>
      (if fold = .full then (fold.matches a).contains (fold.lower b)
        else fold.lower a == fold.lower b) && sameFrom text fold (from₁ + 1) (from₂ + 1) n
    | _, _ => false

/-- Whether a count may still grow. -/
def below (most : Option Nat) (count : Nat) : Bool :=
  match most with
  | none => true
  | some n => count < n

/-- Repeat a body, given the count so far and the place where the last optional round began. -/
def rounds (body : Found → Following → Option Found) (least : Nat) (most : Option Nat) (lazy : Bool)
    (after : Following) : Nat → Nat → Option Nat → Found → Option Found
  | 0, _, _, _ => none
  | fuel + 1, count, last, found =>
    if count < least then
      body found (rounds body least most lazy after fuel (count + 1) last)
    else
      let more : Unit → Option Found := fun _ =>
        if below most count ∧ last ≠ some found.place then
          body found (rounds body least most lazy after fuel (count + 1) (some found.place))
        else none
      if lazy then
        match after found with
        | some result => some result
        | none => more ()
      else
        match more () with
        | some result => some result
        | none => after found

/-- Match a node at a place, and what follows behind it. -/
def Node.run (text : Subject) : Node → Found → Following → Option Found
  | empty, found, after => after found
  | char test, found, after =>
    match text[found.place]? with
    | some code => if test.holds code then after ⟨found.place + 1, found.captures⟩ else none
    | none => none
  | anchor a, found, after => if a.holds text found.place then after found else none
  | seq first second, found, after => first.run text found fun found => second.run text found after
  | choice first second, found, after =>
    match first.run text found after with
    | some result => some result
    | none => second.run text found after
  | repeated least most greed body, found, after =>
    let fuel := least + text.size + 2
    if greed = .possessive then
      match rounds (body.run text) least most false some fuel 0 none found with
      | some result => after result
      | none => none
    else rounds (body.run text) least most (greed = .lazy) after fuel 0 none found
  | group none body, found, after => body.run text found after
  | group (some number) body, found, after =>
    body.run text found fun inner =>
      after ⟨inner.place, (number, found.place, inner.place) :: inner.captures⟩
  | same number fold, found, after =>
    match found.captures.get? number with
    | some (first, last) =>
      if sameFrom text fold first found.place (last - first) then
        after ⟨found.place + (last - first), found.captures⟩
      else none
    | none => none
  | look behind negated body, found, after =>
    let back := match behind with
      | some (width, _) => width
      | none => 0
    let result :=
      if found.place < back then none
      else body.run text ⟨found.place - back, found.captures⟩ some
    match result, negated with
    | some inner, false => after ⟨found.place, inner.captures⟩
    | none, true => after found
    | _, _ => none
  | atomic body, found, after =>
    match body.run text found some with
    | some result => after result
    | none => none
  | conditional number yes no, found, after =>
    if (found.captures.get? number).isSome then yes.run text found after
    else no.run text found after

/-- Whether a pattern matches somewhere in a text. -/
def Node.isIn (node : Node) (s : String) : Bool :=
  let text : Subject := (s.toList.map Char.toNat).toArray
  (List.range (text.size + 1)).any fun place => (node.run text ⟨place, []⟩ some).isSome

end Formwork.Pattern
