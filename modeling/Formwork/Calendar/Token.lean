import Formwork.Text.Blank
import Formwork.Text.Letter
import Formwork.Text.Digit
/-!
Words of a date written by hand. A run of letters is a word, a run of digits is a number, and any
other character stands alone. A point inside a run keeps it together until it is known whether it
was a decimal point; if not, the run is broken up at its points and commas.
-/
namespace Formwork.Calendar

open Formwork.Text

/-- What the characters of a run were so far: letters or digits, and whether a point was met. -/
inductive Run where
  | letters
  | digits
  | dottedLetters
  | dottedDigits
  deriving DecidableEq

/-- Whether a run goes on with `c`, and as what. `count` is the run's length, `last` its end. -/
def Run.next? (run : Run) (count : Nat) (last c : Char) : Option Run :=
  match run with
  | .letters => if isLetter c then some .letters else if c = '.' then some .dottedLetters else none
  | .digits =>
    if isDigit c then some .digits
    else if c = '.' ∨ (c = ',' ∧ 2 ≤ count) then some .dottedDigits
    else none
  | .dottedLetters =>
    if c = '.' ∨ isLetter c then some .dottedLetters
    else if isDigit c ∧ last = '.' then some .dottedDigits
    else none
  | .dottedDigits =>
    if c = '.' ∨ isDigit c then some .dottedDigits
    else if isLetter c ∧ last = '.' then some .dottedLetters
    else none

/-- Break a text at points and commas, which are kept; empty pieces other than the first are not. -/
def breakUp (cs : List Char) : List (List Char) :=
  let pieces := cs.foldr (fun c pieces =>
    if c = '.' ∨ c = ',' then [] :: [c] :: pieces
    else match pieces with
      | piece :: rest => (c :: piece) :: rest
      | [] => [[c]]) [[]]
  match pieces with
  | first :: rest => first :: rest.filter (!·.isEmpty)
  | [] => []

/-- The words of a complete run. A comma that was the only separator is a decimal point. -/
def closeRun (run : Run) (sawLetters : Bool) (cs : List Char) : List (List Char) :=
  let dots := cs.count '.'
  let dotted := run = .dottedLetters || run = .dottedDigits
  let endsOpen := match cs.getLast? with | some c => c = '.' || c = ',' | none => false
  if dotted && (sawLetters || decide (1 < dots) || endsOpen) then breakUp cs
  else if run = .dottedDigits ∧ dots = 0 then [cs.map fun c => if c = ',' then '.' else c]
  else [cs]

/-- A run that is being read: its kind, whether it went on after letters, its characters so far,
latest first. -/
structure OpenRun where
  run : Run
  sawLetters : Bool
  reversed : List Char

def OpenRun.close (r : OpenRun) : List (List Char) := closeRun r.run r.sawLetters r.reversed.reverse

/-- The words from the open run on. -/
def wordsFrom : Option OpenRun → List Char → List (List Char)
  | none, [] => []
  | some r, [] => r.close
  | state, c :: rest =>
    let fresh (before : List (List Char)) : List (List Char) :=
      if isLetter c then before ++ wordsFrom (some ⟨.letters, false, [c]⟩) rest
      else if isDigit c then before ++ wordsFrom (some ⟨.digits, false, [c]⟩) rest
      else before ++ [if isBlank c then ' ' else c] :: wordsFrom none rest
    match state with
    | none => fresh []
    | some r =>
      let saw := r.sawLetters || r.run = .letters || r.run = .dottedLetters
      match r.run.next? r.reversed.length (r.reversed.headD ' ') c with
      | some run => wordsFrom (some ⟨run, saw, c :: r.reversed⟩) rest
      | none => fresh (OpenRun.close { r with sawLetters := saw })

/-- The words of a date written by hand; the null character is not read. -/
def handWords (s : String) : List String :=
  (wordsFrom none (s.toList.filter (·.toNat ≠ 0))).map String.ofList

end Formwork.Calendar
