import Formwork.Text.Case
import Formwork.Text.Word
import Formwork.Text.Digit
import Formwork.Text.Blank
/-!
Patterns for searching texts, in the form in which they are matched: what the flags say is already
written into each part. Characters are code points, since a pattern may name one that no text holds.
-/
namespace Formwork.Pattern

/-- How a character is compared without regard to case. -/
inductive Fold where
  | exact
  | ascii
  | full
  deriving DecidableEq

inductive Category where
  | digit
  | space
  | word
  deriving DecidableEq

/-- A member of a character set. -/
inductive Member where
  | char (code : Nat)
  | range (first last : Nat)
  | category (c : Category) (ascii negated : Bool)
  deriving DecidableEq

/-- A test that one character passes or not. -/
inductive CharTest where
  | char (code : Nat) (fold : Fold) (negated : Bool)
  /-- Any character, a line end only if asked for. -/
  | any (lineEnds : Bool)
  | set (members : List Member) (fold : Fold) (negated : Bool)

/-- A test of a place between characters. -/
inductive Anchor where
  | lineStart
  | lineEnd
  | textStart
  | textEnd
  /-- The end, or before the line end that is last. -/
  | lastEnd
  | wordEdge (ascii negated : Bool)
  deriving DecidableEq

inductive Greed where
  | greedy
  | lazy
  | possessive
  deriving DecidableEq

inductive Node where
  | empty
  | char (test : CharTest)
  | anchor (a : Anchor)
  | seq (first second : Node)
  | choice (first second : Node)
  | repeated (least : Nat) (most : Option Nat) (greed : Greed) (body : Node)
  | group (number : Option Nat) (body : Node)
  | same (number : Nat) (fold : Fold)
  /-- Look ahead, or behind by a width that is the same for every match of the body. -/
  | look (behind : Option (Nat × Nat)) (negated : Bool) (body : Node)
  | atomic (body : Node)
  | conditional (number : Nat) (yes no : Node)

/-! ## Characters -/

/-- The other lower-case letters that share a capital with a lower-case letter. -/
def twins : Nat → List Nat
  | 0x69 => [0x131]
  | 0x73 => [0x17F]
  | 0xB5 => [0x3BC]
  | 0x131 => [0x69]
  | 0x17F => [0x73]
  | 0x345 => [0x3B9, 0x1FBE]
  | 0x390 => [0x1FD3]
  | 0x3B0 => [0x1FE3]
  | 0x3B2 => [0x3D0]
  | 0x3B5 => [0x3F5]
  | 0x3B8 => [0x3D1]
  | 0x3B9 => [0x345, 0x1FBE]
  | 0x3BA => [0x3F0]
  | 0x3BC => [0xB5]
  | 0x3C0 => [0x3D6]
  | 0x3C1 => [0x3F1]
  | 0x3C2 => [0x3C3]
  | 0x3C3 => [0x3C2]
  | 0x3C6 => [0x3D5]
  | 0x3D0 => [0x3B2]
  | 0x3D1 => [0x3B8]
  | 0x3D5 => [0x3C6]
  | 0x3D6 => [0x3C0]
  | 0x3F0 => [0x3BA]
  | 0x3F1 => [0x3C1]
  | 0x3F5 => [0x3B5]
  | 0x432 => [0x1C80]
  | 0x434 => [0x1C81]
  | 0x43E => [0x1C82]
  | 0x441 => [0x1C83]
  | 0x442 => [0x1C84, 0x1C85]
  | 0x44A => [0x1C86]
  | 0x463 => [0x1C87]
  | 0x1C80 => [0x432]
  | 0x1C81 => [0x434]
  | 0x1C82 => [0x43E]
  | 0x1C83 => [0x441]
  | 0x1C84 => [0x442, 0x1C85]
  | 0x1C85 => [0x442, 0x1C84]
  | 0x1C86 => [0x44A]
  | 0x1C87 => [0x463]
  | 0x1C88 => [0xA64B]
  | 0x1E61 => [0x1E9B]
  | 0x1E9B => [0x1E61]
  | 0x1FBE => [0x345, 0x3B9]
  | 0x1FD3 => [0x390]
  | 0x1FE3 => [0x3B0]
  | 0xA64B => [0x1C88]
  | 0xFB05 => [0xFB06]
  | 0xFB06 => [0xFB05]
  | _ => []

/-- The first character of a case form, as a code point. -/
def simpleForm (form : Char → List Char) (code : Nat) : Nat :=
  if h : code.isValidChar then
    match form (Char.ofNatAux code h) with
    | c :: _ => c.toNat
    | [] => code
  else code

def Fold.lower : Fold → Nat → Nat
  | .exact, code => code
  | .ascii, code => if 0x41 ≤ code ∧ code ≤ 0x5A then code + 0x20 else code
  | .full, code => simpleForm Text.lowerChar code

/-- Whether a character has case. -/
def Fold.isCased : Fold → Nat → Bool
  | .exact, _ => false
  | .ascii, code => (0x41 ≤ code && code ≤ 0x5A) || (0x61 ≤ code && code ≤ 0x7A)
  | .full, code =>
    simpleForm Text.lowerChar code != code || simpleForm Text.upperChar code != code

/-- The lower-case letters that match a character. -/
def Fold.matches (fold : Fold) (code : Nat) : List Nat :=
  let low := fold.lower code
  low :: if fold = .full then twins low else []

def Category.holds (c : Category) (ascii : Bool) (code : Nat) : Bool :=
  if h : code.isValidChar then
    let x := Char.ofNatAux code h
    if ascii ∧ 128 ≤ code then false
    else
      match c with
      | .digit => Text.isDecimal x
      | .space => if ascii then x = ' ' || (9 ≤ code && code ≤ 13) else Text.isBlank x
      | .word => Text.isWord x
  else false

/-- Whether a character, in lower case where case does not count, is a member. -/
def Member.holds (fold : Fold) (code : Nat) : Member → Bool
  | .char c => if fold = .exact then c == code else (fold.matches c).contains code
  | .range first last =>
    if fold = .exact then first ≤ code && code ≤ last
    else
      (first ≤ code && code ≤ last && fold.lower code == code) ||
        (List.range (last + 1 - first)).any fun i => (fold.matches (first + i)).contains code
  | .category c ascii negated => c.holds ascii code != negated

def Member.isCased (fold : Fold) : Member → Bool
  | .char c => fold.isCased c
  | .range first last => (List.range (last + 1 - first)).any fun i => fold.isCased (first + i)
  | .category .. => false

/-- A set in which no member has case is matched as it stands. -/
def setTest (members : List Member) (fold : Fold) (negated : Bool) : CharTest :=
  .set members (if members.any (·.isCased fold) then fold else .exact) negated

def charTest (code : Nat) (fold : Fold) (negated : Bool) : CharTest :=
  .char code (if fold.isCased code then fold else .exact) negated

def CharTest.holds (code : Nat) : CharTest → Bool
  | .char c fold negated => (fold.matches c).contains (fold.lower code) != negated
  | .any lineEnds => lineEnds || code != 10
  | .set members fold negated => members.any (·.holds fold (fold.lower code)) != negated

/-! ## Widths -/

/-- Widths beyond this are not told apart. -/
def widthLimit : Nat := Nat.pow 2 64

/-- The least and the greatest width of a match, given the widths of the groups. -/
def Node.width (groups : Nat → Nat × Nat) : Node → Nat × Nat
  | empty | anchor _ | look .. => (0, 0)
  | char _ => (1, 1)
  | seq a b =>
    let (l, h) := a.width groups
    let (l', h') := b.width groups
    (min (l + l') widthLimit, min (h + h') widthLimit)
  | choice a b =>
    let (l, h) := a.width groups
    let (l', h') := b.width groups
    (min l l', max h h')
  | repeated least most _ body =>
    let (l, h) := body.width groups
    let high := match most with
      | none => if h = 0 then 0 else widthLimit
      | some n => h * n
    (min (l * least) widthLimit, min high widthLimit)
  | group _ body => body.width groups
  | atomic body => body.width groups
  | same number _ => groups number
  | conditional _ yes no =>
    let (l, h) := yes.width groups
    let (l', h') := no.width groups
    (min l l', max h h')

end Formwork.Pattern
