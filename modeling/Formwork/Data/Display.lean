import Formwork.Data.Value
import Formwork.Decimal.Layout
import Formwork.Text.Printable
import Formwork.Text.Hex
import Formwork.Text.Digit
/-!
The text of a value. Shown by itself a text is written as it is; inside lists and maps, and where a
message quotes a value, it stands in quotes with its unprintable characters escaped. A value that
holds a whole number with too many digits has no text.
-/
namespace Formwork

namespace Text

/-- A character inside quotes of the given kind. -/
def quotedChar (quote c : Char) : List Char :=
  if c = quote ∨ c = '\\' then ['\\', c]
  else if c = '\n' then ['\\', 'n']
  else if c = '\r' then ['\\', 'r']
  else if c = '\t' then ['\\', 't']
  else if isPrintable c then [c]
  else if c.toNat < 0x100 then '\\' :: 'x' :: hexDigits 2 c.toNat
  else if c.toNat < 0x10000 then '\\' :: 'u' :: hexDigits 4 c.toNat
  else '\\' :: 'U' :: hexDigits 8 c.toNat

/-- A text in quotes: single ones, unless it has those and no double ones. -/
def quoted (s : String) : String :=
  let cs := s.toList
  let quote := if '\'' ∈ cs ∧ '"' ∉ cs then '"' else '\''
  String.ofList (quote :: cs.flatMap (quotedChar quote) ++ [quote])

end Text

namespace Value

/-- A whole number in its digits, the sign not counted among them. -/
def intText? (n : Int) : Option String :=
  if n.natAbs < Nat.pow 10 Text.digitLimit then some (toString n) else none

def listText (items : List String) : String := "[" ++ ", ".intercalate items ++ "]"

mutual

/-- A value as it is quoted in messages. -/
def literal? : Value → Option String
  | null => some "None"
  | bool b => some (if b then "True" else "False")
  | int n => intText? n
  | float x => some (Decimal.floatText x)
  | text s => some (Text.quoted s)
  | list items => (literals? items).map listText
  | map entries => (entryLiterals? entries).map fun es => "\x7b" ++ ", ".intercalate es ++ "\x7d"
termination_by structural v => v

def literals? : List Value → Option (List String)
  | [] => some []
  | v :: rest => do pure ((← v.literal?) :: (← literals? rest))
termination_by structural vs => vs

def entryLiterals? : List (String × Value) → Option (List String)
  | [] => some []
  | (name, v) :: rest => do
    pure ((Text.quoted name ++ ": " ++ (← v.literal?)) :: (← entryLiterals? rest))
termination_by structural es => es

end

/-- A value shown by itself. -/
def display? : Value → Option String
  | text s => some s
  | v => v.literal?

mutual

/-- Whether every whole number in a value has digits within the limit. -/
def isWritable : Value → Bool
  | int n => n.natAbs < Nat.pow 10 Text.digitLimit
  | list items => allWritable items
  | map entries => entriesWritable entries
  | null | bool _ | float _ | text _ => true
termination_by structural v => v

def allWritable : List Value → Bool
  | [] => true
  | v :: rest => v.isWritable && allWritable rest
termination_by structural vs => vs

def entriesWritable : List (String × Value) → Bool
  | [] => true
  | (_, v) :: rest => v.isWritable && entriesWritable rest
termination_by structural es => es

end

theorem intText?_isSome (n : Int) :
    (intText? n).isSome = decide (n.natAbs < Nat.pow 10 Text.digitLimit) := by
  unfold intText?
  by_cases h : n.natAbs < Nat.pow 10 Text.digitLimit
  · rw [if_pos h, decide_eq_true h, Option.isSome_some]
  · rw [if_neg h, decide_eq_false h, Option.isSome_none]

mutual

theorem literal?_isSome : (v : Value) → v.literal?.isSome = v.isWritable
  | null | bool _ | float _ | text _ => rfl
  | int n => intText?_isSome n
  | list items => by
    simpa only [literal?, isWritable, Option.isSome_map] using literals?_isSome items
  | map entries => by
    simpa only [literal?, isWritable, Option.isSome_map] using entryLiterals?_isSome entries
termination_by structural v => v

theorem literals?_isSome : (vs : List Value) → (literals? vs).isSome = allWritable vs
  | [] => rfl
  | v :: rest => by
    rw [literals?, allWritable, ← literal?_isSome v, ← literals?_isSome rest]
    cases v.literal? <;> cases literals? rest <;> rfl
termination_by structural vs => vs

theorem entryLiterals?_isSome :
    (es : List (String × Value)) → (entryLiterals? es).isSome = entriesWritable es
  | [] => rfl
  | (name, v) :: rest => by
    rw [entryLiterals?, entriesWritable, ← literal?_isSome v, ← entryLiterals?_isSome rest]
    cases v.literal? <;> cases entryLiterals? rest <;> rfl
termination_by structural es => es

end

theorem display?_isSome (v : Value) : v.display?.isSome = v.isWritable := by
  cases v with
  | text s => rfl
  | _ => exact literal?_isSome _

theorem display?_int_of_lt {n : Int} {digits : Nat} (h : n.natAbs < Nat.pow 10 digits)
    (hdigits : digits ≤ Text.digitLimit) : (int n).display? = some (toString n) := by
  have hpow {a b : Nat} (hle : a ≤ b) : Nat.pow 10 a ≤ Nat.pow 10 b :=
    Nat.pow_le_pow_right (by decide) hle
  have hlimit := Nat.lt_of_lt_of_le h (hpow hdigits)
  rw [display?, literal?, intText?, if_pos hlimit]
  rintro s ⟨⟩

theorem isWritable_int_of_lt {n : Int} {digits : Nat} (h : n.natAbs < Nat.pow 10 digits)
    (hdigits : digits ≤ Text.digitLimit) : (int n).isWritable = true := by
  rw [← display?_isSome, display?_int_of_lt h hdigits]
  rfl

/-- A list of texts in the form of a value. -/
def textsLiteral (texts : List String) : String := listText (texts.map Text.quoted)

theorem literal?_ofTexts (texts : List String) :
    (ofTexts texts).literal? = some (textsLiteral texts) := by
  have each : ∀ ts : List String, literals? (ts.map text) = some (ts.map Text.quoted) := by
    intro ts
    induction ts with
    | nil => rfl
    | cons t rest ih => simp only [List.map_cons, literals?, literal?, ih]; rfl
  simp only [ofTexts, literal?, each, Option.map_some, textsLiteral]

end Value
end Formwork
