import Formwork.Failure
import Formwork.Data.Display
import Formwork.Data.Equality
import Formwork.Text.Blank
import Formwork.Text.Split
/-!
What can be read out of a value: whether it is empty, its text, its number, and its instant. Whole
numbers with too many digits cannot be written, and whole numbers beyond every float and instants
beyond the calendar cannot be held, which is a failure and not the same as naming none.
-/
namespace Formwork.Value

open Calendar

/-- A value that says nothing: none at all, blanks, or a collection without members. -/
def isEmpty : Value → Bool
  | null => true
  | text s => Text.isBlankText s
  | list items => items.isEmpty
  | map entries => entries.isEmpty
  | bool _ | int _ | float _ => false

/-- A text, if there is one. -/
def written (s : Option String) : Except Failure String :=
  match s with
  | some s => .ok s
  | none => .error .tooManyDigits

/-- A value as it is quoted in messages. -/
def literal (v : Value) : Except Failure String := written v.literal?

/-- A value shown by itself. -/
def display (v : Value) : Except Failure String := written v.display?

/-- The number that a value is or spells; a truth value is no number. -/
def number? : Value → Except Failure (Option Float)
  | int n =>
    match Decimal.ofInt? n with
    | some x => .ok (some x)
    | none => .error .integerTooLarge
  | float x => .ok (some x)
  | text s => .ok (Decimal.readFloat? s)
  | null | bool _ | list _ | map _ => .ok none

/-- The instant that a value names; only texts name any. -/
def instant? (clock : Clock) : Value → Except Failure (Option Instant)
  | text s => (Instant.read clock s).mapError .span
  | _ => .ok none

/-- What lies at a path: an entry of the whole name, or else one step for each part. -/
def atPath (data : Entries Value) (path : String) : Value :=
  match data.get? path with
  | some v => v
  | none => go (.map data) (Text.split '.' path)
where
  go (v : Value) : List String → Value
    | [] => v
    | part :: rest =>
      match v.get? part with
      | some next => go next rest
      | none => null

/-- The first part of a path. -/
def headOfPath (path : String) : String := (Text.split '.' path).headD ""

@[simp] theorem isEmpty_null : isEmpty null = true := rfl

@[simp] theorem display_text (s : String) : (text s).display = .ok s := rfl

/-- A text cannot be written exactly if the value holds a whole number with too many digits. -/
theorem written_eq_error {s : Option String} {e : Failure} :
    written s = .error e ↔ s.isSome = false ∧ e = .tooManyDigits := by
  cases s <;> simp [written, eq_comm]

theorem literal_eq_error {v : Value} {e : Failure} :
    v.literal = .error e ↔ v.isWritable = false ∧ e = .tooManyDigits := by
  rw [literal, written_eq_error, literal?_isSome]

theorem exists_literal {v : Value} : (∃ s, v.literal = .ok s) ↔ v.isWritable = true := by
  rw [← literal?_isSome, literal]
  cases v.literal? <;> simp [written]

theorem display_eq_error {v : Value} {e : Failure} :
    v.display = .error e ↔ v.isWritable = false ∧ e = .tooManyDigits := by
  rw [display, written_eq_error, display?_isSome]

theorem exists_display {v : Value} : (∃ s, v.display = .ok s) ↔ v.isWritable = true := by
  rw [← display?_isSome, display]
  cases v.display? <;> simp [written]

theorem display_of_isWritable {v : Value} (h : v.isWritable = true) :
    v.display = .ok (v.display?.getD "") := by
  rw [← display?_isSome] at h
  obtain ⟨s, hs⟩ := Option.isSome_iff_exists.mp h
  rw [display, hs]
  rfl

theorem mapM_display_eq_error {vs : List Value} {e : Failure} :
    vs.mapM display = .error e ↔ e = .tooManyDigits ∧ ∃ v ∈ vs, v.isWritable = false := by
  induction vs with
  | nil => simp [pure, Except.pure]
  | cons v rest ih =>
    rw [List.mapM_cons]
    cases hwritten : v.isWritable with
    | false =>
      rw [display_eq_error.mpr ⟨hwritten, rfl⟩]
      constructor
      · rintro ⟨⟩
        exact ⟨rfl, v, List.mem_cons_self, hwritten⟩
      · rintro ⟨rfl, -⟩
        rfl
    | true =>
      obtain ⟨s, hs⟩ := exists_display.mpr hwritten
      rw [hs]
      simp only [List.mem_cons, exists_eq_or_imp, hwritten, Bool.true_eq_false, false_or, ← ih]
      cases rest.mapM display <;> simp [bind, Except.bind, pure, Except.pure]

end Formwork.Value
