import Formwork.Proofs.Work
import Formwork.Proofs.Condition.Failing
import Formwork.Proofs.Decimal.Reach
/-!
# What a side of a comparison is read as

A side that is read as a type comes to one of three things: what it names; nothing, as it names none
of the kind, and it is quoted in a message then; or a failure, because it is beyond what can be held,
or because it is written and has no text. A side has a text unless a whole number in it has too many
digits.
-/
namespace Formwork

open Calendar

/-! ## Readings one after another -/

namespace Reading

variable {α β : Type} {r : Reading α} {next : α → Reading β}

/-- There is no reading: it failed, or named nothing. -/
def stuck (why : Option Failure) : Except Failure (Option α) :=
  match why with
  | none => .ok none
  | some f => .error f

theorem stuck_inj {why why' : Option Failure} :
    (stuck why : Except Failure (Option α)) = stuck why' ↔ why = why' := by
  cases why <;> cases why' <;> simp [stuck]

theorem bind_run_eq_stuck_iff (why : Option Failure) : (r >>= next).run = stuck why ↔
    r.run = stuck why ∨ ∃ a, r.run = .ok (some a) ∧ (next a).run = stuck why := by
  rw [OptionT.run_bind]
  rcases r.run with g | _ | a <;> cases why <;>
    simp [stuck, Option.elimM, bind, Except.bind, pure, Except.pure]

theorem bind_run_eq_error_iff {f : Failure} : (r >>= next).run = .error f ↔
    r.run = .error f ∨ ∃ a, r.run = .ok (some a) ∧ (next a).run = .error f :=
  bind_run_eq_stuck_iff (some f)

theorem bind_run_eq_none_iff : (r >>= next).run = .ok none ↔
    r.run = .ok none ∨ ∃ a, r.run = .ok (some a) ∧ (next a).run = .ok none :=
  bind_run_eq_stuck_iff none

theorem pure_run (a : α) : (pure a : Reading α).run = .ok (some a) := rfl

theorem lift_run_eq_error_iff {x : Except Failure α} {f : Failure} :
    (liftM x : Reading α).run = .error f ↔ x = .error f := by
  cases x with
  | error g => constructor <;> (rintro ⟨⟩; rfl)
  | ok a => constructor <;> rintro ⟨⟩

theorem lift_run_ne_none (x : Except Failure α) : (liftM x : Reading α).run ≠ .ok none := by
  cases x <;> rintro ⟨⟩

theorem lift_run_eq_some_iff {x : Except Failure α} {a : α} :
    (liftM x : Reading α).run = .ok (some a) ↔ x = .ok a := by
  cases x with
  | error g => constructor <;> rintro ⟨⟩
  | ok b => constructor <;> (rintro ⟨⟩; rfl)

theorem pure_run_ne_stuck (a : α) (why : Option Failure) :
    (pure a : Reading α).run ≠ stuck why := by
  cases why <;> rintro ⟨⟩

end Reading

/-! ## Sides -/

/-- A side that names a number or an instant beyond what can be held: a whole number that no float
is near to, or an ISO text whose instant the calendar does not reach. -/
inductive Operand.Exceeds : ValueType → Operand → Failure → Prop where
  | number {n : Int} (far : 2 ^ 1024 - 2 ^ 970 ≤ n.natAbs) :
    Exceeds .number (.value (.int n)) .integerTooLarge
  | date {s : String} (off : Instant.ofIso s = .error .beyondCalendar) :
    Exceeds .date (.value (.text s)) .beyondCalendar

/-- Whether a side has a text; an instant always has one. -/
def Operand.isWritable : Operand → Bool
  | .value v => v.isWritable
  | .moment _ => true

/-- A side that cannot be read as the declared type: it is beyond what can be held, or it is written
and has no text. As a text every side is written; otherwise one is that names nothing of the type, to
quote it, and one whose truth is asked for, unless it is a number. -/
inductive Operand.Fails : ValueType → Operand → Failure → Prop where
  | exceeds {type : ValueType} {o : Operand} {f : Failure} (far : o.Exceeds type f) : Fails type o f
  | digits {type : ValueType} {v : Value} (long : v.isWritable = false)
    (written : (∃ n, v = .int n) → type ≠ .number ∧ type ≠ .boolean) :
    Fails type (.value v) .tooManyDigits

/-- A side that names nothing of the declared type and is quoted; a text is always one. -/
def Operand.NamesNothing (host : Host) (type : ValueType) (o : Operand) : Prop :=
  o.isWritable = true ∧
    match type with
    | .auto | .string => False
    | .number => o.number? = .ok none
    | .date => o.instant? host.clock = .ok none
    | .boolean => o.truth? = .ok none

/-- A side that can be read as the declared type. -/
def Operand.Names (host : Host) (type : ValueType) (o : Operand) : Prop :=
  ∃ c, (o.readAs host type).run = .ok (some c)

theorem Value.number?_eq_error_iff (v : Value) (f : Failure) :
    v.number? = .error f ↔ (Operand.value v).Exceeds .number f := by
  constructor
  · intro h
    cases v with
    | int n =>
      simp only [number?] at h
      split at h
      · cases h
      · rename_i hnone
        cases h
        exact .number ((Decimal.ofInt?_eq_none_iff n).mp hnone)
    | null | bool _ | float _ | text _ | list _ | map _ => cases h
  · rintro (far | _)
    simp only [number?, (Decimal.ofInt?_eq_none_iff _).mpr far]

theorem Calendar.Instant.read_eq_error_iff (clock : Clock) (s : String) (fault : SpanFault) :
    Instant.read clock s = .error fault ↔
      Instant.ofIso s = .error .beyondCalendar ∧ fault = .beyondCalendar := by
  unfold Instant.read
  split
  · rename_i hempty
    have hread : Instant.ofIso s = .error .tooShort := by
      rw [String.isEmpty_iff.mp hempty]
      rfl
    simp [hread]
  · split
    · rename_i hread
      simp [hread]
    · rename_i hread
      simp [hread, eq_comm]
    · rename_i hother hread
      simpa [hread] using fun h => absurd h hother

theorem Value.instant?_eq_error_iff (clock : Clock) (v : Value) (f : Failure) :
    v.instant? clock = .error f ↔ (Operand.value v).Exceeds .date f := by
  constructor
  · intro h
    cases v with
    | text s =>
      cases hread : Instant.read clock s with
      | ok i =>
        simp only [instant?, hread, Except.mapError] at h
        cases h
      | error fault =>
        obtain ⟨hoff, rfl⟩ := (Instant.read_eq_error_iff clock s fault).mp hread
        simp only [instant?, hread, Except.mapError] at h
        cases h
        exact .date hoff
    | null | bool _ | int _ | float _ | list _ | map _ => cases h
  · intro h
    cases h with
    | date off =>
      simp only [instant?, (Instant.read_eq_error_iff _ _ _).mpr ⟨off, rfl⟩, Except.mapError]
      rfl

namespace Operand

variable {host : Host} {type : ValueType} {left : Operand} {right : Value} {f : Failure}

theorem Exceeds.unique {o o' : Operand} {g : Failure} (h : o.Exceeds type f)
    (h' : o'.Exceeds type g) : f = g := by
  cases h <;> cases h' <;> rfl

theorem number?_eq_error_iff (o : Operand) (f : Failure) :
    o.number? = .error f ↔ o.Exceeds .number f := by
  cases o with
  | value v => exact v.number?_eq_error_iff f
  | moment i => constructor <;> rintro ⟨⟩

theorem instant?_eq_error_iff (clock : Clock) (o : Operand) (f : Failure) :
    o.instant? clock = .error f ↔ o.Exceeds .date f := by
  cases o with
  | value v => exact v.instant?_eq_error_iff clock f
  | moment i => constructor <;> rintro ⟨⟩

theorem display_eq_error_iff (o : Operand) (f : Failure) :
    o.display = .error f ↔ o.isWritable = false ∧ f = .tooManyDigits := by
  cases o with
  | value v => exact Value.display_eq_error
  | moment i => simp [display, isWritable]

theorem exists_display (o : Operand) : (∃ s, o.display = .ok s) ↔ o.isWritable = true := by
  have hfails := o.display_eq_error_iff .tooManyDigits
  cases h : o.display with
  | ok s => simpa [h] using hfails
  | error f =>
    obtain ⟨hlong, -⟩ := (o.display_eq_error_iff f).mp h
    simp [hlong]

theorem quote_eq_error_iff (o : Operand) (f : Failure) :
    o.quote = .error f ↔ o.isWritable = false ∧ f = .tooManyDigits := by
  cases o with
  | value v =>
    refine Iff.trans ?_ Value.literal_eq_error
    cases h : v.literal <;> simp [quote, h, bind, Except.bind, pure, Except.pure]
  | moment i => simp [quote, isWritable]

/-! ## Reading a side -/

section Found

variable {α : Type} {o : Operand} {search : Except Failure (Option α)}

theorem found_run_eq_error_iff : (o.found search).run = .error f ↔
    search = .error f ∨ search = .ok none ∧ o.isWritable = false ∧ f = .tooManyDigits := by
  rw [← o.quote_eq_error_iff]
  rcases search with g | _ | a
  · simp [found, Work.except_error_bind]
  · cases h : o.quote <;>
      simp [found, Work.except_ok_bind, h, Work.except_error_bind, pure, Except.pure]
  · simp [found, Work.except_ok_bind, pure, Except.pure]

theorem found_run_eq_none_iff :
    (o.found search).run = .ok none ↔ o.isWritable = true ∧ search = .ok none := by
  have hquote := o.quote_eq_error_iff .tooManyDigits
  rcases search with g | _ | a
  · simp [found, Work.except_error_bind]
  · cases h : o.quote with
    | error f =>
      obtain ⟨hlong, -⟩ := (o.quote_eq_error_iff f).mp h
      simp [found, Work.except_ok_bind, h, hlong]
    | ok _ =>
      rw [h] at hquote
      simpa [found, Work.except_ok_bind, h, pure, Except.pure] using hquote
  · simp [found, Work.except_ok_bind, pure, Except.pure]

end Found

theorem truth?_eq_error_iff (o : Operand) (f : Failure) : o.truth? = .error f ↔
    o.isWritable = false ∧ (∀ n, o ≠ .value (.int n)) ∧ f = .tooManyDigits := by
  have spelled : (do pure (truthOfWord? (Text.lower (Text.trim (← o.display)))) :
      Except Failure (Option Bool)) = .error f ↔ o.isWritable = false ∧ f = .tooManyDigits := by
    rw [← o.display_eq_error_iff]
    cases o.display <;> simp [bind, Except.bind, pure, Except.pure]
  cases o with
  | value v =>
    cases v with
    | bool _ | int _ | float _ => simp [truth?, isWritable, Value.isWritable]
    | null | text _ | list _ | map _ =>
      exact spelled.trans (and_congr_right fun _ => by simp)
  | moment i => exact spelled.trans (and_congr_right fun _ => by simp)

theorem number?_eq_none_of_long {v : Value} (long : v.isWritable = false) :
    v.number? = .ok none ↔ ¬ ∃ n, v = .int n := by
  cases v with
  | int n =>
    simp only [Value.number?, Value.int.injEq, exists_eq', not_true_eq_false, iff_false]
    split <;> rintro ⟨⟩
  | list _ | map _ => simp [Value.number?]
  | null | bool _ | float _ | text _ => cases long

theorem instant?_eq_none_of_long {v : Value} (clock : Clock) (long : v.isWritable = false) :
    v.instant? clock = .ok none := by
  cases v with
  | text s => cases long
  | null | bool _ | int _ | float _ | list _ | map _ => rfl

theorem fails_iff (type : ValueType) (o : Operand) (f : Failure) : o.Fails type f ↔
    o.Exceeds type f ∨ o.isWritable = false ∧ f = .tooManyDigits ∧
      ((∃ n, o = .value (.int n)) → type ≠ .number ∧ type ≠ .boolean) := by
  constructor
  · rintro (far | ⟨long, written⟩)
    · exact .inl far
    · exact .inr ⟨long, rfl, by simpa using written⟩
  · rintro (far | ⟨long, rfl, written⟩)
    · exact .exceeds far
    · cases o with
      | value v => exact .digits long (by simpa using written)
      | moment i => cases long

theorem readAs_run_eq_error_iff (type : ValueType) (o : Operand) (f : Failure) :
    (o.readAs host type).run = .error f ↔ o.Fails type f := by
  have named {α : Type} {r : Reading α} {make : α → Comparable} :
      (do pure (make (← r)) : Reading Comparable).run = .error f ↔ r.run = .error f := by
    simp only [Reading.bind_run_eq_error_iff, Reading.pure_run, reduceCtorEq, and_false,
      exists_false, or_false]
  unfold readAs
  rw [fails_iff]
  cases type with
  | auto | string =>
    rw [named, Reading.lift_run_eq_error_iff, display_eq_error_iff]
    constructor
    · rintro ⟨long, rfl⟩
      exact .inr ⟨long, rfl, by simp⟩
    · rintro (⟨⟨⟩⟩ | ⟨long, rfl, -⟩)
      exact ⟨long, rfl⟩
  | number =>
    rw [named, found_run_eq_error_iff, number?_eq_error_iff]
    refine or_congr_right ?_
    cases o with
    | value v =>
      constructor
      · rintro ⟨hnone, long, rfl⟩
        exact ⟨long, rfl, by simpa using (number?_eq_none_of_long long).mp hnone⟩
      · rintro ⟨long, rfl, hnot⟩
        exact ⟨(number?_eq_none_of_long long).mpr (by simpa using hnot), long, rfl⟩
    | moment i => simp [isWritable]
  | date =>
    rw [named, found_run_eq_error_iff, instant?_eq_error_iff]
    refine or_congr_right ?_
    cases o with
    | value v =>
      constructor
      · rintro ⟨-, long, rfl⟩
        exact ⟨long, rfl, by simp⟩
      · rintro ⟨long, rfl, -⟩
        exact ⟨instant?_eq_none_of_long _ long, long, rfl⟩
    | moment i => simp [isWritable]
  | boolean =>
    rw [named, found_run_eq_error_iff, truth?_eq_error_iff]
    constructor
    · rintro (⟨long, hnot, rfl⟩ | ⟨hnone, long, rfl⟩)
      · exact .inr ⟨long, rfl, fun ⟨n, h⟩ => absurd h (hnot n)⟩
      · refine .inr ⟨long, rfl, ?_⟩
        rintro ⟨n, rfl⟩
        cases hnone
    · rintro (⟨⟨⟩⟩ | ⟨long, rfl, hnot⟩)
      exact .inl ⟨long, fun n h => (hnot ⟨n, h⟩).2 rfl, rfl⟩

theorem readAs_run_eq_none_iff (type : ValueType) (o : Operand) :
    (o.readAs host type).run = .ok none ↔ o.NamesNothing host type := by
  unfold readAs NamesNothing
  cases type with
  | auto | string =>
    simp only [Reading.bind_run_eq_none_iff, Reading.lift_run_ne_none, Reading.pure_run,
      Except.ok.injEq, reduceCtorEq, and_false, exists_false, or_false]
  | number | date | boolean =>
    simp only [Reading.bind_run_eq_none_iff, Reading.pure_run, found_run_eq_none_iff,
      Except.ok.injEq, reduceCtorEq, and_false, exists_false, or_false]

end Operand

end Formwork
