import Mathlib.Tactic.Common
import Formwork.Condition.Evaluate
/-!
# When conditions fail

A condition that can be evaluated holds or does not hold. The only thing that keeps it from being
evaluated is something beyond what can be held: a whole number that no float reaches, one with too
many digits to be written, an instant that the calendar does not reach, or a pattern that its reader
breaks off. Every way of reading and comparing passes this on, and groups of conditions do, so no
other failure comes out of them.
-/
namespace Formwork

/-- The failure speaks of something beyond what can be held. -/
def Failure.Beyond : Failure → Prop
  | .integerTooLarge | .span _ | .tooManyDigits | .pattern _ => True
  | _ => False

variable {α β : Type} {host : Host}

/-! ## Results and readings -/

/-- Where there is no result, something is beyond what can be held. -/
def OnlyBeyond (x : Except Failure α) : Prop := ∀ f, x = .error f → f.Beyond

theorem OnlyBeyond.ok (a : α) : OnlyBeyond (.ok a) := fun f h => by cases h

theorem OnlyBeyond.pure (a : α) : OnlyBeyond (Pure.pure a : Except Failure α) := .ok a

theorem OnlyBeyond.bind {x : Except Failure α} {next : α → Except Failure β} (h : OnlyBeyond x)
    (hnext : ∀ a, OnlyBeyond (next a)) : OnlyBeyond (x >>= next) := by
  intro f hf
  cases x with
  | ok a => exact hnext a f hf
  | error g =>
    apply h f
    simpa [Bind.bind, Except.bind] using hf

theorem OnlyBeyond.ite {p : Prop} [Decidable p] {x y : Except Failure α} (hx : OnlyBeyond x)
    (hy : OnlyBeyond y) : OnlyBeyond (if p then x else y) := by
  split
  · exact hx
  · exact hy

namespace Reading

/-- Where a side cannot be read at all, something is beyond what can be held. -/
structure OnlyBeyond (r : Reading α) : Prop where
  run : Formwork.OnlyBeyond r.run

theorem OnlyBeyond.pure (a : α) : OnlyBeyond (Pure.pure a : Reading α) := ⟨.ok (some a)⟩

theorem OnlyBeyond.lift {x : Except Failure α} (h : Formwork.OnlyBeyond x) :
    OnlyBeyond (liftM x : Reading α) := ⟨.bind h fun _ => .pure _⟩

theorem OnlyBeyond.bind {r : Reading α} {next : α → Reading β} (h : OnlyBeyond r)
    (hnext : ∀ a, OnlyBeyond (next a)) : OnlyBeyond (r >>= next) := by
  constructor
  rw [OptionT.run_bind]
  apply h.run.bind
  intro found
  cases found with
  | none => exact .ok none
  | some a => exact (hnext a).run

theorem OnlyBeyond.ite {p : Prop} [Decidable p] {r s : Reading α} (hr : OnlyBeyond r)
    (hs : OnlyBeyond s) : OnlyBeyond (if p then r else s) := by
  split
  · exact hr
  · exact hs

end Reading

/-! ## Sides -/

theorem Value.onlyBeyond_number? (v : Value) : OnlyBeyond v.number? := by
  intro f hf
  cases v with
  | int n =>
    simp only [number?] at hf
    split at hf
    · cases hf
    · cases hf
      exact trivial
  | null | bool _ | float _ | text _ | list _ | map _ => cases hf

theorem Value.onlyBeyond_instant? (clock : Calendar.Clock) (v : Value) :
    OnlyBeyond (v.instant? clock) := by
  intro f hf
  cases v with
  | text s =>
    simp only [instant?] at hf
    cases hread : Calendar.Instant.read clock s with
    | ok i =>
      rw [hread] at hf
      cases hf
    | error fault =>
      rw [hread] at hf
      cases hf
      exact trivial
  | null | bool _ | int _ | float _ | list _ | map _ => cases hf

theorem Value.onlyBeyond_literal (v : Value) : OnlyBeyond v.literal := by
  intro f hf
  obtain ⟨-, rfl⟩ := literal_eq_error.mp hf
  trivial

theorem Value.onlyBeyond_display (v : Value) : OnlyBeyond v.display := by
  intro f hf
  obtain ⟨-, rfl⟩ := display_eq_error.mp hf
  trivial

namespace Operand

theorem onlyBeyond_display (o : Operand) : OnlyBeyond o.display := by
  cases o with
  | value v => exact v.onlyBeyond_display
  | moment i => exact .ok _

theorem onlyBeyond_quote (o : Operand) : OnlyBeyond o.quote := by
  cases o with
  | value v => exact .bind v.onlyBeyond_literal fun _ => .pure _
  | moment i => exact .ok _

theorem onlyBeyond_number? (o : Operand) : OnlyBeyond o.number? := by
  cases o with
  | value v => exact v.onlyBeyond_number?
  | moment _ => exact .ok none

theorem onlyBeyond_instant? (clock : Calendar.Clock) (o : Operand) :
    OnlyBeyond (o.instant? clock) := by
  cases o with
  | value v => exact v.onlyBeyond_instant? clock
  | moment i => exact .ok (some i)

theorem onlyBeyond_truth? (o : Operand) : OnlyBeyond o.truth? := by
  have spelled : OnlyBeyond
      (do pure (truthOfWord? (Text.lower (Text.trim (← o.display)))) : Except Failure _) :=
    .bind o.onlyBeyond_display fun _ => .pure _
  cases o with
  | value v =>
    cases v with
    | bool _ | int _ | float _ => exact .ok _
    | null | text _ | list _ | map _ => exact spelled
  | moment i => exact spelled

theorem onlyBeyond_found (o : Operand) {search : Except Failure (Option α)}
    (h : OnlyBeyond search) : (o.found search).OnlyBeyond := by
  refine ⟨.bind h fun found => ?_⟩
  cases found with
  | some a => exact .pure _
  | none => exact .bind o.onlyBeyond_quote fun _ => .pure _

theorem onlyBeyond_readAs (type : ValueType) (o : Operand) : (o.readAs host type).OnlyBeyond := by
  unfold readAs
  cases type with
  | auto | string => exact .bind (.lift o.onlyBeyond_display) fun _ => .pure _
  | number => exact .bind (o.onlyBeyond_found o.onlyBeyond_number?) fun _ => .pure _
  | date => exact .bind (o.onlyBeyond_found (o.onlyBeyond_instant? _)) fun _ => .pure _
  | boolean => exact .bind (o.onlyBeyond_found o.onlyBeyond_truth?) fun _ => .pure _

theorem onlyBeyond_both (type : ValueType) (left : Operand) (right : Value)
    {next : Comparable → Comparable → Reading α} (hnext : ∀ a b, (next a b).OnlyBeyond) :
    Reading.OnlyBeyond (do next (← left.readAs host type) (← (value right).readAs host type)) :=
  .bind (onlyBeyond_readAs type left) fun a => .bind (onlyBeyond_readAs type _) fun b => hnext a b

/-! ## Comparisons -/

theorem onlyBeyond_equals (type : ValueType) (left : Operand) (right : Value) :
    (left.equals host type right).OnlyBeyond := by
  unfold equals
  apply Reading.OnlyBeyond.ite (.pure _)
  cases type with
  | auto =>
    apply Reading.OnlyBeyond.ite (.pure _)
    refine ⟨.bind left.onlyBeyond_number? fun x => .bind right.onlyBeyond_number? fun y => ?_⟩
    split <;> exact .ok _
  | string | number | date | boolean => exact onlyBeyond_both _ left right fun _ _ => .pure _

theorem onlyBeyond_alike (left : Operand) (right : Value) : (left.alike host right).OnlyBeyond := by
  unfold alike
  refine ⟨.bind left.onlyBeyond_number? fun x => .bind right.onlyBeyond_number? fun y => ?_⟩
  split
  · exact .ok _
  · refine .bind (left.onlyBeyond_instant? _) fun i => .bind (right.onlyBeyond_instant? _) fun j => ?_
    split
    · exact .ok _
    · exact .bind left.onlyBeyond_display fun _ => .bind right.onlyBeyond_display fun _ => .ok _

theorem onlyBeyond_ordered (type : ValueType) (test : Ordering → Bool) (left : Operand)
    (right : Value) : (left.ordered host type test right).OnlyBeyond := by
  unfold ordered
  apply Reading.OnlyBeyond.ite (.pure _)
  cases type with
  | auto => exact .bind (onlyBeyond_alike left right) fun _ => .pure _
  | string | number | date | boolean =>
    exact onlyBeyond_both _ left right fun _ _ => .bind (.pure _) fun _ => .pure _

theorem onlyBeyond_equalsAny (type : ValueType) (left : Operand) (options : List Value) :
    (left.equalsAny host type options).OnlyBeyond := by
  induction options with
  | nil => exact .pure _
  | cons option rest ih =>
    exact .bind (onlyBeyond_equals type left option) fun _ => .ite (.pure _) ih

end Operand

namespace Value

mutual

theorem onlyBeyond_isAmong (type : ValueType) (options : List Value) (v : Value) :
    (v.isAmong host type options).OnlyBeyond := by
  cases v with
  | list items => exact onlyBeyond_anyAmong type options items
  | null | bool _ | int _ | float _ | text _ | map _ =>
    exact Operand.onlyBeyond_equalsAny type _ options

theorem onlyBeyond_anyAmong (type : ValueType) (options items : List Value) :
    (anyAmong host type options items).OnlyBeyond := by
  cases items with
  | nil => exact .pure _
  | cons v rest =>
    exact .bind (onlyBeyond_isAmong type options v) fun _ =>
      .ite (.pure _) (onlyBeyond_anyAmong type options rest)

end

end Value

theorem Operand.onlyBeyond_isAmong (type : ValueType) (left : Operand) (options : List Value) :
    (left.isAmong host type options).OnlyBeyond := by
  cases left with
  | value v => exact v.onlyBeyond_isAmong type options
  | moment i => exact onlyBeyond_equalsAny type _ options

namespace Operand

theorem onlyBeyond_contains (left : Operand) (item : Value) : OnlyBeyond (left.contains item) := by
  unfold contains
  refine .ite (.pure _) ?_
  split
  · exact .pure _
  · exact .bind item.onlyBeyond_display fun _ => .bind left.onlyBeyond_display fun _ => .pure _

theorem onlyBeyond_comparesTexts (test : List Char → List Char → Bool) (left : Operand)
    (right : Value) : OnlyBeyond (left.comparesTexts test right) :=
  .ite (.pure _)
    (.bind left.onlyBeyond_display fun _ => .bind right.onlyBeyond_display fun _ => .pure _)

theorem onlyBeyond_matchesPattern (left : Operand) (pattern : Value) :
    (left.matchesPattern host pattern).OnlyBeyond := by
  refine .ite (.pure _) (.bind (.lift pattern.onlyBeyond_display) fun _ =>
    .bind (.lift left.onlyBeyond_display) fun _ => ?_)
  split
  · exact .pure _
  · refine ⟨fun f hf => ?_⟩
    cases hf
    trivial
  · exact ⟨.ok none⟩

theorem onlyBeyond_compareBy (operator : Operator) (type : ValueType) (left : Operand)
    (right : Value) : (left.compareBy host operator type right).OnlyBeyond := by
  cases operator with
  | isEmpty | isNotEmpty => exact .pure _
  | contains => exact .lift (left.onlyBeyond_contains right)
  | notContains => exact .bind (.lift (left.onlyBeyond_contains right)) fun _ => .pure _
  | startsWith | endsWith => exact .lift (left.onlyBeyond_comparesTexts _ right)
  | matchesPattern => exact left.onlyBeyond_matchesPattern right
  | equals => exact onlyBeyond_equals type left right
  | notEquals => exact .bind (onlyBeyond_equals type left right) fun _ => .pure _
  | greaterThan | lessThan | greaterOrEqual | lessOrEqual =>
    exact onlyBeyond_ordered type _ left right
  | between =>
    simp only [compareBy]
    split
    · rename_i low high
      exact .bind (onlyBeyond_ordered type _ left low) fun _ =>
        .ite (onlyBeyond_ordered type _ left high) (.pure _)
    · exact .pure _
  | isIn => exact onlyBeyond_isAmong type left right.options
  | isNotIn => exact .bind (onlyBeyond_isAmong type left right.options) fun _ => .pure _

end Operand

/-! ## Conditions and groups -/

theorem Condition.onlyBeyond_holds (c : Condition) (context : Context) :
    OnlyBeyond (c.holds context) := by
  unfold holds
  refine .ite (.bind (Operand.onlyBeyond_compareBy _ _ _ _).run fun result => ?_) (.ok false)
  cases result with
  | none => exact .pure _
  | some b => exact .bind c.value.onlyBeyond_literal fun _ => .pure _

mutual

theorem Node.onlyBeyond_holds (context : Context) (n : Node) : OnlyBeyond (n.holds context) := by
  cases n with
  | leaf c => exact c.onlyBeyond_holds context
  | group logic nodes => exact .ite (.ok true) (Node.onlyBeyond_combined logic context nodes)

theorem Node.onlyBeyond_combined (logic : Logic) (context : Context) (nodes : List Node) :
    OnlyBeyond (Node.combined logic context nodes) := by
  cases nodes with
  | nil => exact .ok _
  | cons n rest =>
    exact .bind (Node.onlyBeyond_holds context n) fun _ =>
      .ite (.pure _) (Node.onlyBeyond_combined logic context rest)

end

/-- Nothing but a value beyond what can be held keeps a group from being evaluated. -/
theorem Group.onlyBeyond_holds? (g : Option Group) (context : Context) :
    OnlyBeyond (Group.holds? g context) := by
  cases g with
  | none => exact .ok true
  | some g => exact Node.onlyBeyond_holds context g.node

end Formwork
