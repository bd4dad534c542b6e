import Formwork.Proofs.Condition.Asking
/-!
# Operators and their opposites

Four operators have an opposite, which makes the same comparison and turns its answer round. So of two
conditions that differ in this alone one holds and the other does not, as long as the comparison has
an answer. It has none on a field that is unknown, and where it comes to a side that names nothing of
the declared type; then neither condition holds. A comparison with several options comes to such a
side only if no option before it settled the answer.
-/
namespace Formwork

/-! ## Answers turned round -/

/-- The operator that says the opposite. -/
def Operator.opposite? : Operator → Option Operator
  | .equals => some .notEquals
  | .contains => some .notContains
  | .isIn => some .isNotIn
  | .isEmpty => some .isNotEmpty
  | _ => none

theorem Operator.opposite?_eq_some {operator opposite : Operator}
    (h : operator.opposite? = some opposite) :
    operator = .equals ∨ operator = .contains ∨ operator = .isIn ∨ operator = .isEmpty := by
  cases operator <;> simp_all [opposite?]

theorem Operand.compareBy_opposite {operator opposite : Operator}
    (h : operator.opposite? = some opposite) (host : Host) (type : ValueType) (left : Operand)
    (right : Value) : left.compareBy host opposite type right =
      (do pure !(← left.compareBy host operator type right)) := by
  rcases operator.opposite?_eq_some h with rfl | rfl | rfl | rfl
  all_goals
    obtain rfl := Option.some.inj h
    rfl

theorem Reading.not_run (r : Reading Bool) :
    (do pure !(← r) : Reading Bool).run = r.run.map (Option.map not) := by
  rw [OptionT.run_bind]
  rcases r.run with _ | _ | _ <;> rfl

namespace Condition

variable {host : Host} {c : Condition} {context : Context} {opposite : Operator} {x y : Bool}

theorem comparison_opposite (h : c.operator.opposite? = some opposite) :
    { c with operator := opposite }.comparison context =
      (c.comparison context).map (Option.map not) := by
  unfold comparison compared
  rw [← Reading.not_run, ← Operand.compareBy_opposite h]
  rfl

/-! ## Conditions without an answer -/

/-- The comparison comes to a side that names nothing of the declared type. -/
def Degrades (c : Condition) (context : Context) : Prop :=
  ∃ q, c.Asks context q ∧ q.Unreadable context.host c.valueType

/-- Only an order can be asked for of the time, so an operator that has an opposite reads both sides
as the type that is declared. -/
theorem effectiveType_of_opposite (sound : c.misuse? host = .ok none)
    (h : c.operator.opposite? = some opposite) : c.effectiveType = c.valueType := by
  have hordering : c.operator.isOrdering = false := by
    rcases c.operator.opposite?_eq_some h with hop | hop | hop | hop <;> rw [hop] <;> rfl
  unfold effectiveType
  rw [if_neg]
  rintro ⟨htime, -⟩
  simp [misuse?, htime, hordering, pure, Except.pure] at sound

theorem degrades_iff (sound : c.misuse? host = .ok none) (h : c.operator.opposite? = some opposite)
    (known : c.isKnown context = true) :
    c.Degrades context ↔ c.comparison context = .ok none := by
  rw [comparison_eq_none_iff known, Degrades, effectiveType_of_opposite sound h]

theorem Asks.inquiry_ne_pattern {q : Question} (hasks : c.Asks context q)
    (h : c.operator.opposite? = some opposite) : q.inquiry ≠ .pattern := by
  obtain ⟨-, before, after, hquestions, -⟩ := hasks
  have hmem : q ∈ (context.operand c.source c.field).questions c.operator c.value := by
    rw [hquestions]
    simp
  rcases c.operator.opposite?_eq_some h with hoperator | hoperator | hoperator | hoperator
  all_goals rw [hoperator] at hmem
  · rw [List.mem_singleton.mp hmem]
    rintro ⟨⟩
  · rw [List.mem_singleton.mp hmem]
    rintro ⟨⟩
  · obtain ⟨o, -, ho⟩ := List.mem_flatMap.mp hmem
    obtain ⟨option, -, rfl⟩ := List.mem_map.mp ho
    rintro ⟨⟩
  · cases hmem

theorem Degrades.declared (h : c.operator.opposite? = some opposite)
    (degrades : c.Degrades context) : c.valueType ≠ .auto := by
  obtain ⟨q, hasks, hunreadable⟩ := degrades
  cases hunreadable with
  | left _ declared | right _ declared => exact declared
  | pattern misreads => exact (hasks.inquiry_ne_pattern h misreads.pattern).elim

/-- The comparison has an answer, which one of two opposite conditions gives and the other turns
round; or it has none, and neither of them holds. -/
theorem opposite_cases (h : c.operator.opposite? = some opposite)
    (known : c.isKnown context = true) (hx : c.holds context = .ok x)
    (hy : { c with operator := opposite }.holds context = .ok y) :
    (c.comparison context = .ok (some x) ∧ x = !y) ∨
      (c.comparison context = .ok none ∧ x = false ∧ y = false) := by
  have hturned := (holds_eq_ok_iff (c := { c with operator := opposite }) known).mp hy
  rw [comparison_opposite h] at hturned
  rcases (holds_eq_ok_iff known).mp hx with ⟨hfound, -⟩ | ⟨hfound, rfl⟩
  · rw [hfound] at hturned
    rcases hturned with ⟨⟨⟩, -⟩ | ⟨⟨⟩, -⟩
    exact .inl ⟨hfound, (Bool.not_not x).symm⟩
  · rw [hfound] at hturned
    rcases hturned with ⟨⟨⟩, -⟩ | ⟨-, rfl⟩
    exact .inr ⟨hfound, rfl, rfl⟩

/-- Two conditions make a comparison and its opposite of the same sides. Never do both hold. Neither
holds exactly if the field is unknown, or a type is declared and the comparison comes to a side that
names nothing of it. In all other cases one of them holds and the other does not, and so it is always
where the type is left open and the field is known. -/
theorem opposites_complement (sound : c.misuse? host = .ok none)
    (h : c.operator.opposite? = some opposite) (hx : c.holds context = .ok x)
    (hy : { c with operator := opposite }.holds context = .ok y) :
    ¬ (x = true ∧ y = true) ∧
    (x = false ∧ y = false ↔
      c.isKnown context = false ∨ c.valueType ≠ .auto ∧ c.Degrades context) ∧
    (c.isKnown context = true → ¬ c.Degrades context → x = !y) ∧
    (c.isKnown context = true → c.valueType = .auto → x = !y) := by
  by_cases known : c.isKnown context = true
  · have hdegrades := degrades_iff sound h known
    rcases opposite_cases h known hx hy with ⟨hanswer, rfl⟩ | ⟨hnone, rfl, rfl⟩
    · have answered : ¬ c.Degrades context := by
        rw [hdegrades, hanswer]
        simp
      simp [known, answered]
    · have degraded : c.Degrades context := hdegrades.mpr hnone
      simp [degraded, degraded.declared h]
  · have hno : ∀ {d : Condition} {b : Bool}, d.isKnown context = c.isKnown context →
        d.holds context = .ok b → b = false := by
      intro d b hd hb
      rw [holds, if_neg (hd ▸ known)] at hb
      exact (Except.ok.inj hb).symm
    obtain rfl := hno rfl hx
    obtain rfl := hno (d := { c with operator := opposite }) rfl hy
    simp [known]

end Condition

/-! Among the answers of a household one is no truth value. -/

namespace Household

def context : Context :=
  { Context.ofNow ⟨0, Calendar.zero_lt_microCount⟩ with
    data := [("answers", .list [.text "yes", .text "maybe"])] }

/-- Whether anybody gave the answer. -/
def anybody (answer : String) : Condition :=
  { field := "answers", operator := .isIn, value := .list [.text answer], valueType := .boolean }

theorem anybody_yes : (anybody "yes").holds context = .ok true := rfl

theorem nobody_yes : { anybody "yes" with operator := .isNotIn }.holds context = .ok false := rfl

theorem anybody_no : (anybody "no").holds context = .ok false := rfl

theorem nobody_no : { anybody "no" with operator := .isNotIn }.holds context = .ok false := rfl

end Household

namespace Condition

open Household in
/-- It cannot be told whether anybody said no, as the second answer is neither; that somebody said yes
is settled by the first one. -/
theorem opposites_complement_household :
    Operator.isIn.opposite? = some .isNotIn ∧ (anybody "no").misuse? {} = .ok none ∧
    (anybody "no").holds context = .ok false ∧
    { anybody "no" with operator := .isNotIn }.holds context = .ok false ∧
    (anybody "no").Degrades context ∧ ¬ (anybody "yes").Degrades context := by
  have sound (answer : String) : (anybody answer).misuse? {} = .ok none := rfl
  have hno := opposites_complement (sound "no") rfl anybody_no nobody_no
  have hyes := opposites_complement (sound "yes") rfl anybody_yes nobody_yes
  refine ⟨rfl, rfl, anybody_no, nobody_no, ?_, ?_⟩
  · rcases hno.2.1.mp ⟨rfl, rfl⟩ with hunknown | ⟨-, hdegrades⟩
    · cases hunknown
    · exact hdegrades
  · intro hdegrades
    cases (hyes.2.1.mpr (.inr ⟨by decide, hdegrades⟩)).1

end Condition
end Formwork
