import Formwork.Proofs.Condition.Asking
/-!
# The order behind the comparisons

Texts, instants and truth values are ordered totally. Read as one of these, two sides are in one of
three orders, and five operators are tests of it. That two sides are equal is told apart from the
tests of their order, but it is a test of it too: in the order of equals are only two things that are
the same. An interval makes the two comparisons with its ends, whatever the type.
-/
namespace Formwork

open Calendar

/-! ## Things of one kind -/

theorem Calendar.Instant.compare_swap (i j : Instant) : (i.compare j).swap = j.compare i :=
  Nat.compare_swap i.micros j.micros

theorem Calendar.Instant.compare_eq_iff (i j : Instant) : i.compare j = .eq ↔ i = j := by
  rw [Instant.compare, Std.LawfulEqCmp.compare_eq_iff_eq]
  exact ⟨Instant.ext_micros, congrArg Instant.micros⟩

/-- Two things of one kind that is ordered totally; of numbers, some are in no order. -/
inductive Comparable.Alike : Comparable → Comparable → Prop where
  | text (s t : String) : Alike (.text s) (.text t)
  | instant (i j : Instant) : Alike (.instant i) (.instant j)
  | truth (a b : Bool) : Alike (.truth a) (.truth b)

/-- Things of one kind are in an order, which turns round with their places, and which is that of
equals if they are the same and in no other case. -/
theorem Comparable.Alike.order {a b : Comparable} (h : a.Alike b) :
    ∃ o, a.order? b = some o ∧ b.order? a = some o.swap ∧ (o = .eq ↔ a = b) := by
  cases h with
  | text s t =>
    refine ⟨compare s t, rfl, ?_, ?_⟩
    · rw [order?, ← Std.OrientedCmp.eq_swap]
    · rw [Std.LawfulEqCmp.compare_eq_iff_eq, text.injEq]
  | instant i j =>
    refine ⟨i.compare j, rfl, ?_, ?_⟩
    · rw [order?, i.compare_swap]
    · rw [i.compare_eq_iff, instant.injEq]
  | truth a b =>
    refine ⟨compare a b, rfl, ?_, ?_⟩
    · rw [order?, ← Std.OrientedCmp.eq_swap]
    · rw [Std.LawfulEqCmp.compare_eq_iff_eq, truth.injEq]

/-- The types whose readings are ordered totally. -/
def ValueType.isTotal : ValueType → Bool
  | .string | .date | .boolean => true
  | .auto | .number => false

theorem ValueType.ne_auto_of_isTotal {type : ValueType} (h : type.isTotal = true) :
    type ≠ .auto := by
  rintro rfl
  cases h

section Reading

variable {host : Host} {type : ValueType} {o p : Operand} {a b : Comparable}

theorem Reading.exists_of_map_run {α : Type} {r : Reading α} {make : α → Comparable}
    (h : (do pure (make (← r)) : Reading Comparable).run = .ok (some a)) : ∃ x, make x = a := by
  rw [OptionT.run_bind] at h
  rcases hr : r.run with _ | _ | x <;> rw [hr] at h <;> cases h
  exact ⟨x, rfl⟩

theorem Operand.alike_of_readAs (total : type.isTotal = true)
    (ha : (o.readAs host type).run = .ok (some a)) (hb : (p.readAs host type).run = .ok (some b)) :
    a.Alike b := by
  cases type with
  | string =>
    obtain ⟨s, rfl⟩ := Reading.exists_of_map_run ha
    obtain ⟨t, rfl⟩ := Reading.exists_of_map_run hb
    exact .text s t
  | date =>
    obtain ⟨i, rfl⟩ := Reading.exists_of_map_run ha
    obtain ⟨j, rfl⟩ := Reading.exists_of_map_run hb
    exact .instant i j
  | boolean =>
    obtain ⟨x, rfl⟩ := Reading.exists_of_map_run ha
    obtain ⟨y, rfl⟩ := Reading.exists_of_map_run hb
    exact .truth x y
  | auto | number => cases total

/-- Where both sides are there and can be read, a question is answered by what it asks of the
readings. -/
theorem Question.answer_of_readings {q : Question} (meets : q.Meets) (declared : type ≠ .auto)
    (ha : (q.left.readAs host type).run = .ok (some a))
    (hb : ((Operand.value q.right).readAs host type).run = .ok (some b)) :
    (q.answer host type).run = .ok (some (q.judge (a, b))) := by
  have hsides : (q.sides host type).run = .ok (some (a, b)) := by
    rw [sides, OptionT.run_bind, ha]
    change ((Operand.value q.right).readAs host type >>= fun d => pure (a, d) : Reading _).run = _
    rw [OptionT.run_bind, hb]
    rfl
  rw [answer_declared meets declared, OptionT.run_bind, hsides]
  rfl

end Reading

/-! ## The operators -/

/-- What an operator that compares two sides once asks of their order. -/
def Operator.test? : Operator → Option (Ordering → Bool)
  | .equals => some (· == .eq)
  | .greaterThan => some (· == .gt)
  | .lessThan => some (· == .lt)
  | .greaterOrEqual => some (· != .lt)
  | .lessOrEqual => some (· != .gt)
  | _ => none

/-- Such an operator asks one question, and tests the order of the two sides by it. -/
theorem Operator.question_of_test? {operator : Operator} {test : Ordering → Bool}
    (h : operator.test? = some test) (host : Host) (type : ValueType) (left : Operand)
    (right : Value) : ∃ q : Question, q.left = left ∧ q.right = right ∧ q.inquiry.isTyped = true ∧
      left.compareBy host operator type right = q.answer host type ∧
      ∀ a b o, a.order? b = some o → q.judge (a, b) = test o := by
  cases operator with
  | equals =>
    obtain rfl := Option.some.inj h
    exact ⟨{ left, right }, rfl, rfl, rfl, rfl, fun a b o ho => by simp [Question.judge, ho]⟩
  | greaterThan | lessThan | greaterOrEqual | lessOrEqual =>
    obtain rfl := Option.some.inj h
    exact ⟨{ left, right, inquiry := .order _ }, rfl, rfl, rfl, rfl,
      fun a b o ho => by simp [Question.judge, ho]⟩
  | notEquals | contains | notContains | startsWith | endsWith | between | isEmpty | isNotEmpty
  | isIn | isNotIn | matchesPattern => cases h

namespace Condition

variable {c : Condition} {context : Context} {w : Value} {a b : Comparable} {o : Ordering}

/-- The condition with another operator and another value to compare with. -/
def asking (c : Condition) (operator : Operator) (value : Value) : Condition :=
  { c with operator := operator, value := value }

/-- The side that the condition asks about and the one that it is compared with are there, and can
be read as the declared type. -/
structure Readable (c : Condition) (context : Context) (w : Value) : Prop where
  known : c.isKnown context = true
  present : (context.operand c.source c.field).isEmpty = false
  given : w.isEmpty = false
  left : (context.operand c.source c.field).Names context.host c.effectiveType
  right : (Operand.value w).Names context.host c.effectiveType

theorem comparison_asking (readable : c.Readable context w) (declared : c.effectiveType ≠ .auto)
    (ha : ((context.operand c.source c.field).readAs context.host c.effectiveType).run =
      .ok (some a))
    (hb : ((Operand.value w).readAs context.host c.effectiveType).run = .ok (some b))
    (ho : a.order? b = some o) {operator : Operator} {test : Ordering → Bool}
    (htest : operator.test? = some test) :
    (c.asking operator w).comparison context = .ok (some (test o)) := by
  obtain ⟨q, hleft, hright, htyped, hcompare, hjudge⟩ :=
    Operator.question_of_test? htest context.host c.effectiveType
      (context.operand c.source c.field) w
  have meets : q.Meets := by
    refine ⟨htyped, ?_, ?_⟩
    · rw [hleft]
      exact readable.present
    · rw [hright]
      exact readable.given
  rw [← hleft] at ha
  rw [← hright] at hb
  rw [← hjudge a b o ho, ← Question.answer_of_readings meets declared ha hb, ← hcompare]
  rfl

theorem holds_asking (readable : c.Readable context w) (declared : c.effectiveType ≠ .auto)
    (written : w.isWritable = true)
    (ha : ((context.operand c.source c.field).readAs context.host c.effectiveType).run =
      .ok (some a))
    (hb : ((Operand.value w).readAs context.host c.effectiveType).run = .ok (some b))
    (ho : a.order? b = some o) (operator : Operator) {test : Ordering → Bool}
    (htest : operator.test? = some test) :
    (c.asking operator w).holds context = .ok (test o) :=
  holds_of_answer (c := c.asking operator w) readable.known
    (comparison_asking readable declared ha hb ho htest) written

/-- What the comparisons with a value come to: exactly one of three holds, and the other two are made
up of them. -/
structure Compares (c : Condition) (context : Context) (w : Value) (greater less equal : Bool) :
    Prop where
  greaterThan : (c.asking .greaterThan w).holds context = .ok greater
  lessThan : (c.asking .lessThan w).holds context = .ok less
  equals : (c.asking .equals w).holds context = .ok equal
  one : [greater, less, equal].count true = 1
  greaterOrEqual : (c.asking .greaterOrEqual w).holds context = .ok (greater || equal)
  lessOrEqual : (c.asking .lessOrEqual w).holds context = .ok (less || equal)

theorem compares_of_order (readable : c.Readable context w) (declared : c.effectiveType ≠ .auto)
    (written : w.isWritable = true)
    (ha : ((context.operand c.source c.field).readAs context.host c.effectiveType).run =
      .ok (some a))
    (hb : ((Operand.value w).readAs context.host c.effectiveType).run = .ok (some b))
    (ho : a.order? b = some o) :
    c.Compares context w (o == .gt) (o == .lt) (o == .eq) := by
  have hasking := holds_asking readable declared written ha hb ho
  refine ⟨hasking .greaterThan rfl, hasking .lessThan rfl, hasking .equals rfl, ?one,
    (hasking .greaterOrEqual rfl).trans ?greaterOrEqual,
    (hasking .lessOrEqual rfl).trans ?lessOrEqual⟩
  all_goals cases o <;> rfl

theorem between_comparison (low high : Value) :
    (c.asking .between (.list [low, high])).comparison context = (do
      match ← (c.asking .greaterOrEqual low).comparison context with
      | some true => (c.asking .lessOrEqual high).comparison context
      | found => pure found) := by
  change (do
    if ← (context.operand c.source c.field).ordered context.host c.effectiveType (· != .lt) low
    then (context.operand c.source c.field).ordered context.host c.effectiveType (· != .gt) high
    else pure false : Reading Bool).run = _
  rw [OptionT.run_bind]
  change Option.elimM ((c.asking .greaterOrEqual low).comparison context) _ _ = _
  rcases (c.asking .greaterOrEqual low).comparison context with f | _ | _ | _ <;> rfl

theorem isWritable_pair (low high : Value) :
    (Value.list [low, high]).isWritable = (low.isWritable && high.isWritable) := by
  simp [Value.isWritable, Value.allWritable]

/-- Where the two comparisons with the ends of an interval have an answer, the comparison with the
interval holds if both do; unless the high end, which need not have been looked at, cannot be written
beside the low one. -/
theorem between_holds {low high : Value} {x y : Bool}
    (hx : (c.asking .greaterOrEqual low).holds context = .ok x)
    (hy : (c.asking .lessOrEqual high).holds context = .ok y) :
    (c.asking .between (.list [low, high])).holds context = .ok (x && y) ∨
      high.isWritable = false ∧
        (c.asking .between (.list [low, high])).holds context = .error .tooManyDigits := by
  by_cases known : c.isKnown context = true
  · have hbetween : (c.asking .between (.list [low, high])).comparison context = _ :=
      between_comparison low high
    have written := isWritable_pair low high
    rcases (holds_eq_ok_iff (c := c.asking .greaterOrEqual low) known).mp hx with
      ⟨hlow, hlowWritten⟩ | ⟨hlow, rfl⟩
    · change low.isWritable = true at hlowWritten
      rw [hlowWritten, Bool.true_and] at written
      cases x with
      | false =>
        rw [hlow, Work.except_ok_bind] at hbetween
        cases hhigh : high.isWritable with
        | true => exact .inl (holds_of_answer known hbetween (written.trans hhigh))
        | false => exact .inr ⟨rfl, holds_of_unnoted known hbetween (written.trans hhigh)⟩
      | true =>
        rw [hlow, Work.except_ok_bind] at hbetween
        rcases (holds_eq_ok_iff (c := c.asking .lessOrEqual high) known).mp hy with
          ⟨hhigh, hhighWritten⟩ | ⟨hhigh, rfl⟩
        · exact .inl (holds_of_answer known (hbetween.trans hhigh) (written.trans hhighWritten))
        · exact .inl (holds_of_no_answer known (hbetween.trans hhigh))
    · rw [hlow, Work.except_ok_bind] at hbetween
      exact .inl (holds_of_no_answer known hbetween)
  · have hunknown (operator : Operator) (v : Value) :
        (c.asking operator v).holds context = .ok false := if_neg known
    rw [hunknown, Except.ok.injEq] at hx
    rw [hunknown, ← hx, Bool.false_and]
    exact .inl rfl

/-- The comparisons are one order. Read as texts, as instants or as truth values, of two sides exactly
one is greater, or less, or they are equal, and equal are sides that are read as the same; the other
two operators say that one of two of these holds, and with the sides changed, greater is less. A value
that cannot be written makes each of them fail and nothing else does. As whatever a side is read, it
lies between two ends exactly if it is at least the one and at most the other. -/
theorem comparisons_one_order (c : Condition) :
    (∀ (context : Context) (w : Value), c.effectiveType.isTotal = true → c.Readable context w →
      w.isWritable = true →
      ∃ greater less equal, c.Compares context w greater less equal ∧
        (equal = true ↔
          ((context.operand c.source c.field).readAs context.host c.effectiveType).run =
            ((Operand.value w).readAs context.host c.effectiveType).run) ∧
        ∀ (turned : Context) (v : Value), turned.host = context.host →
          c.isKnown turned = true → v.isWritable = true →
          context.operand c.source c.field = .value v →
          turned.operand c.source c.field = .value w → c.Compares turned v less greater equal) ∧
    (∀ (context : Context) (w : Value), c.effectiveType.isTotal = true → c.Readable context w →
      w.isWritable = false → ∀ (operator : Operator) (test : Ordering → Bool),
      operator.test? = some test →
      (c.asking operator w).holds context = .error .tooManyDigits) ∧
    ∀ (context : Context) (low high : Value) (x y : Bool),
      (c.asking .greaterOrEqual low).holds context = .ok x →
      (c.asking .lessOrEqual high).holds context = .ok y →
      (c.asking .between (.list [low, high])).holds context = .ok (x && y) ∨
        high.isWritable = false ∧
          (c.asking .between (.list [low, high])).holds context = .error .tooManyDigits := by
  refine ⟨?order, ?unwritten, fun context low high x y => between_holds⟩
  case unwritten =>
    intro context w total readable long operator test htest
    obtain ⟨a, ha⟩ := readable.left
    obtain ⟨b, hb⟩ := readable.right
    obtain ⟨o, ho, -⟩ := (Operand.alike_of_readAs total ha hb).order
    have declared := ValueType.ne_auto_of_isTotal total
    exact holds_of_unnoted (c := c.asking operator w) readable.known
      (comparison_asking readable declared ha hb ho htest) long
  intro context w total readable written
  obtain ⟨a, ha⟩ := readable.left
  obtain ⟨b, hb⟩ := readable.right
  obtain ⟨o, ho, hswap, heq⟩ := (Operand.alike_of_readAs total ha hb).order
  have declared := ValueType.ne_auto_of_isTotal total
  refine ⟨o == .gt, o == .lt, o == .eq, compares_of_order readable declared written ha hb ho, ?same,
    fun turned v hhost hknown hwritten hv hw => ?turned⟩
  case same =>
    rw [ha, hb, beq_iff_eq, heq]
    simp
  case turned =>
    have hreadable : c.Readable turned v := by
      refine ⟨hknown, ?_, ?_, ?_, ?_⟩
      · rw [hw]
        exact readable.given
      · have := readable.present
        rw [hv] at this
        exact this
      · rw [hw, hhost]
        exact readable.right
      · rw [← hv, hhost]
        exact readable.left
    have h := compares_of_order hreadable declared hwritten (by rwa [hw, hhost])
      (by rwa [← hv, hhost]) hswap
    have hsame : (o.swap == .gt) = (o == .lt) ∧ (o.swap == .lt) = (o == .gt) ∧
        (o.swap == .eq) = (o == .eq) := by cases o <;> decide
    rwa [hsame.1, hsame.2.1, hsame.2.2] at h

end Condition

/-! An answer and a number that say the same as truth values. -/

namespace Consent

def context : Context :=
  { Context.ofNow ⟨0, Calendar.zero_lt_microCount⟩ with data := [("consent", .text " YES")] }

def given : Condition := { field := "consent", operator := .equals, valueType := .boolean }

theorem readable : given.Readable context (.int 1) :=
  ⟨rfl, rfl, rfl, ⟨.truth true, rfl⟩, ⟨.truth true, rfl⟩⟩

end Consent

namespace Condition

open Consent in
/-- As they say the same, they are equal and neither is greater, and the answer lies between no and
yes. -/
theorem comparisons_one_order_consent :
    given.Readable context (.int 1) ∧ given.Compares context (.int 1) false false true ∧
    (given.asking .between (.list [.text "no", .int 1])).holds context = .ok true := by
  obtain ⟨horder, -, hbetween⟩ := comparisons_one_order given
  have written : (Value.int 1).isWritable = true :=
    Value.isWritable_int_of_lt (show Int.natAbs 1 < 10 ^ 1 by decide) (by decide)
  obtain ⟨greater, less, equal, hcompares, hsame, -⟩ := horder context (.int 1) rfl readable written
  obtain rfl : equal = true := hsame.mpr (Eq.trans (b := .ok (some (.truth true))) rfl rfl)
  have hneither : ∀ greater less : Bool,
      [greater, less, true].count true = 1 → greater = false ∧ less = false := by decide
  obtain ⟨rfl, rfl⟩ := hneither greater less hcompares.one
  have hends := hbetween context (.text "no") (.int 1) true true rfl hcompares.lessOrEqual
  rw [written] at hends
  exact ⟨readable, hcompares, hends.resolve_right fun h => Bool.noConfusion h.1⟩

end Condition
end Formwork
