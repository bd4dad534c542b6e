import Formwork.Proofs.Condition.Question
/-!
# What a group of conditions comes to

An operator asks one question about its sides, or two for an interval, or one for every option; the
first answer that settles the comparison ends it, and is noted with the value of the condition. Groups
ask their members in turn and end likewise. So a group fails exactly if a question that is asked fails
or a value cannot be noted, and in no other way; and a condition that asks for something unreadable
does not hold, whichever way it asks.
-/
namespace Formwork

open Calendar

/-! ## One after another -/

section Reached

variable {α : Type} {goesOn : α → Prop}

/-- A member of the list that comes up, because it goes on from all before it. -/
def ReachedIn (goesOn : α → Prop) (l : List α) (a : α) : Prop :=
  ∃ before after, l = before ++ a :: after ∧ ∀ b ∈ before, goesOn b

theorem not_reachedIn_nil (a : α) : ¬ ReachedIn goesOn [] a := by
  rintro ⟨before, after, hl, -⟩
  simp at hl

theorem reachedIn_cons_iff {b : α} {l : List α} {a : α} :
    ReachedIn goesOn (b :: l) a ↔ a = b ∨ goesOn b ∧ ReachedIn goesOn l a := by
  constructor
  · rintro ⟨_ | ⟨c, before⟩, after, hl, hbefore⟩
    · simp only [List.nil_append, List.cons.injEq] at hl
      exact .inl hl.1.symm
    · simp only [List.cons_append, List.cons.injEq] at hl
      obtain ⟨rfl, hl⟩ := hl
      exact .inr ⟨hbefore b (by simp), before, after, hl, fun c hc => hbefore c (by simp [hc])⟩
  · rintro (rfl | ⟨hb, before, after, rfl, hbefore⟩)
    · exact ⟨[], l, rfl, by simp⟩
    · refine ⟨b :: before, after, rfl, ?_⟩
      intro c hc
      rcases List.mem_cons.mp hc with rfl | hc
      · exact hb
      · exact hbefore c hc

end Reached

/-! ## The questions of a comparison -/

namespace Question

variable {host : Host} {type : ValueType} {go : Bool}

/-- Ask on as long as the answers are the given one. -/
def scan (host : Host) (type : ValueType) (go : Bool) : List Question → Reading Bool
  | [] => pure go
  | q :: rest => do
    let b ← q.answer host type
    if b = go then scan host type go rest else pure b

theorem scan_single (q : Question) : scan host type go [q] = q.answer host type := by
  have hlast (b : Bool) :
      (if b = go then scan host type go [] else pure b : Reading Bool) = pure b := by
    split
    · rename_i h
      rw [h, scan]
    · rfl
  rw [scan]
  simp only [hlast, bind_pure]

theorem scan_append (l l' : List Question) : scan host type go (l ++ l') = (do
    let b ← scan host type go l
    if b = go then scan host type go l' else pure b) := by
  induction l with
  | nil => simp [scan]
  | cons q rest ih =>
    simp only [List.cons_append, scan, ih, bind_assoc]
    congr 1
    funext b
    split
    · rfl
    · rename_i h
      simp [h]

/-- A question of the list is asked if those before it are answered so that the asking goes on. -/
def AskedIn (host : Host) (type : ValueType) (go : Bool) : List Question → Question → Prop :=
  ReachedIn fun p => (p.answer host type).run = .ok (some go)

theorem scan_run_eq_stuck_iff (why : Option Failure) (l : List Question) :
    (scan host type go l).run = Reading.stuck why ↔
      ∃ q, AskedIn host type go l q ∧ (q.answer host type).run = Reading.stuck why := by
  induction l with
  | nil =>
    apply iff_of_false (Reading.pure_run_ne_stuck go why)
    rintro ⟨q, hasked, -⟩
    exact not_reachedIn_nil q hasked
  | cons p rest ih =>
    have hgo (b : Bool) : (if b = go then scan host type go rest else pure b : Reading Bool).run =
        Reading.stuck why ↔ b = go ∧ (scan host type go rest).run = Reading.stuck why := by
      split
      · simp [*]
      · rename_i h
        simp only [h, false_and, iff_false]
        exact Reading.pure_run_ne_stuck b why
    rw [scan, Reading.bind_run_eq_stuck_iff]
    simp only [hgo, ih, AskedIn, reachedIn_cons_iff]
    constructor
    · rintro (hp | ⟨b, hp, rfl, q, hasked, hq⟩)
      · exact ⟨p, .inl rfl, hp⟩
      · exact ⟨q, .inr ⟨hp, hasked⟩, hq⟩
    · rintro ⟨q, rfl | ⟨hp, hasked⟩, hq⟩
      · exact .inl hq
      · exact .inr ⟨go, hp, rfl, q, hasked, hq⟩

end Question

mutual

/-- What is looked for among options: a value itself, or the items of a list. -/
def Value.items : Value → List Value
  | .list vs => Value.allItems vs
  | v => [v]
termination_by structural v => v

def Value.allItems : List Value → List Value
  | [] => []
  | v :: rest => v.items ++ Value.allItems rest
termination_by structural vs => vs

end

def Operand.items : Operand → List Operand
  | .value v => v.items.map .value
  | .moment i => [.moment i]

/-- Whether one side equals each of the options. -/
def Operand.each (left : Operand) (options : List Value) : List Question :=
  options.map fun option => { left := left, right := option }

/-- The questions that a comparison asks, in order. -/
def Operand.questions (operator : Operator) (left : Operand) (right : Value) : List Question :=
  match operator with
  | .isEmpty | .isNotEmpty => []
  | .equals | .notEquals => [{ left, right }]
  | .contains | .notContains => [{ left, right, inquiry := .part }]
  | .startsWith => [{ left, right, inquiry := .texts List.isPrefixOf }]
  | .endsWith => [{ left, right, inquiry := .texts List.isSuffixOf }]
  | .matchesPattern => [{ left, right, inquiry := .pattern }]
  | .greaterThan => [{ left, right, inquiry := .order (· == .gt) }]
  | .lessThan => [{ left, right, inquiry := .order (· == .lt) }]
  | .greaterOrEqual => [{ left, right, inquiry := .order (· != .lt) }]
  | .lessOrEqual => [{ left, right, inquiry := .order (· != .gt) }]
  | .between =>
    match right with
    | .list [low, high] =>
      [{ left, right := low, inquiry := .order (· != .lt) },
        { left, right := high, inquiry := .order (· != .gt) }]
    | _ => []
  | .isIn | .isNotIn => left.items.flatMap (·.each right.options)

/-- The answer after which the next question is asked: an interval has two ends, and of several
options one is enough. -/
def Operator.goesOn (operator : Operator) : Bool := operator = .between

section Options

variable (host : Host) (type : ValueType) (options : List Value)

theorem Operand.equalsAny_eq_scan (left : Operand) :
    left.equalsAny host type options = Question.scan host type false (left.each options) := by
  induction options with
  | nil => rfl
  | cons option rest ih =>
    simp only [equalsAny, each, List.map_cons, Question.scan] at ih ⊢
    rw [ih]
    apply bind_congr
    intro b
    cases b <;> rfl

mutual

theorem Value.isAmong_eq_scan (v : Value) : v.isAmong host type options =
    Question.scan host type false ((v.items.map .value).flatMap (Operand.each · options)) := by
  cases v with
  | list items => exact Value.anyAmong_eq_scan items
  | null | bool _ | int _ | float _ | text _ | map _ =>
    simpa only [isAmong, items, List.map_cons, List.map_nil, List.flatMap_cons, List.flatMap_nil,
      List.append_nil] using Operand.equalsAny_eq_scan host type options _

theorem Value.anyAmong_eq_scan (vs : List Value) : Value.anyAmong host type options vs =
    Question.scan host type false
      (((Value.allItems vs).map .value).flatMap (Operand.each · options)) := by
  cases vs with
  | nil => rfl
  | cons v rest =>
    rw [anyAmong, allItems, List.map_append, List.flatMap_append, Question.scan_append,
      Value.isAmong_eq_scan v, Value.anyAmong_eq_scan rest]
    apply bind_congr
    intro b
    cases b <;> rfl

end

theorem Operand.isAmong_eq_scan (left : Operand) : left.isAmong host type options =
    Question.scan host type false (left.items.flatMap (·.each options)) := by
  cases left with
  | value v => exact v.isAmong_eq_scan host type options
  | moment i =>
    rw [items, List.flatMap_singleton]
    exact equalsAny_eq_scan host type options _

end Options

theorem Operand.between_eq_scan (host : Host) (type : ValueType) (left : Operand)
    (low high : Value) :
    left.compareBy host .between type (.list [low, high]) =
      Question.scan host type true (left.questions .between (.list [low, high])) := by
  change (do if ← left.ordered host type _ low then left.ordered host type _ high else pure false) =
    (do
      let b ← left.ordered host type _ low
      if b = true then Question.scan host type true [⟨left, high, .order (· != .gt)⟩] else pure b)
  rw [Question.scan_single]
  apply bind_congr
  intro b
  cases b <;> rfl

theorem Reading.not_run_eq_stuck_iff {r : Reading Bool} (why : Option Failure) :
    (do pure !(← r)).run = Reading.stuck why ↔ r.run = Reading.stuck why := by
  rw [bind_run_eq_stuck_iff]
  simp only [pure_run_ne_stuck, and_false, exists_false, or_false]

theorem Operand.compareBy_run_eq_stuck_iff (host : Host) (operator : Operator) (type : ValueType)
    (left : Operand) (right : Value) (why : Option Failure) :
    (left.compareBy host operator type right).run = Reading.stuck why ↔
      ∃ q, Question.AskedIn host type operator.goesOn (left.questions operator right) q ∧
        (q.answer host type).run = Reading.stuck why := by
  rw [← Question.scan_run_eq_stuck_iff]
  cases operator with
  | isEmpty | isNotEmpty =>
    exact iff_of_false (Reading.pure_run_ne_stuck _ why) (Reading.pure_run_ne_stuck _ why)
  | equals | contains | startsWith | endsWith | matchesPattern | greaterThan | lessThan
  | greaterOrEqual | lessOrEqual =>
    rw [questions, Question.scan_single]
    rfl
  | notEquals | notContains =>
    rw [questions, Question.scan_single]
    exact Reading.not_run_eq_stuck_iff why
  | between =>
    by_cases hpair : ∃ low high, right = .list [low, high]
    · obtain ⟨low, high, rfl⟩ := hpair
      rw [between_eq_scan]
      rfl
    · have hcompare : left.compareBy host .between type right = pure false := by
        simp only [compareBy]
        split
        · exact absurd ⟨_, _, rfl⟩ hpair
        · rfl
      have hquestions : left.questions .between right = [] := by
        simp only [questions]
        split
        · exact absurd ⟨_, _, rfl⟩ hpair
        · rfl
      rw [hcompare, hquestions]
      exact iff_of_false (Reading.pure_run_ne_stuck _ why) (Reading.pure_run_ne_stuck _ why)
  | isIn =>
    rw [compareBy, isAmong_eq_scan]
    rfl
  | isNotIn =>
    rw [compareBy, Reading.not_run_eq_stuck_iff, isAmong_eq_scan]
    rfl

/-! ## Conditions -/

namespace Condition

variable {c : Condition} {context : Context} {f : Failure}

/-- The questions that a condition asks in a context; one on an unknown field asks none. -/
def Asks (c : Condition) (context : Context) (q : Question) : Prop :=
  c.isKnown context = true ∧ Question.AskedIn context.host c.effectiveType c.operator.goesOn
    ((context.operand c.source c.field).questions c.operator c.value) q

/-- Why a condition cannot be evaluated: a question that it asks comes to a failure; or all that it
asks are answered, and the value that the answer is noted with has no text. -/
inductive Strains (c : Condition) (context : Context) : Failure → Prop where
  | asked {q : Question} {f : Failure} (asks : c.Asks context q)
    (strains : q.Strains context.host c.effectiveType f) : Strains c context f
  | noted (known : c.isKnown context = true) (long : c.value.isWritable = false)
    (readable : ∀ q, c.Asks context q → ¬ q.Unreadable context.host c.effectiveType)
    (easy : ∀ q, c.Asks context q → ∀ f, ¬ q.Strains context.host c.effectiveType f) :
    Strains c context .tooManyDigits

/-- What the comparison of a condition comes to. -/
def comparison (c : Condition) (context : Context) : Except Failure (Option Bool) :=
  (c.compared context).run

theorem comparison_eq_stuck_iff (known : c.isKnown context = true) (why : Option Failure) :
    c.comparison context = Reading.stuck why ↔
      ∃ q, c.Asks context q ∧ (q.answer context.host c.effectiveType).run = Reading.stuck why := by
  simp only [Asks, known, true_and]
  exact Operand.compareBy_run_eq_stuck_iff ..

theorem comparison_eq_error_iff (known : c.isKnown context = true) :
    c.comparison context = .error f ↔
      ∃ q, c.Asks context q ∧ q.Strains context.host c.effectiveType f := by
  simpa only [Reading.stuck, Question.answer_run_eq_error_iff] using
    comparison_eq_stuck_iff known (some f)

theorem comparison_eq_none_iff (known : c.isKnown context = true) :
    c.comparison context = .ok none ↔
      ∃ q, c.Asks context q ∧ q.Unreadable context.host c.effectiveType := by
  simpa only [Reading.stuck, Question.answer_run_eq_none_iff] using
    comparison_eq_stuck_iff known none

theorem holds_of_known (known : c.isKnown context = true) : c.holds context =
    c.comparison context >>= fun
      | some result => do
        let _ ← c.value.literal
        pure result
      | none => pure false := by
  rw [holds, if_pos known]
  rfl

/-- A condition holds or does not hold as its comparison has come out, if the value can be noted. -/
theorem holds_of_answer {x : Bool} (known : c.isKnown context = true)
    (h : c.comparison context = .ok (some x)) (written : c.value.isWritable = true) :
    c.holds context = .ok x := by
  rw [holds_of_known known, h, Work.except_ok_bind]
  obtain ⟨s, hs⟩ := Value.exists_literal.mpr written
  rw [hs]
  rfl

theorem holds_of_no_answer (known : c.isKnown context = true)
    (h : c.comparison context = .ok none) : c.holds context = .ok false := by
  rw [holds_of_known known, h]
  rfl

theorem holds_eq_ok_iff {x : Bool} (known : c.isKnown context = true) :
    c.holds context = .ok x ↔
      (c.comparison context = .ok (some x) ∧ c.value.isWritable = true) ∨
      (c.comparison context = .ok none ∧ x = false) := by
  constructor
  · intro h
    rw [holds_of_known known] at h
    obtain ⟨_ | result, hcompared, h⟩ := Work.except_bind_eq_ok_iff.mp h
    · exact .inr ⟨hcompared, (Except.ok.inj h).symm⟩
    · obtain ⟨s, hs, ⟨⟩⟩ := Work.except_bind_eq_ok_iff.mp h
      exact .inl ⟨hcompared, Value.exists_literal.mp ⟨s, hs⟩⟩
  · rintro (⟨hcompared, written⟩ | ⟨hcompared, rfl⟩)
    · exact holds_of_answer known hcompared written
    · exact holds_of_no_answer known hcompared

theorem holds_of_unnoted {x : Bool} (known : c.isKnown context = true)
    (h : c.comparison context = .ok (some x)) (long : c.value.isWritable = false) :
    c.holds context = .error .tooManyDigits := by
  rw [holds_of_known known, h, Work.except_ok_bind, Value.literal_eq_error.mpr ⟨long, rfl⟩]
  rfl

theorem comparison_answered_iff (known : c.isKnown context = true) :
    (∃ x, c.comparison context = .ok (some x)) ↔
      (∀ q, c.Asks context q → ¬ q.Unreadable context.host c.effectiveType) ∧
        ∀ q, c.Asks context q → ∀ f, ¬ q.Strains context.host c.effectiveType f := by
  constructor
  · rintro ⟨x, hx⟩
    constructor
    · intro q hasks hunreadable
      have hnone := (comparison_eq_none_iff known).mpr ⟨q, hasks, hunreadable⟩
      rw [hx] at hnone
      cases hnone
    · intro q hasks f hstrains
      have hfails := (comparison_eq_error_iff known).mpr ⟨q, hasks, hstrains⟩
      rw [hx] at hfails
      cases hfails
  · rintro ⟨readable, easy⟩
    cases hcompared : c.comparison context with
    | error f =>
      obtain ⟨q, hasks, hstrains⟩ := (comparison_eq_error_iff known).mp hcompared
      exact (easy q hasks f hstrains).elim
    | ok found =>
      cases found with
      | none =>
        obtain ⟨q, hasks, hunreadable⟩ := (comparison_eq_none_iff known).mp hcompared
        exact (readable q hasks hunreadable).elim
      | some x => exact ⟨x, rfl⟩

theorem strains_iff (known : c.isKnown context = true) : c.Strains context f ↔
    c.comparison context = .error f ∨ (∃ x, c.comparison context = .ok (some x)) ∧
      c.value.isWritable = false ∧ f = .tooManyDigits := by
  rw [comparison_eq_error_iff known, comparison_answered_iff known]
  constructor
  · rintro (⟨asks, strains⟩ | ⟨-, long, readable, easy⟩)
    · exact .inl ⟨_, asks, strains⟩
    · exact .inr ⟨⟨readable, easy⟩, long, rfl⟩
  · rintro (⟨q, asks, strains⟩ | ⟨⟨readable, easy⟩, long, rfl⟩)
    · exact .asked asks strains
    · exact .noted known long readable easy

theorem holds_eq_error_iff : c.holds context = .error f ↔ c.Strains context f := by
  by_cases known : c.isKnown context = true
  · rw [strains_iff known]
    rcases hcompared : c.comparison context with g | _ | x
    · rw [holds_of_known known, hcompared, Work.except_error_bind]
      simp
    · rw [holds_of_no_answer known hcompared]
      simp
    · cases hwritten : c.value.isWritable with
      | true =>
        rw [holds_of_answer known hcompared hwritten]
        simp
      | false =>
        rw [holds_of_unnoted known hcompared hwritten]
        simp [eq_comm]
  · rw [holds, if_neg known]
    apply iff_of_false (by rintro ⟨⟩)
    rintro (⟨⟨hknown, -⟩, -⟩ | ⟨hknown, -, -, -⟩)
    · exact known hknown
    · exact known hknown

end Condition

/-! ## Groups -/

/-- A condition of a node that comes up: of the members before it, and of those before the groups
that it is in, none settled the answer. -/
inductive Node.Comes (context : Context) : Node → Condition → Prop where
  | leaf (c : Condition) : Comes context (.leaf c) c
  | member {logic : Logic} {nodes : List Node} {n : Node} {c : Condition}
    (reached : ReachedIn (fun m => m.holds context = .ok (logic = .all)) nodes n)
    (comes : Comes context n c) : Comes context (.group logic nodes) c

section Groups

variable (context : Context) (f : Failure)

theorem Node.combined_cons_eq_error_iff (logic : Logic) (n : Node) (rest : List Node) :
    Node.combined logic context (n :: rest) = .error f ↔ n.holds context = .error f ∨
      n.holds context = .ok (logic = .all) ∧ Node.combined logic context rest = .error f := by
  rw [Node.combined]
  rcases n.holds context with g | b
  · rw [Work.except_error_bind]
    simp
  · rw [Work.except_ok_bind]
    cases logic <;> cases b <;> simp [pure, Except.pure]

mutual

theorem Node.holds_eq_error_iff (n : Node) :
    n.holds context = .error f ↔ ∃ c, n.Comes context c ∧ c.holds context = .error f := by
  cases n with
  | leaf c =>
    constructor
    · intro h
      exact ⟨c, .leaf c, h⟩
    · rintro ⟨_, ⟨⟩, h⟩
      exact h
  | group logic nodes =>
    have hempty : (Node.group logic nodes).holds context = .error f ↔
        Node.combined logic context nodes = .error f := by
      cases nodes with
      | nil => simp [Node.holds, Node.combined]
      | cons n rest => rfl
    rw [hempty, Node.combined_eq_error_iff logic nodes]
    constructor
    · rintro ⟨n, c, hreached, hcomes, h⟩
      exact ⟨c, .member hreached hcomes, h⟩
    · rintro ⟨c, ⟨⟩ | ⟨hreached, hcomes⟩, h⟩
      exact ⟨_, c, hreached, hcomes, h⟩

theorem Node.combined_eq_error_iff (logic : Logic) (nodes : List Node) :
    Node.combined logic context nodes = .error f ↔
      ∃ n c, ReachedIn (fun m => m.holds context = .ok (logic = .all)) nodes n ∧
        n.Comes context c ∧ c.holds context = .error f := by
  cases nodes with
  | nil =>
    apply iff_of_false
    · rintro ⟨⟩
    · rintro ⟨n, _, hreached, _⟩
      exact not_reachedIn_nil n hreached
  | cons n rest =>
    rw [Node.combined_cons_eq_error_iff, Node.holds_eq_error_iff n,
      Node.combined_eq_error_iff logic rest]
    simp only [reachedIn_cons_iff]
    constructor
    · rintro (⟨c, hcomes, h⟩ | ⟨hgoes, m, c, hreached, hcomes, h⟩)
      · exact ⟨n, c, .inl rfl, hcomes, h⟩
      · exact ⟨m, c, .inr ⟨hgoes, hreached⟩, hcomes, h⟩
    · rintro ⟨m, c, rfl | ⟨hgoes, hreached⟩, hcomes, h⟩
      · exact .inl ⟨c, hcomes, h⟩
      · exact .inr ⟨hgoes, m, c, hreached, hcomes, h⟩

end

end Groups

/-- A condition that comes up cannot be evaluated. -/
def Group.Strains (g : Group) (context : Context) (f : Failure) : Prop :=
  ∃ c, g.node.Comes context c ∧ c.Strains context f

theorem Group.holds_eq_error_iff (g : Group) (context : Context) (f : Failure) :
    g.holds context = .error f ↔ g.Strains context f := by
  rw [Group.holds, Node.holds_eq_error_iff]
  simp only [Condition.holds_eq_error_iff, Strains]

namespace Amount

def document : Value := .map [("conditions", .list [.map [("field_id", .text "amount"),
  ("operator", .text "greater_than"), ("value", .int 1), ("value_type", .text "number")]])]

def isLarge : Condition :=
  { field := "amount", operator := .greaterThan, value := .int 1, valueType := .number }

def group : Group := { nodes := [.leaf isLarge] }

def context (amount : Value) : Context :=
  { Context.ofNow ⟨0, Calendar.zero_lt_microCount⟩ with data := [("amount", amount)] }

end Amount

end Formwork
