import Formwork.Proofs.Automation.Isolation
import Formwork.Proofs.Workflow.Replay
/-!
# A pass of rules over a submission

The transitions that rules make in one pass follow one another: each is made of the state that the
one before it left, and is the next version of it. Nothing is made of a state with a final status, so
the first action that ends the submission is the last one that changes it.
-/
namespace Formwork

/-- Transitions that follow one another from a state: each is made while the status is not final, is
the next version, and goes on with the history. -/
def SubmissionState.Linked : SubmissionState → List Transition → Prop
  | _, [] => True
  | s, t :: later => s.status.isFinal = false ∧ t.state.version = s.version + 1 ∧
      s.history <+: t.state.history ∧ t.state.Linked later

/-- The state after the transitions of some outcomes. -/
def ActionOutcome.lastState (state : SubmissionState) (outcomes : List ActionOutcome) :
    SubmissionState :=
  ((outcomes.filterMap (·.transition)).getLast?.map (·.state)).getD state

namespace Stage

variable {s s' s'' : Stage} {settings : Settings} {rule : BusinessRule} {a : Action}
  {o : ActionOutcome} {ids left : Ids} {state : SubmissionState} {t : Transition}

/-! ## One action -/

/-- A transition is made by an operation on the state in which the submission is, while the status
there is not final. -/
theorem act_calls (h : (s.act settings rule a).Returns ids o left) (made : o.transition = some t) :
    ∃ state w op, s.state? = some state ∧ state.status.isFinal = false ∧
      Workflow.Calls w state op t.state := by
  cases act_comes h with
  | aside _ _ => cases made
  | @ended w state status _ _ _ on onState returned =>
    cases made
    have running := (WorkflowRequest.terminate_returns returned onState).1
    have hperformed :
        (w.perform (.terminate (Document.ofNamed status) (.text rule.source))).Returns _ t _ :=
      returned
    exact ⟨state, w.workflow, _, on, running, .answered rfl onState hperformed⟩
  | @escalated w state first rest _ _ _ _ on onState pending returned =>
    cases made
    have running : state.status.isFinal = false := by rw [pending]; rfl
    have hperformed : (w.perform (.escalate (first :: rest))).Returns _ t _ := returned
    exact ⟨state, w.workflow, _, on, running, .answered rfl onState hperformed⟩

theorem act_ends (h : (s.act settings rule a).Returns ids o left) (kind : o.kind = .changeStatus) :
    ∃ t, o.transition = some t ∧ t.state.status.isFinal = true := by
  cases act_comes h with
  | aside other _ => exact absurd kind other
  | ended _ onState returned =>
    exact ⟨_, rfl, (WorkflowRequest.terminate_ends returned onState).final⟩
  | escalated escalates _ _ _ _ =>
    rw [show a.kind = .changeStatus from kind] at escalates
    cases escalates

theorem quiet_of_still (h : (s.act settings rule a).Returns ids o left)
    (still : o.transition = none) : o.escalations = [] := by
  cases (act_brings h).1 with
  | nothing _ quiet => exact quiet
  | ended _ made => simp [still] at made
  | escalated _ _ made => simp [still] at made

/-! ## One after another -/

theorem lastState_of_none {later : List ActionOutcome} (still : o.transition = none) :
    ActionOutcome.lastState state (o :: later) = ActionOutcome.lastState state later := by
  simp [ActionOutcome.lastState, still]

theorem lastState_of_some {later : List ActionOutcome} (made : o.transition = some t) :
    ActionOutcome.lastState state (o :: later) = ActionOutcome.lastState t.state later := by
  simp only [ActionOutcome.lastState, List.filterMap_cons, made, List.getLast?_cons,
    Option.map_some, Option.getD_some]
  cases (later.filterMap (·.transition)).getLast? <;> rfl

namespace Acts

variable {rules : List BusinessRule} {outcomes before later : List ActionOutcome}

theorem split (h : Acts settings rules s (before ++ later) s') :
    ∃ between, Acts settings rules s before between ∧ Acts settings rules between later s' := by
  induction before generalizing s with
  | nil => exact ⟨s, .done, h⟩
  | cons o rest ih =>
    cases h with
    | acted runs member returned goesOn =>
      obtain ⟨between, hbefore, hlater⟩ := ih goesOn
      exact ⟨between, .acted runs member returned hbefore, hlater⟩
    | failed goesOn =>
      obtain ⟨between, hbefore, hlater⟩ := ih goesOn
      exact ⟨between, .failed hbefore, hlater⟩

theorem state?_eq (h : Acts settings rules s outcomes s') (on : s.state? = some state) :
    s'.state? = some (ActionOutcome.lastState state outcomes) := by
  induction h generalizing state with
  | done => exact on
  | @acted _ _ _ _ o _ _ _ _ _ returned _ ih =>
    cases ht : o.transition with
    | none =>
      rw [lastState_of_none ht]
      exact ih ((after_state?_of_none ht).trans on)
    | some t =>
      rw [lastState_of_some ht]
      exact ih (after_state?_of_some ht on)
  | failed _ ih =>
    rw [lastState_of_none rfl]
    exact ih on

/-- The transitions follow one another from the state in which the submission was. -/
theorem linked (h : Acts settings rules s outcomes s') (on : s.state? = some state) :
    state.Linked (outcomes.filterMap (·.transition)) := by
  induction h generalizing state with
  | done => trivial
  | @acted _ _ _ _ o _ _ _ _ _ returned _ ih =>
    cases ht : o.transition with
    | none =>
      rw [List.filterMap_cons_none ht]
      exact ih ((after_state?_of_none ht).trans on)
    | some t =>
      obtain ⟨state', w, op, on', running, call⟩ := act_calls returned ht
      rw [on, Option.some.injEq] at on'
      subst on'
      obtain ⟨events, htells⟩ := call.continues
      rw [List.filterMap_cons_some ht]
      exact ⟨running, call.advances.1, ⟨events, htells.added.symm⟩,
        ih (after_state?_of_some ht on)⟩
  | failed _ ih =>
    rw [List.filterMap_cons_none rfl]
    exact ih on

/-- On a submission with a final status, as on one that is in no workflow, nothing is changed any
more, and whoever wants to change the status fails. -/
theorem still (h : Acts settings rules s outcomes s')
    (idle : ∀ state, s.state? = some state → state.status.isFinal = true) :
    ∀ o ∈ outcomes, o.transition = none ∧ o.escalations = [] ∧
      (o.kind = .changeStatus → o.success = false) := by
  induction h with
  | done => simp
  | @acted _ _ _ _ o _ _ _ _ _ returned _ ih =>
    have hstill : o.transition = none := by
      cases ht : o.transition with
      | none => rfl
      | some t =>
        obtain ⟨state, _, _, on, running, -⟩ := act_calls returned ht
        rw [idle state on] at running
        cases running
    have hkind : o.kind ≠ .changeStatus := by
      intro kind
      obtain ⟨t, ht, -⟩ := act_ends returned kind
      rw [hstill] at ht
      cases ht
    refine List.forall_mem_cons.mpr
      ⟨⟨hstill, quiet_of_still returned hstill, fun kind => absurd kind hkind⟩, ih ?_⟩
    rw [after_state?_of_none hstill]
    exact idle
  | failed _ ih => exact List.forall_mem_cons.mpr ⟨⟨rfl, rfl, fun _ => rfl⟩, ih idle⟩

theorem ends (h : Acts settings rules s outcomes s') : ∀ o ∈ outcomes, o.kind = .changeStatus →
    o.success = true → ∃ t, o.transition = some t ∧ t.state.status.isFinal = true := by
  induction h with
  | done => simp
  | acted _ _ returned _ ih =>
    exact List.forall_mem_cons.mpr ⟨fun kind _ => act_ends returned kind, ih⟩
  | failed _ ih =>
    refine List.forall_mem_cons.mpr ⟨fun _ success => ?_, ih⟩
    cases success

theorem ends_once (h : Acts settings rules s outcomes s') :
    outcomes.countP (fun o => o.kind = .changeStatus ∧ o.success) ≤ 1 := by
  induction h with
  | done => simp
  | @acted _ _ _ _ o _ _ later _ _ returned goesOn ih =>
    by_cases kind : o.kind = .changeStatus
    · obtain ⟨t, ht, final⟩ := act_ends returned kind
      obtain ⟨state, _, _, on, -, -⟩ := act_calls returned ht
      have hlater : later.countP (fun o => o.kind = .changeStatus ∧ o.success) = 0 := by
        have hidle := goesOn.still fun state' on' => by
          rw [after_state?_of_some ht on, Option.some.injEq] at on'
          exact on' ▸ final
        rw [List.countP_eq_zero]
        intro o' ho'
        simp only [decide_eq_true_eq, not_and, Bool.not_eq_true]
        exact (hidle o' ho').2.2
      rw [List.countP_cons, hlater]
      split <;> simp
    · rw [List.countP_cons_of_neg (by simp [kind])]
      exact ih
  | failed _ ih =>
    rw [List.countP_cons_of_neg (by simp)]
    exact ih

end Acts
end Stage

namespace BusinessRule

variable {trigger : Trigger} {event : TriggerEvent} {settings : Settings} {stage : Stage}
  {rules : List BusinessRule} {results : List RuleResult} {ids left : Ids}

/-- The transitions of a pass follow one another from the state in which the submission was, and
none is made of a state with a final status. From then on nothing is changed: whoever wants to change
the status fails, and his rule with him, and nothing is escalated. So at most one action changes the
status, and none does where it was final before. -/
theorem evaluate_links
    (returned : (evaluate rules trigger event settings stage).Returns ids results left) :
    (stage.state? = none → ∀ o ∈ results.flatMap (·.actions), o.transition = none) ∧
    (∀ state, stage.state? = some state →
      state.Linked ((results.flatMap (·.actions)).filterMap (·.transition)) ∧
      (state.status.isFinal = true → ∀ o ∈ results.flatMap (·.actions), o.transition = none) ∧
      ∀ before later, results.flatMap (·.actions) = before ++ later →
        (ActionOutcome.lastState state before).status.isFinal = true →
        ∀ o ∈ later, o.transition = none ∧ o.escalations = [] ∧
          (o.kind = .changeStatus → o.success = false)) ∧
    (∀ o ∈ results.flatMap (·.actions), o.kind = .changeStatus → o.success = true →
      ∃ t, o.transition = some t ∧ t.state.status.isFinal = true) ∧
    (results.flatMap (·.actions)).countP (fun o => o.kind = .changeStatus ∧ o.success) ≤ 1 ∧
    ∀ result ∈ results, ∀ o ∈ result.actions, o.success = false →
      result.success = false ∧ result.actions.getLast? = some o := by
  obtain ⟨s', hacts⟩ := evaluate_acts returned
  obtain ⟨_, _, -, hruns⟩ := evaluate_runs returned
  refine ⟨?none, ?some, hacts.ends, hacts.ends_once, RuleResult.fails_within hruns.records⟩
  case none =>
    intro hnone o ho
    refine (hacts.still (fun state on => ?_) o ho).1
    rw [hnone] at on
    cases on
  case some =>
    intro state on
    refine ⟨hacts.linked on, fun final o ho => ?_, fun before later hsplit final => ?_⟩
    · refine (hacts.still (fun state' on' => ?_) o ho).1
      rw [on, Option.some.injEq] at on'
      exact on' ▸ final
    · rw [hsplit] at hacts
      obtain ⟨between, hbefore, hlater⟩ := hacts.split
      refine hlater.still fun state' on' => ?_
      rw [hbefore.state?_eq on, Option.some.injEq] at on'
      exact on' ▸ final

end BusinessRule

/-! A review that one rule cancels before another one completes it, and a third one escalates what
is overdue. -/
namespace Recall

open Release (noon)
open Mishap (rule)

def rules : List BusinessRule :=
  [rule "cancel" 2 [.changeStatus .cancelled], rule "complete" 1 [.changeStatus .completed],
    rule "hurry" 0 [.escalate none]]

def state : SubmissionState := { step := "review", status := .inProgress }

def stage : Stage := { context := .ofNow noon, workflow := some (Release.request state) }

def pass : Work (List RuleResult) :=
  BusinessRule.evaluate rules .scheduled { trigger := .scheduled } {} stage

theorem select_eq : BusinessRule.select rules .scheduled { trigger := .scheduled } stage.context =
    .ok rules :=
  congrArg Except.ok (List.mergeSort_of_pairwise (by decide))

theorem pass_eq : (pass.answer? {}).map (·.map fun r =>
      (r.rule, r.success, r.transitions.map (·.state.status))) =
    some [("cancel", true, [.cancelled]), ("complete", false, []), ("hurry", true, [])] := by
  rw [pass, BusinessRule.evaluate_of_select select_eq]
  decide +kernel

end Recall

namespace BusinessRule

/-- The review is cancelled, and nothing more. -/
theorem evaluate_links_recall : ∃ results left, Recall.pass.Returns {} results left ∧
    results.map (fun r => (r.rule, r.success, r.transitions.map (·.state.status))) =
      [("cancel", true, [.cancelled]), ("complete", false, []), ("hurry", true, [])] ∧
    Recall.state.Linked ((results.flatMap (·.actions)).filterMap (·.transition)) ∧
    (results.flatMap (·.actions)).countP (fun o => o.kind = .changeStatus ∧ o.success) ≤ 1 := by
  obtain ⟨results, hanswer, hparts⟩ := Option.map_eq_some_iff.mp Recall.pass_eq
  obtain ⟨left, hreturned⟩ := Work.answer?_eq_some hanswer
  obtain ⟨-, hsome, -, honce, -⟩ := evaluate_links hreturned
  exact ⟨results, left, hreturned, hparts, (hsome Recall.state rfl).1, honce⟩

end BusinessRule
end Formwork
