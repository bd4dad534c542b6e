import Formwork.Proofs.Workflow.Journey
import Formwork.Proofs.Approval.Turn
/-!
# Operations on a submission

A submission is started, and then operations are carried out on it, each on the state that the one
before it left. Such a state is always on a step of its workflow, and each operation that is carried
out makes the next version.
-/
namespace Formwork

open Calendar SubmissionState

/-- What is asked for on a submission. -/
inductive Operation where
  | execute (actionId : String)
  | decide (ballot : Ballot)
  | terminate (status reason : Value)
  | escalate (escalations : List Escalation)

namespace WorkflowRequest

variable {r : WorkflowRequest} {s : SubmissionState} {step : Step} {j j' : Journey}
  {t : Transition} {ids left : Ids}

def perform (r : WorkflowRequest) : Operation → Work Transition
  | .execute actionId => r.execute actionId
  | .decide ballot => r.decide (.ok ballot)
  | .terminate status reason => r.terminate status reason
  | .escalate escalations => r.escalate escalations

theorem requireState_of (h : r.submission.state = some s) : r.requireState = .ok s := by
  unfold requireState
  rw [h]

theorem checkNotFinal_eq_ok_iff : r.checkNotFinal s = .ok () ↔ s.status.isFinal = false := by
  unfold checkNotFinal
  cases s.status.isFinal <;> simp

/-! ## Answers -/

theorem finish_returns (h : (r.finish j step).Returns ids t left) : t.state = j.state.bump := by
  unfold finish at h
  rw [Work.lift_returns_iff] at h
  exact Journey.transition_eq_ok h.1

theorem finish_of_has (h : r.workflow.Has j.state.step) (step : Step) (ids : Ids) :
    ∃ t, (r.finish j step).Returns ids t ids ∧ t.state = j.state.bump := by
  have hbumped :
      r.surroundings.workflow.Has ({ j with state := j.state.bump } : Journey).state.step := h
  obtain ⟨t, ht, he⟩ := Journey.transition_of_has hbumped (some step.id)
  refine ⟨t, ?_, he⟩
  unfold finish
  rw [Work.lift_returns_iff]
  exact ⟨ht, rfl⟩

theorem applyOutcome_returns {outcome : ApprovalOutcome} {actor : String} {kind : EventKind}
    {details : Entries Value} {u : SubmissionState}
    (h : (r.applyOutcome s step outcome actor kind details).Returns ids u left) :
    u.step = s.step ∧ u.version = s.version ∧ u.chain = outcome.chain ∧
      u.status = outcome.status := by
  simp only [applyOutcome, Work.bind_returns_iff] at h
  obtain ⟨noted, _, hnoted, h⟩ := h
  obtain ⟨event, he⟩ := note_returns hnoted
  rw [noteStatus_returns h, he]
  exact ⟨rfl, rfl, rfl, rfl⟩

/-! ## What the operations come to -/

theorem execute_returns {actionId : String} (h : (r.execute actionId).Returns ids t left)
    (onState : r.submission.state = some s) :
    s.status.isFinal = false ∧ ∃ step action j between,
      (Journey.follow { state := s } r.surroundings r.stepCount step action r.actor
        r.comments).Returns ids j between ∧ t.state = j.state.bump := by
  simp only [execute, Work.bind_returns_iff, Work.lift_returns_iff] at h
  obtain ⟨⟨state, step, action⟩, _, ⟨hresolved, rfl⟩, j, between, hfollowed, h⟩ := h
  simp only [resolve, Work.except_bind_eq_ok_iff, requireState_of onState] at hresolved
  obtain ⟨state', hstate, _, -, _, hopen, _, -, _, -, _, -, he⟩ := hresolved
  simp only [Except.ok.injEq] at hstate
  simp only [pure, Except.pure, Except.ok.injEq, Prod.mk.injEq] at he
  obtain ⟨rfl, rfl, rfl⟩ := he
  subst hstate
  exact ⟨checkNotFinal_eq_ok_iff.mp hopen, _, _, j, between, hfollowed, finish_returns h⟩

theorem terminate_returns {status reason : Value}
    (h : (r.terminate status reason).Returns ids t left) (onState : r.submission.state = some s) :
    s.status.isFinal = false ∧ ∃ u, s.Leads r.workflow u ∧ t.state = u.bump := by
  simp only [terminate, Work.bind_returns_iff, Work.lift_returns_iff, requireState_of onState] at h
  obtain ⟨status', _, ⟨-, rfl⟩, h⟩ := h
  split at h
  · simp [Work.bind_returns_iff] at h
  · simp only [Work.bind_returns_iff, Work.lift_returns_iff, Except.ok.injEq] at h
    obtain ⟨state, _, ⟨rfl, -⟩, _, _, -, _, _, ⟨hopen, -⟩, step, _, -, ended, _, hnoted, h⟩ := h
    obtain ⟨event, he⟩ := note_returns hnoted
    refine ⟨checkNotFinal_eq_ok_iff.mp hopen, ended, ?_, finish_returns h⟩
    rw [he]
    exact .of_step rfl rfl

/-- The chain's own action is followed, if the chain has ended and its step names one. -/
theorem followChain_returns (h : (r.followChain step j).Returns ids j' left) :
    (chainFollowUp? step j.state.status = none ∧ j' = j ∧ left = ids) ∨
      ∃ action, chainFollowUp? step j.state.status = some action ∧
        (j.follow r.surroundings (r.stepCount - 1) step action (some Escalation.system)
          none).Returns ids j' left := by
  unfold followChain at h
  cases haction : chainFollowUp? step j.state.status with
  | none =>
    rw [haction, Work.pure_returns_iff] at h
    exact .inl ⟨rfl, h.1.symm, h.2.symm⟩
  | some action =>
    rw [haction] at h
    exact .inr ⟨action, rfl, h⟩

theorem followChain_leads (h : (r.followChain step j).Returns ids j' left) :
    j.state.Leads r.workflow j'.state := by
  rcases followChain_returns h with ⟨-, rfl, -⟩ | ⟨action, -, hfollowed⟩
  · exact .refl r.workflow j'.state
  · exact Journey.follow_leads hfollowed

theorem decide_returns {ballot : Except Failure Ballot} (h : (r.decide ballot).Returns ids t left)
    (onState : r.submission.state = some s) :
    s.status = .pendingApproval ∧ ∃ u, s.Leads r.workflow u ∧ t.state = u.bump := by
  simp only [decide, Work.bind_returns_iff, Work.lift_returns_iff, requireState_of onState,
    Except.ok.injEq] at h
  obtain ⟨state, _, ⟨rfl, -⟩, step, _, -, config, _, -, ballot', _, -, outcome, _, hprocessed,
    next, _, happlied, j, _, hfollowed, h⟩ := h
  obtain ⟨state, record, htarget, -⟩ := ApprovalRequest.process_returns hprocessed
  obtain ⟨hstate, hpending, -⟩ := ApprovalRequest.target_eq_ok htarget
  rw [onState, Option.some.injEq] at hstate
  obtain ⟨hstep, hversion, -⟩ := applyOutcome_returns happlied
  subst hstate
  exact ⟨hpending, j.state, (Leads.of_step hversion hstep).trans (followChain_leads hfollowed),
    finish_returns h⟩

theorem escalateAll_returns {escalations : List Escalation}
    (h : (r.escalateAll step escalations j).Returns ids j' left) :
    j'.state.step = j.state.step ∧ j'.state.version = j.state.version := by
  induction escalations generalizing j ids with
  | nil =>
    simp only [escalateAll, Work.pure_returns_iff] at h
    rw [← h.1]
    exact ⟨rfl, rfl⟩
  | cons e rest ih =>
    unfold escalateAll at h
    split at h
    · simp only [Work.bind_returns_iff] at h
      obtain ⟨outcome, _, -, state, _, happlied, made, _, -, h⟩ := h
      obtain ⟨hstep, hversion, -⟩ := applyOutcome_returns happlied
      have hrest := ih h
      exact ⟨hrest.1.trans hstep, hrest.2.trans hversion⟩
    · simp only [Work.pure_returns_iff] at h
      rw [← h.1]
      exact ⟨rfl, rfl⟩

theorem escalateAll_of_not_pending (escalations : List Escalation)
    (h : j.state.status ≠ .pendingApproval) : r.escalateAll step escalations j = pure j := by
  cases escalations with
  | nil => rfl
  | cons e rest =>
    unfold escalateAll
    rw [if_neg h]

theorem escalate_returns {escalations : List Escalation}
    (h : (r.escalate escalations).Returns ids t left) (onState : r.submission.state = some s) :
    ∃ step j j' between later, r.workflow.step? s.step = some step ∧
      (r.escalateAll step escalations { state := s }).Returns ids j between ∧
      (r.followChain step j).Returns between j' later ∧ t.state = j'.state.bump := by
  simp only [escalate, Work.bind_returns_iff, Work.lift_returns_iff, requireState_of onState,
    Except.ok.injEq, Workflow.requireStep_eq_ok_iff] at h
  obtain ⟨state, _, ⟨rfl, rfl⟩, _, _, ⟨-, rfl⟩, step, _, ⟨hstep, rfl⟩, j, between, hescalated,
    j', later, hfollowed, h⟩ := h
  exact ⟨step, j, j', between, later, hstep, hescalated, hfollowed, finish_returns h⟩

theorem perform_returns {op : Operation} (h : (r.perform op).Returns ids t left)
    (onState : r.submission.state = some s) :
    ∃ u, s.Leads r.workflow u ∧ t.state = u.bump := by
  cases op with
  | execute actionId =>
    obtain ⟨-, step, action, j, _, hfollowed, he⟩ := execute_returns h onState
    exact ⟨j.state, Journey.follow_leads hfollowed, he⟩
  | decide ballot =>
    obtain ⟨-, u, hleads, he⟩ := decide_returns h onState
    exact ⟨u, hleads, he⟩
  | terminate status reason =>
    obtain ⟨-, u, hleads, he⟩ := terminate_returns h onState
    exact ⟨u, hleads, he⟩
  | escalate escalations =>
    obtain ⟨step, j, j', _, _, -, hescalated, hfollowed, he⟩ := escalate_returns h onState
    obtain ⟨hstep, hversion⟩ := escalateAll_returns hescalated
    exact ⟨j'.state, (Leads.of_step hversion hstep).trans (followChain_leads hfollowed), he⟩

end WorkflowRequest

/-! ## States that are reached -/

theorem Surroundings.start_returns {e : Surroundings} {submission : Submission} {ids left : Ids}
    {t : Transition} (h : (e.start submission).Returns ids t left) :
    t.state.Rests e.workflow := by
  simp only [start, Work.bind_returns_iff, Work.lift_returns_iff] at h
  obtain ⟨noted, _, hnoted, j, _, hentered, htransition, -⟩ := h
  obtain ⟨event, he⟩ := note_returns hnoted
  have here : noted.step = e.workflow.start.id := by
    rw [he]
    rfl
  rw [Journey.transition_eq_ok htransition]
  exact (Journey.enter_returns hentered e.workflow.step?_start here).2

namespace Workflow

variable {w : Workflow} {s s' : SubmissionState} {op : Operation}

/-- An operation is carried out on a state, and answers with another one. -/
inductive Calls (w : Workflow) (s : SubmissionState) (op : Operation) : SubmissionState → Prop
  | answered {r : WorkflowRequest} {ids left : Ids} {t : Transition} (inWorkflow : r.workflow = w)
      (onState : r.submission.state = some s) (returned : (r.perform op).Returns ids t left) :
      Calls w s op t.state

/-- The states to which a start leads and any operations after it. -/
inductive Reachable (w : Workflow) : SubmissionState → Prop
  | started {e : Surroundings} {submission : Submission} {ids left : Ids} {t : Transition}
      (inWorkflow : e.workflow = w) (returned : (e.start submission).Returns ids t left) :
      Reachable w t.state
  | called {s s' : SubmissionState} {op : Operation} (reached : Reachable w s)
      (call : w.Calls s op s') : Reachable w s'

theorem Calls.advances (call : w.Calls s op s') :
    s'.version = s.version + 1 ∧ (w.Has s.step → w.Has s'.step) := by
  cases call with
  | answered inWorkflow onState returned =>
    obtain ⟨u, hleads, he⟩ := WorkflowRequest.perform_returns returned onState
    rw [he, ← inWorkflow, version_bump, hleads.version]
    exact ⟨rfl, hleads.has⟩

theorem Reachable.has (reached : w.Reachable s) : w.Has s.step := by
  induction reached with
  | started inWorkflow returned =>
    rw [← inWorkflow]
    exact (Surroundings.start_returns returned).has
  | called _ call ih => exact call.advances.2 ih

end Workflow
end Formwork
