import Formwork.Proofs.Workflow.Operation
/-!
# Finished submissions

Nothing can be executed, decided or terminated on a submission with a final status. Escalations can be
handed in for it all the same, even none at all, and then the action that follows the chain of its
step is followed, as if the chain had just ended. So a finished submission stays as it is just where
following that action leads back, and off the end steps nothing does.
-/
namespace Formwork

open SubmissionState

namespace WorkflowRequest

variable {r : WorkflowRequest} {s : SubmissionState} {step : Step} {j : Journey}
  {t : Transition} {ids left : Ids}

theorem escalate_returns_of_not_pending {escalations : List Escalation}
    (h : (r.escalate escalations).Returns ids t left) (onState : r.submission.state = some s)
    (hs : s.status ≠ .pendingApproval) :
    ∃ step j between, r.workflow.step? s.step = some step ∧
      (r.followChain step { state := s }).Returns ids j between ∧ t.state = j.state.bump := by
  obtain ⟨step, j, j', between, later, hstep, hescalated, hfollowed, he⟩ := escalate_returns h onState
  rw [escalateAll_of_not_pending escalations hs, Work.pure_returns_iff] at hescalated
  obtain ⟨rfl, rfl⟩ := hescalated
  exact ⟨step, j', later, hstep, hfollowed, he⟩

theorem escalate_nil_of (onState : r.submission.state = some s)
    (anyVersion : r.expectedVersion = none) (onStep : r.workflow.step? s.step = some step)
    (followed : (r.followChain step { state := s }).Returns ids j left)
    (has : r.workflow.Has j.state.step) :
    ∃ t, (r.escalate []).Returns ids t left ∧ t.state = j.state.bump := by
  obtain ⟨t, hfinished, he⟩ := finish_of_has has step left
  refine ⟨t, ?_, he⟩
  have hversion : r.checkVersion s = .ok () := by
    unfold checkVersion
    rw [anyVersion]
  simp only [escalate, escalateAll, Work.bind_returns_iff, Work.lift_returns_iff,
    Work.pure_returns_iff, requireState_of onState, Except.ok.injEq,
    Workflow.requireStep_eq_ok_iff]
  exact ⟨s, ids, ⟨rfl, rfl⟩, (), ids, ⟨hversion, rfl⟩, step, ids, ⟨onStep, rfl⟩, _, ids, ⟨rfl, rfl⟩,
    j, left, followed, hfinished⟩

end WorkflowRequest

namespace Workflow

variable {w : Workflow} {s s' : SubmissionState} {op : Operation}

theorem Calls.escalates (call : w.Calls s op s') (final : s.status.isFinal = true) :
    ∃ escalations, op = .escalate escalations := by
  cases call with
  | answered inWorkflow onState returned =>
    cases op with
    | execute actionId =>
      rw [(WorkflowRequest.execute_returns returned onState).1] at final
      cases final
    | decide ballot =>
      rw [(WorkflowRequest.decide_returns returned onState).1] at final
      cases final
    | terminate status reason =>
      rw [(WorkflowRequest.terminate_returns returned onState).1] at final
      cases final
    | escalate escalations => exact ⟨escalations, rfl⟩

/-- A state leads to another through an action that nobody takes. -/
def FollowsUp (w : Workflow) (s : SubmissionState) (step : Step) (action : StepAction)
    (u : SubmissionState) : Prop :=
  ∃ (e : Surroundings) (ids left : Ids) (j : Journey), e.workflow = w ∧ j.state = u ∧
    (Journey.follow { state := s } e (w.steps.length - 1) step action (some Escalation.system)
      none).Returns ids j left

/-- A state with a final status stays as it is, or the action that follows its chain is followed. -/
theorem Calls.follows (call : w.Calls s op s') (final : s.status.isFinal = true) :
    s' = s.bump ∨ ∃ step action u, w.step? s.step = some step ∧
      WorkflowRequest.chainFollowUp? step s.status = some action ∧ w.FollowsUp s step action u ∧
      s' = u.bump := by
  obtain ⟨escalations, rfl⟩ := call.escalates final
  have hs : s.status ≠ .pendingApproval := by
    intro hp
    rw [hp] at final
    cases final
  cases call with
  | @answered r ids left t inWorkflow onState returned =>
    obtain ⟨step, j, between, hstep, hfollowed, he⟩ :=
      WorkflowRequest.escalate_returns_of_not_pending returned onState hs
    subst inWorkflow
    rcases WorkflowRequest.followChain_returns hfollowed with ⟨-, rfl, -⟩ | ⟨action, haction, hj⟩
    · exact .inl he
    · exact .inr ⟨step, action, j.state, hstep, haction,
        ⟨r.surroundings, ids, between, j, rfl, rfl, hj⟩, he⟩

theorem FollowsUp.calls {step : Step} {action : StepAction} {u : SubmissionState}
    (h : w.FollowsUp s step action u) (onStep : w.step? s.step = some step)
    (haction : WorkflowRequest.chainFollowUp? step s.status = some action) :
    w.Calls s (.escalate []) u.bump := by
  obtain ⟨e, ids, left, j, rfl, rfl, hfollowed⟩ := h
  let r : WorkflowRequest :=
    { submission := { id := "", submitter := ⟨"", none, [], []⟩, state := some s },
      workflow := e.workflow, context := e.context, load := e.load,
      defaultApproval := e.defaultApproval }
  have hchain : (r.followChain step { state := s }).Returns ids j left := by
    unfold WorkflowRequest.followChain
    rw [haction]
    exact hfollowed
  obtain ⟨t, hreturned, he⟩ := WorkflowRequest.escalate_nil_of (r := r) rfl rfl onStep hchain
    (Journey.follow_returns hfollowed).2.has
  rw [← he]
  exact .answered rfl rfl hreturned

/-- Off the end steps, nobody comes back to a final status: where a journey rests at another step, the
status is open again. -/
theorem FollowsUp.leaves {step : Step} {action : StepAction} {u : SubmissionState}
    (h : w.FollowsUp s step action u) (onStep : w.step? s.step = some step)
    (hkind : step.kind ≠ .finish) (final : s.status.isFinal = true) :
    ¬ (u.status = s.status ∧ u.step = s.step) := by
  rintro ⟨hstatus, hsame⟩
  obtain ⟨e, ids, left, j, rfl, rfl, hfollowed⟩ := h
  have hrests : j.state.Rests e.workflow := (Journey.follow_returns hfollowed).2
  have hfinal : j.state.status.isFinal = true := by
    rw [hstatus]
    exact final
  obtain ⟨rest, hrest, hfinish⟩ := hrests.finish hfinal
  rw [hsame, onStep, Option.some.injEq] at hrest
  rw [← hrest] at hfinish
  exact hkind hfinish

/-- All calls leave status and step alone exactly where every way through that action comes back to
both. -/
theorem calls_stay_iff (final : s.status.isFinal = true) :
    (∀ op s', w.Calls s op s' → s'.status = s.status ∧ s'.step = s.step) ↔
      ∀ step action u, w.step? s.step = some step →
        WorkflowRequest.chainFollowUp? step s.status = some action → w.FollowsUp s step action u →
        u.status = s.status ∧ u.step = s.step := by
  constructor
  · intro hstays step action u hstep haction hfollows
    have hcall := hstays _ _ (hfollows.calls hstep haction)
    exact hcall
  · intro hback op s' call
    rcases call.follows final with rfl | ⟨step, action, u, hstep, haction, hfollows, rfl⟩
    · exact ⟨rfl, rfl⟩
    · exact hback step action u hstep haction hfollows

/-- Of a finished submission, only escalations are carried out, and they leave its status and its step
alone exactly where every way through the action that follows its chain comes back to both. Off the
end steps, that is where there is no such way. -/
theorem stays_finished_iff (final : s.status.isFinal = true) :
    (∀ op s', w.Calls s op s' → ∃ escalations, op = .escalate escalations) ∧
    ((∀ op s', w.Calls s op s' → s'.status = s.status ∧ s'.step = s.step) ↔
      ∀ step action u, w.step? s.step = some step →
        WorkflowRequest.chainFollowUp? step s.status = some action → w.FollowsUp s step action u →
        u.status = s.status ∧ u.step = s.step) ∧
    (∀ step, w.step? s.step = some step → step.kind ≠ .finish →
      ((∀ op s', w.Calls s op s' → s'.status = s.status ∧ s'.step = s.step) ↔
        ∀ action, WorkflowRequest.chainFollowUp? step s.status = some action →
          ∀ u, ¬ w.FollowsUp s step action u)) := by
  refine ⟨fun op s' call => call.escalates final, calls_stay_iff final, ?_⟩
  intro step hstep hkind
  rw [calls_stay_iff final]
  constructor
  · intro hback action haction u hfollows
    exact hfollows.leaves hstep hkind final (hback step action u hstep haction hfollows)
  · intro hnone step' action u hstep' haction hfollows
    rw [hstep, Option.some.injEq] at hstep'
    subst hstep'
    exact absurd hfollows (hnone action haction u)

end Workflow

/-! A review by Ann or Bob that a release follows, and a submission that is completed by hand. -/
namespace Release

def noon : Calendar.Instant := ⟨43200000000, Calendar.halfDay_lt_microCount⟩

def action : StepAction :=
  { id := "release", name := none, target := "work", requiredRoles := [], guard := none,
    autoAssign := true, autoActions := [], requiresComment := false, duringApproval := false }

def review : Step :=
  { id := "review", name := none, kind := .approval, actions := [action],
    approval := some { levels := [{ kind := .anyOf, approvers := ["ann", "bob"] }] },
    assignment := none,
    activeStatus := .inProgress, finalStatus := none, onEnter := [], onExit := [],
    onApproved := some "release", onRejected := none }

def work : Step :=
  { id := "work", name := none, kind := .task, actions := [], approval := none, assignment := none,
    activeStatus := .inProgress, finalStatus := none, onEnter := [], onExit := [],
    onApproved := none, onRejected := none }

def workflow : Workflow where
  steps := [review, work]
  startId := some "review"
  sound := by decide

def surroundings : Surroundings := ⟨workflow, .ofNow noon, {}, none⟩

def submission (state : Option SubmissionState) : Submission :=
  { id := "S1", submitter := ⟨"u1", none, [], []⟩, state := state }

def request (s : SubmissionState) : WorkflowRequest :=
  { submission := submission (some s), workflow := workflow, context := .ofNow noon }

/-- The states after the start, after the submission is completed by hand, and after no escalation. -/
def states : Option (SubmissionState × SubmissionState × SubmissionState) := do
  let started ← (surroundings.start (submission none)).answer? {}
  let completed ←
    ((request started.state).perform (.terminate (.text "COMPLETED") .null)).answer? {}
  let escalated ← ((request completed.state).perform (.escalate [])).answer? {}
  pure (started.state, completed.state, escalated.state)

theorem states_eq : states.map (fun (_, s, u) => (s.status, s.step, u.status, u.step)) =
    some (.completed, "review", .inProgress, "work") := by decide +kernel

theorem reached : ∃ s u, workflow.Reachable s ∧ workflow.Calls s (.escalate []) u ∧
    s.status = .completed ∧ s.step = "review" ∧ u.status = .inProgress ∧ u.step = "work" := by
  obtain ⟨⟨_, s, u⟩, hstates, hparts⟩ := Option.map_eq_some_iff.mp states_eq
  simp only [states, Option.bind_eq_bind, Option.bind_eq_some_iff, Option.pure_def,
    Option.some.injEq, Prod.mk.injEq] at hstates
  obtain ⟨started, hstarted, completed, hcompleted, escalated, hescalated, -, rfl, rfl⟩ := hstates
  obtain ⟨_, hstarted⟩ := Work.answer?_eq_some hstarted
  obtain ⟨_, hcompleted⟩ := Work.answer?_eq_some hcompleted
  obtain ⟨_, hescalated⟩ := Work.answer?_eq_some hescalated
  have hreached : workflow.Reachable started.state := .started rfl hstarted
  simp only [Prod.mk.injEq] at hparts
  exact ⟨completed.state, escalated.state, .called hreached (.answered rfl rfl hcompleted),
    .answered rfl rfl hescalated, hparts⟩

end Release

namespace Workflow

/-- The completed submission takes no further decision. -/
theorem stays_finished_iff_completed : ∃ s, Release.workflow.Reachable s ∧
    s.status.isFinal = true ∧
    ∀ op s', Release.workflow.Calls s op s' → ∃ escalations, op = .escalate escalations := by
  obtain ⟨s, _, hreached, -, hstatus, -⟩ := Release.reached
  have final : s.status.isFinal = true := by
    rw [hstatus]
    rfl
  exact ⟨s, hreached, final, (stays_finished_iff final).1⟩

/-- The completed submission is at work again, once no escalation has been carried out on it. -/
theorem not_stays_finished : ¬ ∀ (w : Workflow) (s s' : SubmissionState) (op : Operation),
    w.Reachable s → s.status.isFinal = true → w.Calls s op s' →
      s'.status = s.status ∧ s'.step = s.step := by
  intro hstays
  obtain ⟨s, u, hreached, hcall, hstatus, hstep, -, hmoved⟩ := Release.reached
  have final : s.status.isFinal = true := by
    rw [hstatus]
    rfl
  have hsame := (hstays _ s u _ hreached final hcall).2
  rw [hstep, hmoved] at hsame
  simp at hsame

end Workflow
end Formwork
