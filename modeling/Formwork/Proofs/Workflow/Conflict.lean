import Mathlib
import Formwork.Proofs.Approval.Refused
import Formwork.Proofs.Workflow.Finished
/-!
# Stale versions

Each operation that is carried out makes the next version, so a request that was made on an earlier
one is answered with a conflict. A decision looks for the approval chain of the current step first,
and where the submission has moved on to a step without one, that is what the answer speaks of.
-/
namespace Formwork

open Document

namespace WorkflowRequest

variable {r : WorkflowRequest} {s : SubmissionState} {step : Step} {version : Int} {ids : Ids}

/-- The refusal of an operation on a version that is not the present one. -/
def conflict (r : WorkflowRequest) (s : SubmissionState) (version : Int) (op : Operation) : Failure :=
  let message :=
    match op with
    | .decide _ => "Submission was modified by another decision; re-read and retry"
    | _ => "Workflow state was modified concurrently; re-read and retry"
  .refuse .concurrency message
    [r.submission.detail, ("expected_version", .int version), ("actual_version", .int s.version)]

/-- The refusal of a decision on a step without an approval chain. -/
def noChain (step : Step) : Failure :=
  .refuse .configuration s!"Approval step '{step.id}' has no approval configuration"
    [("step_id", .text step.id)]

theorem conflict_ne_noChain (op : Operation) : r.conflict s version op ≠ noChain step := by
  intro h
  simp [conflict, noChain, Failure.refuse] at h

theorem checkVersion_of_stale {op : Operation} (stale : r.expectedVersion = some version)
    (changed : version ≠ s.version) (other : ∀ ballot, op ≠ .decide ballot) :
    r.checkVersion s = .error (r.conflict s version op) := by
  unfold checkVersion
  rw [stale]
  cases op with
  | decide ballot => exact absurd rfl (other ballot)
  | execute _ => simp [changed, conflict]
  | terminate _ _ => simp [changed, conflict]
  | escalate _ => simp [changed, conflict]

section Stale

variable (onState : r.submission.state = some s) (stale : r.expectedVersion = some version)
  (changed : version ≠ s.version)

include onState stale changed

theorem perform_fails_of_stale {op : Operation} (other : ∀ ballot, op ≠ .decide ballot)
    (final : ∀ status reason, op = .terminate status reason →
      ∃ f, Status.ofValue status = .ok f ∧ f.isFinal = true) (ids : Ids) :
    (r.perform op).Fails ids (r.conflict s version op) := by
  have hstate : r.requireState = .ok s := requireState_of onState
  have hversion := checkVersion_of_stale stale changed other
  cases op with
  | execute actionId =>
    have hresolved : r.resolve actionId = .error (r.conflict s version (.execute actionId)) := by
      unfold resolve
      rw [hstate, Work.except_ok_bind, hversion, Work.except_error_bind]
    change (r.execute actionId).Fails ids _
    unfold execute
    rw [hresolved, Work.lift_error_bind, Work.throw_fails_iff]
  | decide ballot => exact absurd rfl (other ballot)
  | terminate status reason =>
    obtain ⟨f, hstatus, hfinal⟩ := final status reason rfl
    change (r.terminate status reason).Fails ids _
    unfold terminate
    rw [hstatus, Work.lift_ok_bind]
    simp only [hfinal, Bool.not_true, Bool.false_eq_true, ↓reduceIte]
    rw [hstate, Work.lift_ok_bind, hversion, Work.lift_error_bind, Work.throw_fails_iff]
  | escalate escalations =>
    change (r.escalate escalations).Fails ids _
    unfold escalate
    rw [hstate, Work.lift_ok_bind, hversion, Work.lift_error_bind, Work.throw_fails_iff]

/-- A decision fails on a stale version, if there is a chain that it could be for. -/
theorem decide_fails_of_stale (onStep : r.workflow.step? s.step = some step) (ballot : Ballot)
    {config : ApprovalConfig} (asked : step.approval.or r.defaultApproval = some config)
    (ids : Ids) : (r.perform (.decide ballot)).Fails ids (r.conflict s version (.decide ballot)) := by
  have hconfig : r.surroundings.approvalConfig step = .ok config := by
    have hdefault : r.surroundings.defaultApproval = r.defaultApproval := rfl
    unfold Surroundings.approvalConfig
    rw [hdefault, asked]
  change (r.decide (.ok ballot)).Fails ids _
  unfold decide
  rw [requireState_of onState, Work.lift_ok_bind, Workflow.requireStep_eq_ok_iff.mpr onStep,
    Work.lift_ok_bind, hconfig, Work.lift_ok_bind, Work.lift_ok_bind]
  dsimp only
  rw [Work.bind_fails_iff]
  left
  unfold ApprovalRequest.process
  rw [ApprovalRequest.target_of_stale onState stale changed, Work.lift_error_bind,
    Work.throw_fails_iff]
  rfl

omit stale changed in
theorem decide_fails_of_noChain (onStep : r.workflow.step? s.step = some step) (ballot : Ballot)
    (unasked : step.approval.or r.defaultApproval = none) (ids : Ids) :
    (r.perform (.decide ballot)).Fails ids (noChain step) := by
  have hconfig : r.surroundings.approvalConfig step = .error (noChain step) := by
    have hdefault : r.surroundings.defaultApproval = r.defaultApproval := rfl
    unfold Surroundings.approvalConfig
    rw [hdefault, unasked]
    rfl
  change (r.decide (.ok ballot)).Fails ids _
  unfold decide
  rw [requireState_of onState, Work.lift_ok_bind, Workflow.requireStep_eq_ok_iff.mpr onStep,
    Work.lift_ok_bind, hconfig, Work.lift_error_bind, Work.throw_fails_iff]

end Stale

end WorkflowRequest

namespace Workflow

open WorkflowRequest

/-- What is asked for on a version that is not the present one is answered with a conflict, except for
a decision where there is no approval chain, which is refused for that. Whatever is carried out
leaves the version that it was asked for on behind. -/
theorem Reachable.stale_conflict_iff {w : Workflow} {s : SubmissionState} {r : WorkflowRequest}
    {version : Int} (reached : w.Reachable s) (inWorkflow : r.workflow = w)
    (onState : r.submission.state = some s) (stale : r.expectedVersion = some version)
    (changed : version ≠ s.version) (op : Operation)
    (final : ∀ status reason, op = .terminate status reason →
      ∃ f, Status.ofValue status = .ok f ∧ f.isFinal = true) (ids : Ids) :
    ((r.perform op).Fails ids (r.conflict s version op) ↔
      ∀ ballot, op = .decide ballot → ∃ step config, w.step? s.step = some step ∧
        step.approval.or r.defaultApproval = some config) ∧
    (∀ ballot step, op = .decide ballot → w.step? s.step = some step →
      step.approval.or r.defaultApproval = none → (r.perform op).Fails ids (noChain step)) ∧
    (∀ op' s', w.Calls s op' s' → w.Reachable s' ∧ s.version ≠ s'.version) := by
  subst inWorkflow
  refine ⟨⟨?_, ?_⟩, ?_, ?_⟩
  · rintro hfails ballot rfl
    obtain ⟨step, hstep⟩ := reached.has
    cases hasked : step.approval.or r.defaultApproval with
    | none =>
      have hrefused := decide_fails_of_noChain onState hstep ballot hasked ids
      exact absurd (hfails.unique hrefused) (conflict_ne_noChain _)
    | some config => exact ⟨step, config, hstep, hasked⟩
  · intro hasked
    cases op with
    | decide ballot =>
      obtain ⟨step, config, hstep, hconfig⟩ := hasked ballot rfl
      exact decide_fails_of_stale onState stale changed hstep ballot hconfig ids
    | execute actionId =>
      exact perform_fails_of_stale onState stale changed (fun _ he => by cases he) final ids
    | terminate status reason =>
      exact perform_fails_of_stale onState stale changed (fun _ he => by cases he) final ids
    | escalate escalations =>
      exact perform_fails_of_stale onState stale changed (fun _ he => by cases he) final ids
  · rintro ballot step rfl hstep hunasked
    exact decide_fails_of_noChain onState hstep ballot hunasked ids
  · intro op' s' call
    refine ⟨.called reached call, ?_⟩
    rw [call.advances.1]
    omega

end Workflow

namespace Release

def approval (approver : String) : Operation :=
  .decide { approver := approver, roles := none, decision := .approve, delegate := none }

/-- The states before and after Ann approves the review. -/
def decided : Option (SubmissionState × SubmissionState) := do
  let started ← (surroundings.start (submission none)).answer? {}
  let approved ← ((request started.state).perform (approval "ann")).answer? {}
  pure (started.state, approved.state)

theorem decided_eq : decided.map (fun (s, u) => (s.step, s.version, u.step, u.version)) =
    some ("review", 0, "work", 1) := by cbv

theorem reached_work : ∃ s u, workflow.Reachable s ∧ workflow.Calls s (approval "ann") u ∧
    s.step = "review" ∧ s.version = 0 ∧ u.step = "work" ∧ u.version = 1 := by
  obtain ⟨⟨s, u⟩, hdecided, hparts⟩ := Option.map_eq_some_iff.mp decided_eq
  simp only [decided, Option.bind_eq_bind, Option.bind_eq_some_iff, Option.pure_def,
    Option.some.injEq, Prod.mk.injEq] at hdecided
  obtain ⟨started, hstarted, approved, happroved, rfl, rfl⟩ := hdecided
  obtain ⟨_, hstarted⟩ := Work.answer?_eq_some hstarted
  obtain ⟨_, happroved⟩ := Work.answer?_eq_some happroved
  simp only [Prod.mk.injEq] at hparts
  exact ⟨started.state, approved.state, .started rfl hstarted, .answered rfl rfl happroved, hparts⟩

end Release

namespace Workflow

open WorkflowRequest

/-- Once Ann has approved, a release on what was read before is a conflict. -/
theorem stale_conflict_iff_release : ∃ s u, Release.workflow.Reachable s ∧
    Release.workflow.Calls s (Release.approval "ann") u ∧
    ({ Release.request u with expectedVersion := some s.version }.perform
      (.execute "release")).Fails {}
        ({ Release.request u with expectedVersion := some s.version }.conflict u s.version
          (.execute "release")) := by
  obtain ⟨s, u, hreached, hcall, -, hs, -, hu⟩ := Release.reached_work
  have changed : s.version ≠ u.version := by
    rw [hs, hu]
    decide
  have hreachedU : Release.workflow.Reachable u := .called hreached hcall
  have hanswer := Reachable.stale_conflict_iff hreachedU
    (r := { Release.request u with expectedVersion := some s.version }) rfl rfl rfl changed
    (.execute "release") (fun _ _ he => by cases he) {}
  exact ⟨s, u, hreached, hcall, hanswer.1.mpr fun _ he => by cases he⟩

/-- Once Ann has approved, Bob's approval of what he read before is refused, but not as a conflict. -/
theorem not_always_conflict : ¬ ∀ (w : Workflow) (s : SubmissionState) (r : WorkflowRequest)
    (version : Int) (op : Operation) (ids : Ids), w.Reachable s → r.workflow = w →
    r.submission.state = some s → r.expectedVersion = some version → version ≠ s.version →
    (∀ status reason, op = .terminate status reason →
      ∃ f, Status.ofValue status = .ok f ∧ f.isFinal = true) →
    ∃ message details, (r.perform op).Fails ids (.refuse .concurrency message details) := by
  intro hconflict
  obtain ⟨s, u, hreached, hcall, -, hs, hu, hv⟩ := Release.reached_work
  have changed : s.version ≠ u.version := by
    rw [hs, hv]
    decide
  have hreachedU : Release.workflow.Reachable u := .called hreached hcall
  obtain ⟨message, details, hfails⟩ := hconflict Release.workflow u
    { Release.request u with expectedVersion := some s.version } s.version (Release.approval "bob")
    {} hreachedU rfl rfl rfl changed (fun _ _ he => by cases he)
  have hstep : Release.workflow.step? u.step = some Release.work := by
    rw [hu]
    rfl
  have hrefused := decide_fails_of_noChain
    (r := { Release.request u with expectedVersion := some s.version }) rfl hstep
    { approver := "bob", roles := none, decision := .approve, delegate := none } rfl {}
  have he := hfails.unique hrefused
  simp [noChain, Failure.refuse] at he

end Workflow
end Formwork
