import Formwork.Proofs.Approval.Timing
import Formwork.Proofs.Workflow.Books
import Formwork.Proofs.Workflow.Walk
/-!
# Waiting along the way

A way from step to step puts records into the chain where a round is started, and leaves records
undecided where a step is left. Whatever holds of all records before and is not lost in these two
ways holds of them in the end. So if no configuration asks for a decision at once, every record of a
submission may wait for some time, and says at which instant that time began.
-/
namespace Formwork

open Calendar

namespace Surroundings

variable {e : Surroundings}

/-- No chain that is configured for a step of the workflow has a limit that is over at once. -/
def Patient (e : Surroundings) : Prop :=
  ∀ step ∈ e.workflow.steps, ∀ config, e.approvalConfig step = .ok config → config.Patient

/-- It is enough that no step says otherwise, nor the configuration for steps that say nothing. -/
theorem Patient.of_configs
    (steps : ∀ step ∈ e.workflow.steps, ∀ config, step.approval = some config → config.Patient)
    (default : ∀ config, e.defaultApproval = some config → config.Patient) : e.Patient := by
  intro step onStep config hconfig
  rw [approvalConfig_eq_ok_iff, Option.or_eq_some_iff] at hconfig
  rcases hconfig with hown | ⟨-, hdefault⟩
  · exact steps step onStep config hown
  · exact default config hdefault

/-- What holds of records is not lost on a way: it holds of the records of each round that may be
started, and still holds of those that are left undecided. -/
structure Keeps (e : Surroundings) (kept : ApprovalRecord → Prop) : Prop where
  skipped : ∀ r : ApprovalRecord, kept r → kept { r with status := .skipped }
  asked : ∀ step ∈ e.workflow.steps, ∀ config, e.approvalConfig step = .ok config →
    ∀ round ids records left, (config.startChain e.context round).Returns ids records left →
      ∀ r ∈ records, kept r

theorem Patient.keeps_timely (patient : e.Patient) : e.Keeps ApprovalRecord.Timely where
  skipped _ hr := ⟨hr.limit, hr.since⟩
  asked step onStep config hconfig _ _ _ _ hrecords r hr :=
    (config.startChain_laidOut hrecords r hr).timely (patient step onStep config hconfig)

end Surroundings

/-! ## Along the way -/

theorem Journey.settle_chain {e : Surroundings} {j j' : Journey} {step : Step}
    {next : Option StepAction} {actor : Option String} {ids left : Ids} {records : Chain}
    (h : (j.settle e step actor records).Returns ids (j', next) left) :
    j'.state.chain = j.state.chain ++ records := by
  unfold settle at h
  split at h
  · rename_i hnobody
    simp only [Journey.noteStatus, Work.bind_returns_iff, Work.pure_returns_iff,
      Prod.mk.injEq] at h
    obtain ⟨_, _, ⟨state, _, hnoted, rfl, -⟩, ⟨rfl, -⟩, -⟩ := h
    rw [SubmissionState.noteStatus_returns hnoted, List.isEmpty_iff.mp hnobody, List.append_nil]
    rfl
  · simp only [Journey.startRound, Journey.noteStatus, Work.bind_returns_iff,
      Work.pure_returns_iff, Prod.mk.injEq] at h
    obtain ⟨_, _, ⟨started, _, hstarted, rfl, -⟩, _, _, ⟨state, _, hnoted, rfl, -⟩, ⟨rfl, -⟩,
      -⟩ := h
    rw [SubmissionState.noteStatus_returns hnoted, (SubmissionState.note_notes hstarted).same]

namespace Surroundings.Keeps

open SubmissionState

variable {e : Surroundings} {kept : ApprovalRecord → Prop} {j j' : Journey} {step : Step}
  {action : StepAction} {next : Option StepAction} {actor comments : Option String}
  {ids left : Ids} {s t : SubmissionState}

theorem skipOpen (keeps : e.Keeps kept) (h : ∀ r ∈ s.chain, kept r) :
    ∀ r ∈ s.skipOpen.chain, kept r := by
  intro r hr
  obtain ⟨q, hq, rfl⟩ := List.mem_map.mp hr
  split
  · exact keeps.skipped q (h q hq)
  · exact h q hq

theorem leave {target : Step} (keeps : e.Keeps kept) (leaves : s.Left step action target t)
    (h : ∀ r ∈ s.chain, kept r) : ∀ r ∈ t.chain, kept r := by
  rw [leaves.same]
  exact keeps.skipOpen h

theorem arrive (keeps : e.Keeps kept) (onStep : step ∈ e.workflow.steps)
    (returned : (j.arrive e step actor).Returns ids (j', next) left)
    (h : ∀ r ∈ j.state.chain, kept r) : ∀ r ∈ j'.state.chain, kept r := by
  rw [Journey.arrive_eq, Work.bind_returns_iff] at returned
  obtain ⟨records, _, hasked, hsettled⟩ := returned
  have hrecords : ∀ r ∈ records, kept r := by
    unfold Journey.asked at hasked
    split at hasked
    · simp only [Work.bind_returns_iff, Work.lift_returns_iff] at hasked
      obtain ⟨config, _, ⟨hconfig, -⟩, hrecords⟩ := hasked
      exact keeps.asked step onStep config hconfig _ _ _ _ hrecords
    · simp only [Work.pure_returns_iff] at hasked
      rw [← hasked.1]
      exact fun r hr => by cases hr
  rw [Journey.settle_chain hsettled]
  exact List.forall_mem_append.mpr ⟨h, hrecords⟩

/-- The induction is on the moves that are left, as each is spent on a step that asks nobody. -/
theorem enter (keeps : e.Keeps kept) {moves : Nat} {autoAssign : Bool}
    (onStep : step ∈ e.workflow.steps)
    (returned : (Journey.enter e moves step actor autoAssign j).Returns ids j' left)
    (h : ∀ r ∈ j.state.chain, kept r) : ∀ r ∈ j'.state.chain, kept r := by
  induction moves using Nat.strongRecOn generalizing step actor autoAssign j ids with
  | ind moves ih =>
    obtain ⟨j₁, j₂, next, _, _, hperformed, harrived, hgone⟩ := Journey.enter_cases returned
    rw [← Journey.perform_returns hperformed] at h
    have harrival := keeps.arrive onStep harrived h
    rcases hgone with ⟨-, hassigned⟩ | ⟨action, target, j₃, _, fewer, -, rfl, hleft, hentered⟩
    · rw [(Journey.assignOnEntry_assigned hassigned).same]
      exact harrival
    · obtain ⟨hfound, hleaves⟩ := Journey.leave_left hleft
      exact ih fewer (Nat.lt_succ_self fewer) (Workflow.mem_of_step? hfound) hentered
        (keeps.leave hleaves harrival)

theorem follow (keeps : e.Keeps kept) {moves : Nat}
    (returned : (j.follow e moves step action actor comments).Returns ids j' left)
    (h : ∀ r ∈ j.state.chain, kept r) : ∀ r ∈ j'.state.chain, kept r := by
  simp only [Journey.follow, Work.bind_returns_iff] at returned
  obtain ⟨⟨target, j₁⟩, _, hleft, hentered⟩ := returned
  obtain ⟨hfound, hleaves⟩ := Journey.leave_left hleft
  exact keeps.enter (Workflow.mem_of_step? hfound) hentered (keeps.leave hleaves h)

theorem followChain {r : WorkflowRequest} (keeps : r.surroundings.Keeps kept)
    (returned : (r.followChain step j).Returns ids j' left) (h : ∀ a ∈ j.state.chain, kept a) :
    ∀ a ∈ j'.state.chain, kept a := by
  rcases WorkflowRequest.followChain_returns returned with ⟨-, rfl, -⟩ | ⟨action, -, hfollowed⟩
  · exact h
  · exact keeps.follow hfollowed h

end Surroundings.Keeps

/-! ## Operations -/

theorem SubmissionState.Escalated.waitsLike {time : Stamp} {escalations : List Escalation}
    {s t : SubmissionState} (h : Escalated time escalations s t) :
    s.chain.WaitsLike time t.chain := by
  induction h with
  | done => exact .refl time _
  | stopped _ => exact .refl time _
  | next _ escalated decided _ ih =>
    have hcarried := Chain.waitsLike_escalate escalated
    rw [decided.same] at ih
    exact hcarried.trans ih

namespace WorkflowRequest

variable {r : WorkflowRequest} {s : SubmissionState} {t : Transition} {ids left : Ids}

theorem decide_waits {ballot : Except Failure Ballot} (h : (r.decide ballot).Returns ids t left)
    (onState : r.submission.state = some s) : ∃ step u j between later,
      s.chain.WaitsLike r.surroundings.time u.chain ∧
      (r.followChain step { state := u }).Returns between j later ∧ t.state = j.state.bump := by
  simp only [decide, Work.bind_returns_iff, Work.lift_returns_iff, requireState_of onState,
    Except.ok.injEq] at h
  obtain ⟨state, _, ⟨rfl, -⟩, step, _, -, config, _, -, ballot', _, -, outcome, _, hprocessed,
    u, between, happlied, j, later, hfollowed, h⟩ := h
  refine ⟨step, u, j, between, later, ?_, hfollowed, finish_returns h⟩
  obtain ⟨state', record, htarget, hdecided⟩ := ApprovalRequest.process_returns hprocessed
  obtain ⟨hstate, -, -⟩ := ApprovalRequest.target_eq_ok htarget
  rw [onState, Option.some.injEq] at hstate
  subst hstate
  rw [(applyOutcome_returns happlied).2.2.1]
  exact Chain.waitsLike_decide hdecided

theorem perform_timely {op : Operation} (h : (r.perform op).Returns ids t left)
    (onState : r.submission.state = some s) (patient : r.surroundings.Patient)
    (timely : s.chain.Timely) : t.state.chain.Timely := by
  have keeps := patient.keeps_timely
  cases op with
  | execute actionId =>
    obtain ⟨-, step, action, j, _, hfollowed, he⟩ := execute_returns h onState
    rw [he]
    exact keeps.follow hfollowed timely
  | decide ballot =>
    obtain ⟨step, u, j, _, _, hwaits, hfollowed, he⟩ := decide_waits h onState
    rw [he]
    exact keeps.followChain hfollowed (hwaits.timely timely)
  | terminate status reason =>
    obtain ⟨step, u, -, hperformed, he⟩ := perform_performed h onState
    rw [he]
    cases hperformed with
    | terminate _ _ _ ended =>
      have hsame := congrArg SubmissionState.chain ended.same
      change ∀ a ∈ u.chain, a.Timely
      rw [hsame]
      exact keeps.skipOpen timely
  | escalate escalations =>
    obtain ⟨step, j, j', _, _, -, hescalated, hfollowed, he⟩ := escalate_returns h onState
    rw [he]
    exact keeps.followChain hfollowed
      ((escalateAll_escalated hescalated).waitsLike.timely timely)

end WorkflowRequest

namespace Workflow

variable {w : Workflow} {s : SubmissionState}

/-- The states to which a start leads and any operations after it, where no configuration asks for a
decision at once. Only what is found on the chain is escalated, and a new record has an id of its
own. -/
inductive PatientlyReached (w : Workflow) : SubmissionState → Prop
  | started {e : Surroundings} {submission : Submission} {ids left : Ids} {t : Transition}
      (inWorkflow : e.workflow = w) (patient : e.Patient)
      (returned : (e.start submission).Returns ids t left)
      (fresh : t.state.chain.Distinct) : PatientlyReached w t.state
  | called {s : SubmissionState} {op : Operation} {r : WorkflowRequest} {ids left : Ids}
      {t : Transition} (reached : PatientlyReached w s) (due : s.Due op)
      (inWorkflow : r.workflow = w) (patient : r.surroundings.Patient)
      (onState : r.submission.state = some s)
      (returned : (r.perform op).Returns ids t left) (fresh : t.state.chain.Distinct) :
      PatientlyReached w t.state

theorem PatientlyReached.dulyReached (reached : w.PatientlyReached s) : w.DulyReached s := by
  induction reached with
  | started inWorkflow _ returned fresh => exact .started inWorkflow returned fresh
  | called _ due inWorkflow _ onState returned fresh ih =>
    exact .called ih due (.answered inWorkflow onState returned) fresh

theorem PatientlyReached.timely (reached : w.PatientlyReached s) : s.chain.Timely := by
  induction reached with
  | @started e submission ids left t _ patient returned _ =>
    simp only [Surroundings.start, Work.bind_returns_iff, Work.lift_returns_iff] at returned
    obtain ⟨noted, _, hnoted, j, _, hentered, htransition, -⟩ := returned
    rw [Journey.transition_eq_ok htransition]
    refine patient.keeps_timely.enter (Workflow.mem_of_step? e.workflow.step?_start) hentered ?_
    rw [(SubmissionState.note_notes hnoted).same]
    exact fun r hr => by cases hr
  | called _ _ _ patient onState returned _ ih =>
    exact WorkflowRequest.perform_timely returned onState patient ih

end Workflow
end Formwork
