import Formwork.Proofs.Workflow.Executed
import Formwork.Proofs.Workflow.Ledger
import Formwork.Proofs.Workflow.Offer
/-!
# The approval gate

While somebody is asked for approval, a submission keeps to its step and to its round. There are
four ways on: an action that may be taken meanwhile, an end by hand, an approval that clears the last
level, and a rejection. The last two go through the action that the step names for them, if it names
one.
-/
namespace Formwork

open Calendar Document

theorem StepAction.permits_iff {a : StepAction} {user : Option User} :
    a.permits user = true ↔ a.requiredRoles = [] ∨
      ∃ u, user = some u ∧ ∃ role ∈ a.requiredRoles, role ∈ u.roles := by
  unfold permits holdsRole
  by_cases hnone : a.requiredRoles = []
  · simp [hnone]
  · cases user <;> simp [hnone]

namespace SubmissionState

variable {s t u : SubmissionState} {e : Surroundings} {r : WorkflowRequest} {step : Step}
  {named : Option String} {op : Operation}

/-- The same round is pending, on the same step. -/
structure StillPending (s t : SubmissionState) : Prop where
  step : t.step = s.step
  round : t.round = s.round
  status : t.status = .pendingApproval
  asked : ∃ a ∈ t.chain, a.round = s.round ∧ a.status = .pending

/-- The step is left through the action that is named, before any other is executed; where none is
named, it is not left. -/
structure LeavesThrough (s : SubmissionState) (named : Option String) (t : SubmissionState) :
    Prop where
  through : ∀ id, named = some id → id ≠ "" →
    ∃ later, s.Executes ((.text s.step, .text id) :: later) t
  stays : named = none ∨ named = some "" → s.Executes [] t ∧ t.step = s.step

/-- The ways in which an operation may take a submission past an approval gate. -/
inductive PassesGate (r : WorkflowRequest) (step : Step) (s t : SubmissionState) :
    Operation → Prop
  | executed {actionId : String} {action : StepAction}
      (offered : step.action? actionId = some action) (during : action.duringApproval = true)
      (guard : Group.holds? action.guard r.context = .ok true)
      (role : action.requiredRoles = [] ∨ ∃ user, r.context.user = some user ∧
        ∃ role ∈ action.requiredRoles, role ∈ user.roles) :
      PassesGate r step s t (.execute actionId)
  | terminated {status reason : Value} : PassesGate r step s t (.terminate status reason)
  | approved {ballot : Ballot} (decision : ballot.decision = .approve)
      (cleared : s.chain.ClearsRound t.chain s.round)
      (through : s.LeavesThrough step.onApproved t) : PassesGate r step s t (.decide ballot)
  | rejected {op : Operation}
      (rejection : ∃ a ∈ s.chain, a.round = s.round ∧ a.status = .pending ∧
        ∃ b ∈ t.chain, b.id = a.id ∧ b.status = .rejected)
      (through : s.LeavesThrough step.onRejected t) : PassesGate r step s t op

end SubmissionState

namespace WorkflowRequest

variable {r : WorkflowRequest} {s : SubmissionState} {step : Step} {action : StepAction}
  {actionId : String}

theorem resolve_checked (h : r.resolve actionId = .ok (s, step, action)) :
    step.action? actionId = some action ∧ r.checkAction s step action = .ok () := by
  simp only [resolve, Work.except_bind_eq_ok_iff] at h
  obtain ⟨_, -, _, -, _, -, _, -, _, hoffered, _, hchecked, he⟩ := h
  simp only [pure, Except.pure, Except.ok.injEq, Prod.mk.injEq] at he
  obtain ⟨rfl, rfl, rfl⟩ := he
  exact ⟨requireAction_eq_ok hoffered, hchecked⟩

end WorkflowRequest

namespace SubmissionState

variable {s t u : SubmissionState} {e : Surroundings} {r : WorkflowRequest} {step : Step}
  {named : Option String} {op : Operation}

/-! ## Going on from a chain -/

theorem Awaits.stillPending (h : t.Awaits) (hstep : t.step = s.step) (hround : t.round = s.round) :
    s.StillPending t := by
  refine ⟨hstep, hround, h.status, ?_⟩
  obtain ⟨earlier, current, config, level, hchain, -, -, hstands⟩ := h.chain
  obtain ⟨a, ha, -, hp⟩ := hstands.here.reached
  refine ⟨a, ?_, ?_, hp⟩
  · rw [hchain]
    exact List.mem_append_right _ ha
  · rw [← hround]
    exact hstands.sound.inRound a ha

theorem GoneOn.eq_of_pending (h : GoneOn e step s t) (pending : s.status = .pendingApproval) :
    t = s := by
  cases h with
  | stayed _ => rfl
  | followed ended _ =>
    rw [pending] at ended
    cases ended

/-- From a chain that has ended, a submission goes on through the action that is named for that. -/
theorem GoneOn.leavesThrough (h : GoneOn e step s t) (here : s.step = step.id)
    (follows : WorkflowRequest.chainFollowUp? step s.status = step.followUp? named)
    (found : step.strayFollowUp? named = none) : s.LeavesThrough named t := by
  cases h with
  | stayed ended =>
    rw [follows] at ended
    refine ⟨?_, fun _ => ⟨.nil_of_same rfl, rfl⟩⟩
    intro id hnamed hid
    obtain ⟨action, haction, -⟩ := Workflow.followUp?_of_named found hnamed hid
    rw [ended] at haction
    cases haction
  | @followed action _ ended followed =>
    rw [follows] at ended
    refine ⟨?_, ?_⟩
    · intro id hnamed hid
      obtain ⟨action', haction, rfl⟩ := Workflow.followUp?_of_named found hnamed hid
      rw [ended, Option.some.injEq] at haction
      subst haction
      rw [here]
      exact followed.executes
    · rintro (rfl | rfl)
      · cases ended
      · cases ended

theorem LeavesThrough.after (h : u.LeavesThrough named t) (before : s.Executes [] u)
    (here : u.step = s.step) : s.LeavesThrough named t where
  through id hnamed hid := by
    obtain ⟨later, hlater⟩ := h.through id hnamed hid
    rw [here] at hlater
    exact ⟨later, before.trans hlater⟩
  stays hnone := by
    obtain ⟨hnothing, hstep⟩ := h.stays hnone
    exact ⟨before.trans hnothing, hstep.trans here⟩

/-! ## Operations -/

section Operations

variable (onStep : r.workflow.step? s.step = some step)

include onStep

theorem GoneOn.passesGate_of_rejected (h : GoneOn r.surroundings step u t) (hstep : u.step = s.step)
    (before : s.Executes [] u) (status : u.status = .rejected) (closed : u.chain.Closed)
    (rejection : ∃ a ∈ s.chain, a.round = s.round ∧ a.status = .pending ∧
      ∃ b ∈ u.chain, b.id = a.id ∧ b.status = .rejected) : PassesGate r step s t op := by
  have here : u.step = step.id := hstep.trans (Workflow.id_of_step? onStep).symm
  have hfound := Workflow.no_strayFollowUp (Workflow.mem_of_step? onStep)
  obtain ⟨a, ha, hround, hp, b, hb, hid, hrejected⟩ := rejection
  refine .rejected ⟨a, ha, hround, hp, b, (h.appends closed).mem hb, hid, hrejected⟩ ?_
  apply LeavesThrough.after _ before hstep
  exact h.leavesThrough here (by rw [status]; rfl) hfound.2

theorem GoneOn.passesGate_of_approved {ballot : Ballot} (h : GoneOn r.surroundings step u t)
    (hstep : u.step = s.step) (hround : u.round = s.round) (before : s.Executes [] u)
    (status : u.status = .completed) (closed : u.chain.Closed)
    (cleared : s.chain.ClearsRound u.chain s.round)
    (decision : ballot.decision = .approve) : PassesGate r step s t (.decide ballot) := by
  have here : u.step = step.id := hstep.trans (Workflow.id_of_step? onStep).symm
  have hfound := Workflow.no_strayFollowUp (Workflow.mem_of_step? onStep)
  refine .approved decision ⟨cleared.last, ?_⟩ ?_
  · rw [← hround, (h.appends closed).ofRound_eq, hround]
    exact cleared.cleared
  · apply LeavesThrough.after _ before hstep
    exact h.leavesThrough here (by rw [status]; rfl) hfound.1

theorem Performed.stillPending_or_passesGate (h : Performed r step s op t)
    (onState : r.submission.state = some s) (awaits : s.Awaits) (distinct : s.chain.Distinct)
    (due : s.Due op) (fresh : t.chain.Distinct) : s.StillPending t ∨ PassesGate r step s t op := by
  have hround : ∀ a ∈ s.chain, a.status = .pending → a.round = s.round :=
    fun a ha hp => awaits.chain.round_of_open ha (by simp [hp, ApprovalStatus.isOpen])
  cases h with
  | @execute actionId action _ resolved _ =>
    obtain ⟨hoffered, hchecked⟩ := WorkflowRequest.resolve_checked resolved
    obtain ⟨hopen, -, hguard, hpermits⟩ := WorkflowRequest.checkAction_eq_ok_iff.mp hchecked
    refine .inr (.executed hoffered ?_ hguard (StepAction.permits_iff.mp hpermits))
    simpa [awaits.status] using hopen
  | @decide ballot config outcome u _ _ _ processed decided goesOn =>
    have htakes : s.chain.Takes s.status (.decision (r.approvalRequest config ballot)) outcome :=
      .decision onState rfl rfl processed
    obtain ⟨-, a, ha, hp, hdoes⟩ := htakes.cases distinct
    obtain ⟨hstep, hsame, hchain, hstatus⟩ := decided.parts
    -- What is gone on to keeps all records, so ids that are apart in the end were so before.
    have hdistinct : outcome.chain.Distinct := by
      rw [← hchain]
      exact fresh.of_within goesOn.within
    have hnothing : s.Executes [] u := decided.executes_nil (by simp)
    cases hdoes.comesTo awaits.chain distinct ha hp hdistinct with
    | goesOn status hawaits =>
      have hu : u.Awaits := ⟨hstatus.trans status, by rw [hchain, hsame]; exact hawaits⟩
      rw [goesOn.eq_of_pending hu.status]
      exact .inl (hu.stillPending hstep hsame)
    | completed status _ closed cleared approval =>
      obtain ⟨request, he, hdecision⟩ := approval
      have hballot : ballot.decision = .approve := by
        rw [← Move.decision.inj he] at hdecision
        exact hdecision
      rw [← hchain] at closed cleared
      exact .inr (goesOn.passesGate_of_approved onStep hstep hsame hnothing (hstatus.trans status)
        closed cleared hballot)
    | rejected status _ closed rejection =>
      rw [← hchain] at closed rejection
      exact .inr (goesOn.passesGate_of_rejected onStep hstep hnothing (hstatus.trans status) closed
        ⟨a, ha, hround a ha hp, hp, rejection⟩)
  | terminate => exact .inr .terminated
  | @escalate escalations u _ escalated goesOn =>
    obtain ⟨hdue, honce⟩ := due.findings distinct
    have hstep : u.step = s.step := by rw [escalated.same]
    have hsame : u.round = s.round := by rw [escalated.same]
    rcases escalated.comesTo awaits hdue honce (fresh.of_within goesOn.within) with
      hu | ⟨status, -, closed, x, hx, b, hb, hid, hrejected⟩
    · rw [goesOn.eq_of_pending hu.status]
      exact .inl (hu.stillPending hstep hsame)
    · obtain ⟨a, ha, haid, hp⟩ := hdue x hx
      exact .inr (goesOn.passesGate_of_rejected onStep hstep escalated.executes_nil status closed
        ⟨a, ha, hround a ha hp, hp, b, hb, hid.trans haid.symm, hrejected⟩)

end Operations

/-! ## The next version -/

theorem StillPending.of_bump (h : s.StillPending t) : s.StillPending t.bump :=
  ⟨h.step, h.round, h.status, h.asked⟩

theorem LeavesThrough.bump (h : s.LeavesThrough named t) : s.LeavesThrough named t.bump :=
  ⟨h.through, h.stays⟩

theorem PassesGate.bump (h : PassesGate r step s t op) : PassesGate r step s t.bump op := by
  cases h with
  | executed offered during guard role => exact .executed offered during guard role
  | terminated => exact .terminated
  | approved decision cleared through => exact .approved decision cleared through.bump
  | rejected rejection through => exact .rejected rejection through.bump

end SubmissionState

namespace Workflow

open SubmissionState

/-- An approval gate is only passed as it should be. Where somebody is asked, an operation that
leaves the step or ends the round is one of the four that may. -/
theorem DulyReached.passes_gate {r : WorkflowRequest} {s : SubmissionState} {op : Operation}
    {ids left : Ids} {t : Transition} (reached : r.workflow.DulyReached s)
    (asked : s.chain.actionable ≠ []) (onState : r.submission.state = some s) (due : s.Due op)
    (returned : (r.perform op).Returns ids t left) (fresh : t.state.chain.Distinct)
    (gone : ¬ s.StillPending t.state) :
    ∃ step, r.workflow.step? s.step = some step ∧ PassesGate r step s t.state op := by
  obtain ⟨a, ha⟩ := List.exists_mem_of_ne_nil _ asked
  obtain ⟨hmem, hp⟩ := Chain.pending_of_mem_actionable ha
  obtain ⟨hawaits, -⟩ := reached.consistent.awaits hmem hp
  obtain ⟨step, u, hstep, hperformed, he⟩ := WorkflowRequest.perform_performed returned onState
  rw [he] at gone fresh ⊢
  refine ⟨step, hstep, ?_⟩
  rcases hperformed.stillPending_or_passesGate hstep onState hawaits reached.distinct due fresh with
    hstill | hpasses
  · exact absurd hstill.of_bump gone
  · exact hpasses.bump

/-- When Ann approves, the submission leaves the review. -/
theorem DulyReached.passes_gate_release : ∃ s t step, Release.workflow.DulyReached s ∧
    s.step = "review" ∧ t.step = "work" ∧
    PassesGate (Release.request s) step s t (Release.approval "ann") := by
  obtain ⟨s, t, left, hreached, hreturned, hfresh, hasked, hstep, hstep', -⟩ := Release.duly_decided
  have hgone : ¬ s.StillPending t.state := by
    intro hstill
    have hsame := hstill.step
    rw [hstep, hstep'] at hsame
    exact absurd hsame (by decide)
  obtain ⟨step, -, hpasses⟩ :=
    DulyReached.passes_gate hreached hasked rfl (fun _ he => by cases he) hreturned hfresh hgone
  exact ⟨s, t.state, step, hreached, hstep, hstep', hpasses⟩

end Workflow
end Formwork
