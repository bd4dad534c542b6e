import Formwork.Proofs.Approval.Overdue
import Formwork.Proofs.Workflow.Waiting
/-!
# Ticks

At a tick everything that is due is found on the chain of a submission and escalated. Each of the
escalations leaves only what the others see to, or ends the round; what follows the chain asks anew,
at the time of the tick. So nothing is due any more, and if anything fails it is what follows the
chain.
-/
namespace Formwork

open Calendar Document

theorem Surroundings.Patient.keeps_notDue {e : Surroundings} (patient : e.Patient)
    (settings : Settings) : e.Keeps (·.NotDue settings e.time) where
  skipped _ _ := ApprovalRecord.notDue_of_not_pending fun hp => by cases hp
  asked step onStep config hconfig _ _ _ _ hrecords r hr := by
    have hlaid := config.startChain_laidOut hrecords r hr
    have htimely := hlaid.timely (patient step onStep config hconfig)
    rcases hlaid.asked with ⟨-, hnow⟩ | ⟨hwaiting, -⟩
    · exact ApprovalRecord.notDue_of_asked_now (Stamp.hoursTo_self e.context.now) htimely.limit hnow
    · exact ApprovalRecord.notDue_of_not_pending fun hp => by rw [hwaiting] at hp; cases hp

namespace WorkflowRequest

variable {r : WorkflowRequest} {settings : Settings} {s : SubmissionState} {step : Step}
  {j : Journey} {e : Escalation} {due : List Escalation} {round : Int}
  {outcome : ApprovalOutcome} {ids between : Ids}

/-- Once an escalation is carried out, the others are carried out on the chain that it made. -/
theorem escalateAll_cons (step : Step) (rest : List Escalation)
    (pending : j.state.status = .pendingApproval)
    (escalated : (j.state.chain.escalate .pendingApproval e r.surroundings.time).Returns ids
      outcome between) :
    ∃ next later, next.state.chain = outcome.chain ∧ next.state.status = outcome.status ∧
      (r.escalateAll step (e :: rest) j).outcome ids =
        (r.escalateAll step rest next).outcome later := by
  have hescalated : ({ r.submission with state := some j.state }.escalate e
      r.surroundings.time).Returns ids outcome between := by
    simpa only [Submission.escalate, pending, ↓reduceIte] using escalated
  obtain ⟨u, later, happlied⟩ := Work.Succeeds.returns (w := r.applyOutcome j.state step outcome
    Escalation.system .approvalEscalated [("record_id", .text e.record),
      ("policy", ofNamed e.policy), ("waited_hours", .float e.waited)]) applyOutcome_avoids between
  obtain ⟨made, last, hmade⟩ := Work.Succeeds.returns (w := r.escalationInstruction e)
    (Work.bind_avoids (Work.fresh_avoids _) fun _ => Work.pure_avoids _) later
  obtain ⟨-, -, hchain, hstatus⟩ := applyOutcome_returns happlied
  refine ⟨{ j with state := u, instructions := j.instructions ++ [made] }, last, hchain, hstatus,
    ?_⟩
  rw [escalateAll, if_pos pending, hescalated.outcome_bind, happlied.outcome_bind,
    hmade.outcome_bind]

/-- Escalations that are still to be carried out can be carried out, and then nothing is due. The
induction is on the escalations: once the round is rejected, the others are left out. -/
theorem escalateAll_settles (step : Step)
    (pending : j.state.status = .pendingApproval)
    (overdue : j.state.chain.Overdue settings r.context.now round due)
    (names : ∀ e ∈ due, e.NamesDelegate) (ids : Ids) :
    ∃ j' left, (r.escalateAll step due j).Returns ids j' left ∧
      ∀ a ∈ j'.state.chain, a.NotDue settings r.surroundings.time := by
  induction due generalizing j ids with
  | nil =>
    refine ⟨j, ids, Work.pure_returns_iff.mpr ⟨rfl, rfl⟩, ?_⟩
    intro a ha
    rcases overdue.seen a ha with hnot | ⟨e, he, -⟩
    · exact hnot
    · cases he
  | cons e rest ih =>
    obtain ⟨hname, hnames⟩ := List.forall_mem_cons.mp names
    obtain ⟨outcome, between, hescalated, hnext⟩ := overdue.escalate hname ids
    obtain ⟨next, later, hchain, hstatus, hlater⟩ :=
      escalateAll_cons step rest pending hescalated
    unfold Work.Returns
    rw [hlater]
    rcases hnext with ⟨hawaits, hrest⟩ | ⟨hrejected, hnothing⟩
    · rw [← hchain] at hrest
      exact ih (hstatus.trans hawaits) hrest hnames later
    · have hended : next.state.status ≠ .pendingApproval := by
        rw [hstatus, hrejected]
        simp
      rw [escalateAll_of_not_pending rest hended]
      rw [← hchain] at hnothing
      exact ⟨next, later, rfl, hnothing⟩

/-- The escalations are carried out, and the action that follows the chain fails. -/
def FollowUpFails (r : WorkflowRequest) (s : SubmissionState) (escalations : List Escalation)
    (ids : Ids) (f : Failure) : Prop :=
  ∃ step action j between, r.workflow.step? s.step = some step ∧
    (r.escalateAll step escalations { state := s }).Returns ids j between ∧
    chainFollowUp? step j.state.status = some action ∧
    (j.follow r.surroundings (r.stepCount - 1) step action (some Escalation.system) none).Fails
      between f

/-- With everything that is to be carried out, the tick is carried out to the end. -/
theorem escalate_settles (onState : r.submission.state = some s)
    (pending : s.status = .pendingApproval) (has : r.workflow.Has s.step)
    (current : r.checkVersion s = .ok ()) (patient : r.surroundings.Patient)
    (overdue : s.chain.Overdue settings r.context.now round due)
    (names : ∀ e ∈ due, e.NamesDelegate) (ids : Ids) :
    (∃ t left, (r.escalate due).Returns ids t left ∧
      t.state.chain.escalations settings r.surroundings.time = .ok []) ∨
    ∃ f, (r.escalate due).Fails ids f ∧ r.FollowUpFails s due ids f := by
  obtain ⟨step, hstep⟩ := has
  obtain ⟨j, between, hescalated, hsettled⟩ := escalateAll_settles (r := r) step
    (j := { state := s }) pending overdue names ids
  have htick : (r.escalate due).outcome ids =
      (r.followChain step j >>= fun j => r.finish j step).outcome between := by
    unfold escalate
    rw [requireState_of onState, Work.lift_ok_bind, current, Work.lift_ok_bind,
      Workflow.requireStep_eq_ok_iff.mpr hstep, Work.lift_ok_bind, hescalated.outcome_bind]
  rcases (r.followChain step j).returns_or_fails between with ⟨j', left, hfollowed⟩ | ⟨f, hfailed⟩
  · left
    have hplace : r.workflow.Has j'.state.step := by
      apply (followChain_leads hfollowed).has
      rw [(escalateAll_returns hescalated).1]
      exact ⟨step, hstep⟩
    obtain ⟨t, hfinished, he⟩ := finish_of_has hplace step left
    refine ⟨t, left, ?_, ?_⟩
    · unfold Work.Returns
      rw [htick, hfollowed.outcome_bind]
      exact hfinished
    · rw [he]
      exact Chain.escalations_eq_nil
        ((patient.keeps_notDue settings).followChain hfollowed hsettled)
  · right
    refine ⟨f, ?_, ?_⟩
    · unfold Work.Fails
      rw [htick]
      exact Work.bind_fails_iff.mpr (.inl hfailed)
    · unfold followChain at hfailed
      cases haction : chainFollowUp? step j.state.status with
      | none => simp [haction] at hfailed
      | some action =>
        rw [haction] at hfailed
        exact ⟨step, action, j, between, hstep, hescalated, haction, hfailed⟩

end WorkflowRequest

namespace Workflow

variable {w : Workflow} {s : SubmissionState} {settings : Settings} {r : WorkflowRequest}

/-- A tick settles. At any time everything that is due can be found, and escalating it fails for a
version that is not the present one or because what follows the chain fails; else nothing is due any
more at the time of the tick. -/
theorem PatientlyReached.tick_settles (reached : w.PatientlyReached s)
    (pending : s.status = .pendingApproval) (usual : settings.NamesPolicy)
    (inWorkflow : r.workflow = w) (onState : r.submission.state = some s)
    (patient : r.surroundings.Patient) :
    ∃ due, s.chain.escalations settings r.surroundings.time = .ok due ∧ ∀ ids,
      (∃ t left, (r.perform (.escalate due)).Returns ids t left ∧
        t.state.chain.escalations settings r.surroundings.time = .ok []) ∨
      ∃ f, (r.perform (.escalate due)).Fails ids f ∧
        ((∃ version, r.expectedVersion = some version ∧ version ≠ s.version ∧
            f = r.conflict s version (.escalate due)) ∨
          r.FollowUpFails s due ids f) := by
  subst inWorkflow
  have hs := reached.dulyReached.consistent
  have hround : ∀ a ∈ s.chain, a.status = .pending → a.round = s.round := by
    intro a ha hp
    apply (hs.awaits ha hp).1.chain.round_of_open ha
    simp [hp, ApprovalStatus.isOpen]
  obtain ⟨due, hfound, hnames, hseen⟩ := reached.timely.escalations_returns r.context.now usual
  have hoverdue := reached.timely.overdue reached.dulyReached.distinct hround hfound hseen
  refine ⟨due, hfound, fun ids => ?_⟩
  by_cases hstale : ∃ version, r.expectedVersion = some version ∧ version ≠ s.version
  · obtain ⟨version, hexpected, hchanged⟩ := hstale
    have hfails : (r.perform (.escalate due)).Fails ids (r.conflict s version (.escalate due)) :=
      WorkflowRequest.perform_fails_of_stale onState hexpected hchanged (fun _ he => by cases he)
        (fun _ _ he => by cases he) ids
    exact .inr ⟨_, hfails, .inl ⟨version, hexpected, hchanged, rfl⟩⟩
  · have hcurrent : r.checkVersion s = .ok () := by
      unfold WorkflowRequest.checkVersion
      split
      · rfl
      · rename_i version hexpected
        rw [if_pos]
        exact by_contra fun hchanged => hstale ⟨version, hexpected, hchanged⟩
    rcases WorkflowRequest.escalate_settles onState pending reached.dulyReached.reachable.has
      hcurrent patient hoverdue hnames ids with hsettled | ⟨f, hfails, hfollow⟩
    · exact .inl hsettled
    · exact .inr ⟨f, hfails, .inr hfollow⟩

end Workflow

namespace Delay

open Release (work submission noon)

/-- Ann and Bob are asked for an hour; then Carl is asked in their place. -/
def review : Step :=
  { Release.review with
    approval := some { levels := [{ kind := .anyOf, approvers := ["ann", "bob"],
                                    escalateAfter := some 1.0, policy := some .delegate,
                                    delegate := some "carl" }] } }

def workflow : Workflow where
  steps := [review, work]
  startId := some "review"
  sound := by decide

/-- Two hours later. -/
def afternoon : Instant := ⟨50400000000, by decide⟩

def surroundings : Surroundings := ⟨workflow, .ofNow noon, {}, none⟩

def tick (s : SubmissionState) : WorkflowRequest :=
  { submission := submission (some s), workflow := workflow, context := .ofNow afternoon }

/-- The state after the start at noon, what is found in the afternoon, and the state after it. -/
def states : Option (SubmissionState × List Escalation × SubmissionState) := do
  let started ← (surroundings.start (submission none)).answer? {}
  let due ← (started.state.chain.escalations {} (.ofInstant afternoon)).toOption
  let ticked ← ((tick started.state).perform (.escalate due)).answer? {}
  pure (started.state, due, ticked.state)

theorem states_eq : states.map (fun (s, due, t) => (s.status, s.chain.map (·.id), due.length,
      t.chain.map (·.approver))) =
    some (.pendingApproval, ["APR-000000000001", "APR-000000000002"], 2,
      [some "ann", some "carl", some "bob", some "carl"]) := by decide +kernel

theorem patient (context : Context) : Surroundings.Patient ⟨workflow, context, {}, none⟩ := by
  apply Surroundings.Patient.of_configs
  case default => exact fun _ he => by cases he
  case steps =>
    intro step hstep config hconfig level hlevel limit hlimit
    have hone : ∀ step ∈ workflow.steps, ∀ config ∈ step.approval, ∀ level ∈ config.levels,
        level.escalateAfter = some 1.0 := by
      simp [workflow, review, work]
    have hless : (0 : Float) < 1.0 := by decide
    rw [hone step hstep config hconfig level hlevel, Option.some.injEq] at hlimit
    rwa [← hlimit]

end Delay

namespace Workflow

open Delay

/-- Once Carl is asked in the place of Ann and Bob, nothing is due. -/
theorem PatientlyReached.tick_settles_delay : ∃ s due t left, workflow.PatientlyReached s ∧
    s.chain.escalations {} (.ofInstant afternoon) = .ok due ∧ due.length = 2 ∧
    ((tick s).perform (.escalate due)).Returns {} t left ∧
    t.state.chain.map (·.approver) = [some "ann", some "carl", some "bob", some "carl"] ∧
    t.state.chain.escalations {} (.ofInstant afternoon) = .ok [] := by
  obtain ⟨⟨s, due, t⟩, hstates, hparts⟩ := Option.map_eq_some_iff.mp states_eq
  simp only [states, Option.bind_eq_bind, Option.bind_eq_some_iff, Option.pure_def,
    Option.some.injEq, Prod.mk.injEq] at hstates
  obtain ⟨started, hstarted, due, hdue, ticked, hticked, rfl, rfl, rfl⟩ := hstates
  obtain ⟨_, hstarted⟩ := Work.answer?_eq_some hstarted
  obtain ⟨left, hticked⟩ := Work.answer?_eq_some hticked
  simp only [Prod.mk.injEq] at hparts
  obtain ⟨hpending, hids, hlength, happrovers⟩ := hparts
  have hreached : workflow.PatientlyReached started.state := by
    apply PatientlyReached.started rfl (patient _) hstarted
    unfold Chain.Distinct
    rw [hids]
    decide
  have usual : ({} : Settings).NamesPolicy := ⟨.notifyOnly, rfl⟩
  obtain ⟨found, hfound, htick⟩ := PatientlyReached.tick_settles hreached hpending usual
    (r := tick started.state) rfl rfl (patient _)
  have hsame : found = due := by
    change started.state.chain.escalations {} (.ofInstant afternoon) = .ok found at hfound
    rw [hfound] at hdue
    simpa [Except.toOption] using hdue
  subst hsame
  rcases htick {} with ⟨t, left', hreturned, hsettled⟩ | ⟨f, hfails, -⟩
  · obtain ⟨rfl, -⟩ := hreturned.unique hticked
    exact ⟨_, _, _, _, hreached, hfound, hlength, hreturned, happrovers, hsettled⟩
  · exact absurd hfails hticked.not_fails

end Workflow
end Formwork
