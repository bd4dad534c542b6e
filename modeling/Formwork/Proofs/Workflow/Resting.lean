import Mathlib
import Formwork.Proofs.Workflow.Onward
/-!
# Where a submission comes to rest

A start, an action that is executed and a chain that has ended enter a step with as many moves as
there are steps, or with one less. As a walk that comes to rest is shorter than the workflow has
steps, either is enough: no walk is refused but the one that goes round.
-/
namespace Formwork

open Document SubmissionState Work

/-! ## Calls that enter a step -/

namespace Surroundings

variable {e : Surroundings} {entered : Step} {α β : Type}

/-- Work goes where the walk from a step leads: to where it comes to rest, over each step that is
passed, or to a refusal, if it never does. -/
structure FollowsWalk (e : Surroundings) (entered : Step) (before : Nat) (w : Work α)
    (state : α → SubmissionState) (ids : Ids) : Prop where
  rests : ∀ passed rest, e.Walk entered passed rest → e.Rests rest →
    ∃ a left, w.Returns ids a left ∧ (state a).step = rest.id ∧
      (state a).moved = before + passed.length
  goesRound : e.Endless entered → ∃ passed last, e.Walk entered passed last ∧
    passed.length ≤ e.workflow.steps.length ∧ w.Fails ids (Journey.goesRound last)

theorem FollowsWalk.of_outcome {before : Nat} {w w' : Work α} {state : α → SubmissionState}
    {ids left : Ids} (h : e.FollowsWalk entered before w' state left)
    (hsame : w.outcome ids = w'.outcome left) : e.FollowsWalk entered before w state ids where
  rests passed rest walk rests := by
    unfold Returns
    rw [hsame]
    exact h.rests passed rest walk rests
  goesRound endless := by
    unfold Fails
    rw [hsame]
    exact h.goesRound endless

theorem FollowsWalk.bind {before : Nat} {w : Work α} {state : α → SubmissionState}
    {ids : Ids} (h : e.FollowsWalk entered before w state ids) {next : α → Work β}
    {state' : β → SubmissionState}
    (hnext : ∀ a left, w.Returns ids a left → ∃ b left', (next a).Returns left b left' ∧
      (state' b).step = (state a).step ∧ (state' b).moved = (state a).moved) :
    e.FollowsWalk entered before (w >>= next) state' ids where
  rests passed rest walk rests := by
    obtain ⟨a, left, hreturned, hstep, hmoved⟩ := h.rests passed rest walk rests
    obtain ⟨b, left', hreturned', hstep', hmoved'⟩ := hnext a left hreturned
    exact ⟨b, left', bind_returns_iff.mpr ⟨a, left, hreturned, hreturned'⟩, hstep'.trans hstep,
      hmoved'.trans hmoved⟩
  goesRound endless := by
    obtain ⟨passed, last, walk, hlength, hfails⟩ := h.goesRound endless
    exact ⟨passed, last, walk, hlength, bind_fails_iff.mpr (.inl hfails)⟩

end Surroundings

namespace Journey

variable {e : Surroundings} {j : Journey} {step target : Step} {action : StepAction}
  {actor comments : Option String}

/-- With one move less than there are steps, each walk that comes to rest is gone to its end. -/
theorem enter_followsWalk (unhindered : e.Unhindered)
    (onStep : e.workflow.step? step.id = some step) {moves : Nat}
    (enough : e.workflow.steps.length ≤ moves + 1) (atMost : moves ≤ e.workflow.steps.length)
    (actor : Option String) (autoAssign : Bool) (here : j.state.step = step.id) (ids : Ids) :
    e.FollowsWalk step j.state.moved (enter e moves step actor autoAssign j) state ids where
  rests passed rest walk rests := by
    have hmem := Workflow.mem_of_step? onStep
    have hlt := walk.length_lt rests hmem
    exact enter_rests unhindered walk rests hmem (by omega) actor autoAssign j here ids
  goesRound endless := by
    obtain ⟨passed, last, walk, hlength, hfails⟩ := enter_goesRound unhindered endless
      (Workflow.mem_of_step? onStep) moves actor autoAssign j ids
    exact ⟨passed, last, walk, by omega, hfails⟩

theorem follow_followsWalk (unhindered : e.Unhindered) (onStep : step ∈ e.workflow.steps)
    (offered : action ∈ step.actions) (found : e.workflow.step? action.target = some target)
    {moves : Nat} (enough : e.workflow.steps.length ≤ moves + 1)
    (atMost : moves ≤ e.workflow.steps.length) (ids : Ids) :
    e.FollowsWalk target (j.state.moved + 1) (j.follow e moves step action actor comments) state
      ids := by
  obtain ⟨⟨target', j₁⟩, between, hleft⟩ :=
    (unhindered.leaves onStep offered j actor comments).returns ids
  obtain rfl := leave_target hleft found
  rw [← (leave_left hleft).2.moved]
  exact .of_outcome (enter_followsWalk unhindered (leave_returns hleft).1 enough atMost _ _
    (leave_returns hleft).2.1 between) (hleft.outcome_bind _)

end Journey

namespace Surroundings

/-- A call enters a step, before which the history tells of so many moves: a start enters the first
step, an action that is executed the one to which it leads, and a chain that has ended the one to
which the action behind it leads. -/
inductive Enters : Surroundings → Work Transition → Ids → Nat → Step → Prop
  | start {e : Surroundings} {submission : Submission} {ids : Ids} :
      Enters e (e.start submission) ids 0 e.workflow.start
  | execute {r : WorkflowRequest} {s : SubmissionState} {actionId : String} {step target : Step}
      {action : StepAction} {ids : Ids} (onState : r.submission.state = some s)
      (resolved : r.resolve actionId = .ok (s, step, action))
      (found : r.workflow.step? action.target = some target) :
      Enters r.surroundings (r.perform (.execute actionId)) ids (s.moved + 1) target
  | decide {r : WorkflowRequest} {s : SubmissionState} {ballot : Ballot} {step target : Step}
      {config : ApprovalConfig} {outcome : ApprovalOutcome} {action : StepAction} {ids left : Ids}
      (onState : r.submission.state = some s) (onStep : r.workflow.step? s.step = some step)
      (configured : r.surroundings.approvalConfig step = .ok config)
      (processed : (r.approvalRequest config ballot).process.Returns ids outcome left)
      (ended : WorkflowRequest.chainFollowUp? step outcome.status = some action)
      (found : r.workflow.step? action.target = some target) :
      Enters r.surroundings (r.perform (.decide ballot)) ids (s.moved + 1) target
  | escalate {r : WorkflowRequest} {s : SubmissionState} {escalations : List Escalation}
      {step target : Step} {j : Journey} {action : StepAction} {ids left : Ids}
      (onState : r.submission.state = some s) (current : r.checkVersion s = .ok ())
      (onStep : r.workflow.step? s.step = some step)
      (escalated : (r.escalateAll step escalations { state := s }).Returns ids j left)
      (ended : WorkflowRequest.chainFollowUp? step j.state.status = some action)
      (found : r.workflow.step? action.target = some target) :
      Enters r.surroundings (r.perform (.escalate escalations)) ids (s.moved + 1) target

end Surroundings

namespace WorkflowRequest

variable {r : WorkflowRequest} {step target : Step} {action : StepAction} {j : Journey}

theorem followsWalk_finish {before : Nat} {w : Work Journey} {ids : Ids}
    (h : r.surroundings.FollowsWalk target before w Journey.state ids)
    (has : ∀ j left, w.Returns ids j left → r.workflow.Has j.state.step) (step : Step) :
    r.surroundings.FollowsWalk target before (w >>= fun j => r.finish j step) Transition.state
      ids := by
  apply h.bind
  intro j left hreturned
  obtain ⟨t, hfinished, he⟩ := finish_of_has (has j left hreturned) step left
  refine ⟨t, left, hfinished, ?_, ?_⟩ <;> rw [he] <;> rfl

theorem follow_finish_followsWalk (unhindered : r.surroundings.Unhindered)
    (onStep : step ∈ r.workflow.steps) (offered : action ∈ step.actions)
    (found : r.workflow.step? action.target = some target) {moves : Nat}
    (enough : r.stepCount ≤ moves + 1) (atMost : moves ≤ r.stepCount)
    (actor comments : Option String) (ids : Ids) :
    r.surroundings.FollowsWalk target (j.state.moved + 1)
      (j.follow r.surroundings moves step action actor comments >>= fun j => r.finish j step)
      Transition.state ids := by
  apply followsWalk_finish
  · exact Journey.follow_followsWalk unhindered onStep offered found enough atMost ids
  · exact fun _ _ hfollowed => (Journey.follow_returns hfollowed).2.has

/-- A chain that has ended is gone on from with one move less, as its own action was the first. -/
theorem followChain_finish_followsWalk (unhindered : r.surroundings.Unhindered)
    (onStep : step ∈ r.workflow.steps)
    (ended : chainFollowUp? step j.state.status = some action)
    (found : r.workflow.step? action.target = some target) (ids : Ids) :
    r.surroundings.FollowsWalk target (j.state.moved + 1)
      (r.followChain step j >>= fun j => r.finish j step) Transition.state ids := by
  unfold followChain
  rw [ended]
  apply follow_finish_followsWalk unhindered onStep (mem_of_chainFollowUp? ended) found
  · omega
  · omega

/-! ### The operations -/

variable {s : SubmissionState} {ids left : Ids}

theorem execute_followsWalk {actionId : String} (unhindered : r.surroundings.Unhindered)
    (onState : r.submission.state = some s) (resolved : r.resolve actionId = .ok (s, step, action))
    (found : r.workflow.step? action.target = some target) (ids : Ids) :
    r.surroundings.FollowsWalk target (s.moved + 1) (r.perform (.execute actionId))
      Transition.state ids := by
  obtain ⟨-, -, hstep, offered⟩ := resolve_eq_ok resolved onState
  have hfollowed := follow_finish_followsWalk (j := { state := s }) unhindered
    (Workflow.mem_of_step? hstep) offered found (Nat.le_succ _) (Nat.le_refl _) r.actor r.comments
    ids
  apply hfollowed.of_outcome
  change (r.execute actionId).outcome ids = _
  unfold execute
  rw [resolved, lift_ok_bind]

theorem decide_followsWalk {ballot : Ballot} {config : ApprovalConfig} {outcome : ApprovalOutcome}
    (unhindered : r.surroundings.Unhindered) (onState : r.submission.state = some s)
    (onStep : r.workflow.step? s.step = some step)
    (configured : r.surroundings.approvalConfig step = .ok config)
    (processed : (r.approvalRequest config ballot).process.Returns ids outcome left)
    (ended : chainFollowUp? step outcome.status = some action)
    (found : r.workflow.step? action.target = some target) :
    r.surroundings.FollowsWalk target (s.moved + 1) (r.perform (.decide ballot))
      Transition.state ids := by
  have happlies : (r.applyOutcome s step outcome ballot.approver .approvalDecision
      [("decision", ofNamed ballot.decision), ("record_id", Value.ofText? outcome.decided),
        ("comments", Value.ofText? r.comments)]).Succeeds := applyOutcome_avoids
  obtain ⟨next, later, happlied⟩ := happlies.returns left
  have hmoved : next.moved = s.moved := (applyOutcome_decided happlied).moved (by simp)
  rw [← (applyOutcome_returns happlied).2.2.2] at ended
  have hfollowed := followChain_finish_followsWalk (j := { state := next }) unhindered
    (Workflow.mem_of_step? onStep) ended found later
  rw [hmoved] at hfollowed
  apply hfollowed.of_outcome
  change (r.decide (.ok ballot)).outcome ids = _
  unfold WorkflowRequest.decide
  rw [requireState_of onState, lift_ok_bind, Workflow.requireStep_eq_ok_iff.mpr onStep,
    lift_ok_bind, configured, lift_ok_bind, lift_ok_bind]
  exact (processed.outcome_bind _).trans (happlied.outcome_bind _)

theorem escalate_followsWalk {escalations : List Escalation} {j : Journey}
    (unhindered : r.surroundings.Unhindered) (onState : r.submission.state = some s)
    (current : r.checkVersion s = .ok ()) (onStep : r.workflow.step? s.step = some step)
    (escalated : (r.escalateAll step escalations { state := s }).Returns ids j left)
    (ended : chainFollowUp? step j.state.status = some action)
    (found : r.workflow.step? action.target = some target) :
    r.surroundings.FollowsWalk target (s.moved + 1) (r.perform (.escalate escalations))
      Transition.state ids := by
  have hmoved : j.state.moved = s.moved := (escalateAll_escalated escalated).moved
  have hfollowed := followChain_finish_followsWalk unhindered (Workflow.mem_of_step? onStep) ended
    found left
  rw [hmoved] at hfollowed
  apply hfollowed.of_outcome
  change (r.escalate escalations).outcome ids = _
  unfold escalate
  rw [requireState_of onState, lift_ok_bind, current, lift_ok_bind,
    Workflow.requireStep_eq_ok_iff.mpr onStep, lift_ok_bind]
  exact escalated.outcome_bind _

end WorkflowRequest

theorem Surroundings.start_followsWalk {e : Surroundings} (unhindered : e.Unhindered)
    (submission : Submission) (ids : Ids) :
    e.FollowsWalk e.workflow.start 0 (e.start submission) Transition.state ids := by
  have hnotes : (SubmissionState.note { step := e.workflow.start.id, status := .submitted }
      .workflowStarted e.time (some submission.submitter.id) (some e.workflow.start.id)
      []).Succeeds := note_avoids _ _ _ _ _
  obtain ⟨noted, left, hnoted⟩ := hnotes.returns ids
  have hstart := e.workflow.step?_start
  have here : noted.step = e.workflow.start.id :=
    congrArg SubmissionState.step (note_notes hnoted).same
  have hmoved : noted.moved = 0 := (note_notes hnoted).moved
  have hentered := Journey.enter_followsWalk (j := { state := noted }) unhindered hstart
    (Nat.le_succ _) (Nat.le_refl _) (some submission.submitter.id) true here left
  rw [hmoved] at hentered
  refine .of_outcome (hentered.bind fun j left' hreturned => ?_) (hnoted.outcome_bind _)
  have has := (Journey.enter_returns hreturned hstart here).2.has
  obtain ⟨t, ht, he⟩ := Journey.transition_of_has has none
  exact ⟨t, left', lift_returns_iff.mpr ⟨ht, rfl⟩, by rw [he], by rw [he]⟩

namespace Surroundings

variable {e : Surroundings} {call : Work Transition} {ids : Ids} {before : Nat} {entered : Step}

open WorkflowRequest

theorem Enters.onStep (enters : Enters e call ids before entered) : entered ∈ e.workflow.steps := by
  cases enters with
  | start => exact Workflow.mem_of_step? e.workflow.step?_start
  | execute _ _ found => exact Workflow.mem_of_step? found
  | decide _ _ _ _ _ found => exact Workflow.mem_of_step? found
  | escalate _ _ _ _ _ found => exact Workflow.mem_of_step? found

theorem Enters.followsWalk (enters : Enters e call ids before entered) (unhindered : e.Unhindered) :
    e.FollowsWalk entered before call Transition.state ids := by
  cases enters with
  | start => exact start_followsWalk unhindered _ ids
  | execute onState resolved found =>
    exact execute_followsWalk unhindered onState resolved found ids
  | decide onState onStep configured processed ended found =>
    exact decide_followsWalk unhindered onState onStep configured processed ended found
  | escalate onState current onStep escalated ended found =>
    exact escalate_followsWalk unhindered onState current onStep escalated ended found

/-- A call that enters a step goes where the walk from there leads. If the walk comes to rest, it is
shorter than the workflow has steps, and the call is carried out: the submission is where the walk
ends, and the history tells of one more move for each step that was passed. If it never does, no
more moves are made than there are steps, and the call is refused at the step where they end. -/
theorem Enters.walks_to_rest (enters : Enters e call ids before entered)
    (unhindered : e.Unhindered) :
    (∀ passed rest, e.Walk entered passed rest → e.Rests rest →
      passed.length < e.workflow.steps.length ∧
      ∃ t left, call.Returns ids t left ∧ t.state.step = rest.id ∧
        t.state.moved = before + passed.length) ∧
    (e.Endless entered → ∃ passed last, e.Walk entered passed last ∧
      passed.length ≤ e.workflow.steps.length ∧
      call.Fails ids (.refuse .configuration
        "Skipped approval chains loop through follow-up actions"
        [("step_id", .text last.id)])) := by
  have hfollows := enters.followsWalk unhindered
  have onStep := enters.onStep
  constructor
  · intro passed rest walk rests
    exact ⟨walk.length_lt rests onStep, hfollows.rests passed rest walk rests⟩
  · exact hfollows.goesRound

end Surroundings

/-! A review by whoever a field names, which the field no longer does once the form is sent back. -/
namespace Detour

def review : Step :=
  { Release.review with
    actions := [Release.action, { Release.action with id := "return", target := "sign" }],
    approval := some { levels := [{ approverField := some "boss" }] },
    onRejected := some "return" }

def sign : Step :=
  { Release.review with
    id := "sign", actions := [{ Release.action with id := "present", target := "review" }],
    approval := some { enabled := false }, onApproved := some "present" }

def workflow : Workflow where
  steps := [review, sign, Release.work]
  startId := some "review"
  sound := by decide

def asked : ApprovalRecord :=
  { id := "APR-000000000001", level := 0, kind := .sequential, position := 0, round := 1,
    approver := some "ann", role := none, status := .pending, requestedAt := none,
    escalateAfter := none, policy := none, delegate := none }

def state : SubmissionState :=
  { step := "review", status := .pendingApproval, chain := [asked], round := 1 }

def request : WorkflowRequest :=
  { submission := Release.submission (some state), workflow := workflow,
    context := .ofNow Release.noon }

def rejection : Ballot :=
  { approver := "ann", roles := none, decision := .reject, delegate := none }

theorem unhindered : request.surroundings.Unhindered := by
  have hsteps : ∀ step ∈ request.surroundings.workflow.steps,
      step = review ∨ step = sign ∨ step = Release.work := by
    simp [request, WorkflowRequest.surroundings, workflow]
  constructor
  case configured =>
    intro step hstep hkind
    rcases hsteps step hstep with rfl | rfl | rfl
    · exact ⟨_, rfl⟩
    · exact ⟨_, rfl⟩
    · cases hkind
  case evaluates =>
    intro step hstep hkind config hconfig
    rw [Surroundings.approvalConfig_eq_ok_iff] at hconfig
    rcases hsteps step hstep with rfl | rfl | rfl
    · obtain rfl := Option.some.inj hconfig
      refine ⟨fun group hskip => ?_, fun level hlevel => ?_⟩
      · cases hskip
      · obtain rfl := List.mem_singleton.mp hlevel
        exact ⟨[], rfl⟩
    · obtain rfl := Option.some.inj hconfig
      simp
    · cases hconfig
  case assigns =>
    intro step hstep rule hrule
    rcases hsteps step hstep with rfl | rfl | rfl <;> cases hrule
  case renders =>
    intro step hstep a ha
    rcases hsteps step hstep with rfl | rfl | rfl <;>
      simp [review, sign, Release.review, Release.work, Release.action] at ha

theorem asksNobody_review : request.surroundings.AsksNobody review :=
  ⟨{ levels := [{ approverField := some "boss" }] }, 1, {}, {}, rfl, rfl⟩

theorem asksNobody_sign : request.surroundings.AsksNobody sign :=
  ⟨{ enabled := false }, 1, {}, {}, rfl, rfl⟩

theorem walk : request.surroundings.Walk sign [sign, review] Release.work :=
  .on ⟨rfl, asksNobody_sign, rfl⟩ rfl (.on ⟨rfl, asksNobody_review, rfl⟩ rfl .here)

theorem rests : request.surroundings.Rests Release.work := by
  intro action hmoves
  cases hmoves.kind

/-- Ann's rejection, as the chain takes it. -/
def vote : ApprovalRequest :=
  request.approvalRequest { levels := [{ approverField := some "boss" }] } rejection

theorem vote_status : (vote.process.answer? {}).map (·.status) = some .rejected := by cbv

theorem enters :
    Surroundings.Enters request.surroundings (request.perform (.decide rejection)) {} 1 sign := by
  obtain ⟨outcome, hanswer, hstatus⟩ := Option.map_eq_some_iff.mp vote_status
  obtain ⟨left, processed⟩ := Work.answer?_eq_some hanswer
  have ended : WorkflowRequest.chainFollowUp? review outcome.status =
      some { Release.action with id := "return", target := "sign" } := by
    rw [hstatus]
    rfl
  exact .decide rfl rfl rfl processed ended rfl

/-! A form that is signed by nobody, again and again. -/

def again : Step :=
  { sign with actions := [{ Release.action with id := "present", target := "sign" }] }

def circle : Surroundings where
  workflow := { steps := [again], startId := some "sign", sound := by decide }
  context := .ofNow Release.noon
  load := {}
  defaultApproval := none

theorem unhindered_circle : circle.Unhindered := by
  have hsteps : ∀ step ∈ circle.workflow.steps, step = again := by simp [circle]
  constructor
  case configured =>
    intro step hstep hkind
    rw [hsteps step hstep]
    exact ⟨_, rfl⟩
  case evaluates =>
    intro step hstep hkind config hconfig
    rw [hsteps step hstep, Surroundings.approvalConfig_eq_ok_iff] at hconfig
    obtain rfl := Option.some.inj hconfig
    simp
  case assigns =>
    intro step hstep rule hrule
    rw [hsteps step hstep] at hrule
    cases hrule
  case renders =>
    intro step hstep a ha
    rw [hsteps step hstep] at ha
    simp [again, sign, Release.review, Release.action] at ha

theorem movesOn_again :
    circle.MovesOn again { Release.action with id := "present", target := "sign" } :=
  ⟨rfl, ⟨{ enabled := false }, 1, {}, {}, rfl, rfl⟩, rfl⟩

theorem walk_circle {step last : Step} {passed : List Step} (walk : circle.Walk step passed last)
    (here : step = again) : last = again := by
  induction walk with
  | here => exact here
  | on moves found _ ih =>
    subst here
    obtain rfl := moves.unique movesOn_again
    exact ih (Option.some.inj found).symm

theorem endless_circle : circle.Endless again := by
  intro passed last walk rests
  rw [walk_circle walk rfl] at rests
  exact rests _ movesOn_again

end Detour

namespace Surroundings

/-- Sent back by Ann, the form passes the signature and the review, and comes to rest at work; the
form that is signed again and again is not started. -/
theorem Enters.walks_to_rest_detour : Detour.request.surroundings.Unhindered ∧
    (∃ t left, (Detour.request.perform (.decide Detour.rejection)).Returns {} t left ∧
      t.state.step = "work" ∧ t.state.moved = 3) ∧
    (Detour.circle.start (Release.submission none)).Fails {} (.refuse .configuration
      "Skipped approval chains loop through follow-up actions" [("step_id", .text "sign")]) := by
  have hrests := Enters.walks_to_rest Detour.enters Detour.unhindered
  have hround := Enters.walks_to_rest (@Enters.start Detour.circle (Release.submission none) {})
    Detour.unhindered_circle
  obtain ⟨passed, last, walk, -, hfails⟩ := hround.2 Detour.endless_circle
  rw [Detour.walk_circle walk rfl] at hfails
  exact ⟨Detour.unhindered, (hrests.1 _ _ Detour.walk Detour.rests).2, hfails⟩

end Surroundings

end Formwork
