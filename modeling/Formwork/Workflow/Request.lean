import Formwork.Workflow.Transition
import Formwork.Approval.Request
/-!
Operations on submissions in a workflow. Each starts from the state of the submission, refuses what
is not allowed there, and answers with a transition whose state is the next version; the submission
itself is left as it is.
-/
namespace Formwork

open Document Calendar

/-- What an operation needs to know. -/
structure WorkflowRequest where
  submission : Submission
  workflow : Workflow
  context : Context
  comments : Option String := none
  /-- The version that the caller read. -/
  expectedVersion : Option Int := none
  load : Load := {}
  defaultApproval : Option ApprovalConfig := none

/-- What a caller adds to a request. -/
structure RequestNote where
  comments : Option String := none
  expectedVersion : Option Int := none

/-- A decision of an approver, before it is known on what. -/
structure Ballot where
  approver : String
  /-- Where none are given, the roles of the user count if the user is the approver. -/
  roles : Option (List String)
  decision : Decision
  delegate : Option String

namespace Ballot

def decoder : Decoder Ballot := Fields.openRecord
  (Ballot.mk <$> Fields.required "approver_id" Decoder.text
    <*> Fields.optional "approver_roles" (Decoder.list Decoder.text)
    <*> Fields.required "decision" (Decoder.oneOf Decision)
    <*> Fields.optional "delegate_to" Decoder.text)
  ApprovalRequest.modelName

/-- A ballot that someone handed in. -/
def read (v : Value) : Except Failure Ballot := (decoder.decode ApprovalRequest.modelName v {}).1

/-- The roles with which the approver acts. -/
def rolesIn (b : Ballot) (context : Context) : List String :=
  match b.roles, context.user with
  | some roles, _ => roles
  | none, some u => if u.id = b.approver then u.roles else []
  | none, none => []

end Ballot

namespace WorkflowRequest

def modelName : String := "WorkflowActionContext"

def decoder (host : Host) (now : Instant) : Decoder WorkflowRequest := Fields.openRecord
  (WorkflowRequest.mk <$> Fields.required "submission" Submission.decoder
    <*> Fields.required "config" (Workflow.decoder host)
    <*> Fields.required "context" (Context.decoder host now)
    <*> Fields.optional "comments" Decoder.text
    <*> Fields.optional "expected_version" Decoder.whole
    <*> Fields.given "load_snapshot" {} Load.decoder
    <*> Fields.optional "default_approval" (ApprovalConfig.decoder host))
  modelName

def document (r : WorkflowRequest) : Value :=
  .map [("submission", r.submission.document), ("config", r.workflow.document),
    ("context", r.context.document), ("comments", Value.ofText? r.comments),
    ("expected_version", Value.ofInt? r.expectedVersion), ("load_snapshot", r.load.document),
    ("default_approval", ofOption ApprovalConfig.document r.defaultApproval)]

/-- The same request with a note. -/
def withNote (r : WorkflowRequest) (note : RequestNote) : WorkflowRequest :=
  { r with comments := note.comments, expectedVersion := note.expectedVersion }

def surroundings (r : WorkflowRequest) : Surroundings :=
  ⟨r.workflow, r.context, r.load, r.defaultApproval⟩

/-- The id of the user who acts. -/
def actor (r : WorkflowRequest) : Option String := r.context.user.map (·.id)

def stepCount (r : WorkflowRequest) : Nat := r.workflow.steps.length

/-! ## Checks -/

/-- The state of the submission, which must be in a workflow. -/
def requireState (r : WorkflowRequest) : Except Failure SubmissionState :=
  match r.submission.state with
  | some state => .ok state
  | none =>
    .error (.refuse .invalidState "Submission has not entered a workflow" [r.submission.detail])

/-- The version that was read is the present one. -/
def checkVersion (r : WorkflowRequest) (state : SubmissionState) : Except Failure Unit :=
  match r.expectedVersion with
  | none => .ok ()
  | some version =>
    if version = state.version then .ok ()
    else
      .error (.refuse .concurrency "Workflow state was modified concurrently; re-read and retry"
        [r.submission.detail, ("expected_version", .int version),
          ("actual_version", .int state.version)])

/-- Nothing follows a final status. -/
def checkNotFinal (r : WorkflowRequest) (state : SubmissionState) : Except Failure Unit :=
  if state.status.isFinal then
    .error (.refuse .invalidState s!"Submission is already {state.status.name}"
      [r.submission.detail, ("status", ofNamed state.status)])
  else .ok ()

/-- What is left of an action's checks once its step offers it. -/
def checkAction (r : WorkflowRequest) (state : SubmissionState) (step : Step)
    (action : StepAction) : Except Failure Unit := do
  if state.status = .pendingApproval ∧ !action.duringApproval then
    throw (.refuse .actionNotAvailable
      s!"Action '{action.id}' is not available while approval is pending"
      [("action_id", .text action.id), ("step_id", .text step.id)])
  if action.requiresComment ∧ (Value.ofText? r.comments).isEmpty then
    throw (.refuse .validation s!"Action '{action.id}' requires a comment"
      [("action_id", .text action.id)])
  action.checkGuard r.context
  action.enforce r.context.user

/-- The step and the action that a request may carry out, with the state it starts from. -/
def resolve (r : WorkflowRequest) (actionId : String) :
    Except Failure (SubmissionState × Step × StepAction) := do
  let state ← r.requireState
  r.checkVersion state
  r.checkNotFinal state
  let step ← r.workflow.requireStep state.step
  let action ← step.requireAction actionId
  r.checkAction state step action
  pure (state, step, action)

/-! ## Operations -/

/-- Answer with the next version of where a journey ended. -/
def finish (r : WorkflowRequest) (j : Journey) (step : Step) : Work Transition :=
  Work.lift ({ j with state := j.state.bump }.transition r.surroundings (some step.id))

/-- Carry out an action of the current step. -/
def execute (r : WorkflowRequest) (actionId : String) : Work Transition := do
  let (state, step, action) ← Work.lift (r.resolve actionId)
  let j ← Journey.follow { state := state } r.surroundings r.stepCount step action r.actor
    r.comments
  r.finish j step

/-- End a submission where it stands, with a final status that a caller names. -/
def terminate (r : WorkflowRequest) (status : Value) (reason : Value) :
    Work Transition := do
  let status ← Work.lift (Status.ofValue status)
  if !status.isFinal then
    Work.refuse .validation s!"{status.name} is not a terminal status" [("status", ofNamed status)]
  let state ← Work.lift r.requireState
  Work.lift (r.checkVersion state)
  Work.lift (r.checkNotFinal state)
  let step ← Work.lift (r.workflow.requireStep state.step)
  let ended ← { state.skipOpen with status := status }.note .statusChanged
    r.surroundings.time (some (r.actor.getD Escalation.system)) (some step.id)
    [("from", ofNamed state.status), ("to", ofNamed status), ("reason", reason)]
  r.finish { state := ended } step

/-- Take over what a decision made of the approval chain. -/
def applyOutcome (r : WorkflowRequest) (state : SubmissionState) (step : Step)
    (outcome : ApprovalOutcome) (actor : String) (kind : EventKind) (details : Entries Value) :
    Work SubmissionState := do
  let next ← { state with chain := outcome.chain, status := outcome.status }.note kind
    r.surroundings.time (some actor) (some step.id) details
  next.noteStatus state.status r.surroundings.time (some actor)

/-- The action that follows a chain by itself, once the chain is approved or rejected. -/
def chainFollowUp? (step : Step) (status : Status) : Option StepAction :=
  match status with
  | .completed => step.followUp? step.onApproved
  | .rejected => step.followUp? step.onRejected
  | _ => none

/-- Go on from a chain that has ended. -/
def followChain (r : WorkflowRequest) (step : Step) (j : Journey) : Work Journey :=
  match chainFollowUp? step j.state.status with
  | none => pure j
  | some action =>
    j.follow r.surroundings (r.stepCount - 1) step action (some Escalation.system) none

/-- Decide on the approval chain of the current step. The ballot is opened only where there is
something to decide. -/
def decide (r : WorkflowRequest) (ballot : Except Failure Ballot) : Work Transition := do
  let state ← Work.lift r.requireState
  let step ← Work.lift (r.workflow.requireStep state.step)
  let config ← Work.lift (r.surroundings.approvalConfig step)
  let ballot ← Work.lift ballot
  let request : ApprovalRequest :=
    { submission := r.submission, config := config, approver := ballot.approver,
      roles := ballot.rolesIn r.context, decision := ballot.decision, comments := r.comments,
      delegate := ballot.delegate, expectedVersion := r.expectedVersion,
      time := r.surroundings.time }
  let outcome ← request.process
  let state ← r.applyOutcome state step outcome ballot.approver .approvalDecision
    [("decision", ofNamed ballot.decision), ("record_id", Value.ofText? outcome.decided),
      ("comments", Value.ofText? r.comments)]
  let j ← r.followChain step { state := state }
  r.finish j step

/-- The instruction that tells of an escalation. -/
def escalationInstruction (r : WorkflowRequest) (e : Escalation) : Work Instruction := do
  let id ← Work.fresh .instruction
  pure ⟨id, .escalate, s!"approval:{e.record}",
    Entries.overlay [r.submission.detail] e.entries⟩

/-- Carry out escalations one after another, as long as the submission awaits approval. -/
def escalateAll (r : WorkflowRequest) (step : Step) : List Escalation → Journey → Work Journey
  | [], j => pure j
  | e :: rest, j =>
    if j.state.status = .pendingApproval then do
      let outcome ← { r.submission with state := some j.state }.escalate e r.surroundings.time
      let state ← r.applyOutcome j.state step outcome Escalation.system .approvalEscalated
        [("record_id", .text e.record), ("policy", ofNamed e.policy),
          ("waited_hours", .float e.waited)]
      let made ← r.escalationInstruction e
      r.escalateAll step rest { j with state := state, instructions := j.instructions ++ [made] }
    else pure j

/-- Feed escalations back into the approval chain of the current step. -/
def escalate (r : WorkflowRequest) (escalations : List Escalation) : Work Transition := do
  let state ← Work.lift r.requireState
  Work.lift (r.checkVersion state)
  let step ← Work.lift (r.workflow.requireStep state.step)
  let j ← r.escalateAll step escalations { state := state }
  let j ← r.followChain step j
  r.finish j step

end WorkflowRequest

/-- A note that someone handed in. -/
def RequestNote.read (v : Value) : Except Failure RequestNote :=
  (((Fields.openRecord
    (RequestNote.mk <$> Fields.optional "comments" Decoder.text
      <*> Fields.optional "expected_version" Decoder.whole)
    WorkflowRequest.modelName).decode WorkflowRequest.modelName v) {}).1

/-- Put a submission on the first step of a workflow. -/
def Surroundings.start (e : Surroundings) (submission : Submission) : Work Transition := do
  let step := e.workflow.start
  let actor := some submission.submitter.id
  let state : SubmissionState := { step := step.id, status := .submitted }
  let state ← state.note .workflowStarted e.time actor (some step.id) []
  let j ← Journey.enter e e.workflow.steps.length step actor true { state := state }
  Work.lift (j.transition e none)

end Formwork
