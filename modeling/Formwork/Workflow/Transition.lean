import Formwork.Workflow.Resolve
import Formwork.Action.Instruct
import Formwork.Assignment.Choose
import Formwork.Approval.Escalation
/-!
The way of a submission from step to step. To enter a step is to carry out what the step asks for on
entry, to take its status, to start its approval chain, and to assign the submission. Where a chain
asks nobody, the submission moves on by itself through the action that follows an approval; as a
workflow has finitely many steps, a way with more of these moves than steps goes round for ever and
is refused.
-/
namespace Formwork

open Document Calendar

/-! ## Results -/

structure Transition where
  previous : Option String
  step : Step
  status : Status
  assignee : Option Assignee
  /-- The outcome of the last assignment on the way. -/
  assignment : Option Assignment
  /-- The records that were made on the way. -/
  chain : Chain
  instructions : List Instruction
  updates : Updates
  state : SubmissionState

namespace Transition

def decoder (host : Host) : Decoder Transition := Fields.openRecord
  (Transition.mk <$> Fields.optional "previous_step_id" Decoder.text
    <*> Fields.required "new_step" (Step.decoder host)
    <*> Fields.required "new_status" (Decoder.oneOf Status)
    <*> Fields.optional "assignee" Assignee.decoder
    <*> Fields.optional "assignment" Assignment.decoder
    <*> Fields.given "approvals" [] (Decoder.list ApprovalRecord.decoder)
    <*> Fields.given "instructions" [] (Decoder.list Instruction.decoder)
    <*> Fields.given "field_updates" [] Updates.decoder
    <*> Fields.required "state" SubmissionState.decoder)
  "WorkflowTransitionResult"

/-- The document of a transition, in which its step stands by its id. -/
def document (t : Transition) : Value :=
  .map [("previous_step_id", Value.ofText? t.previous), ("new_step", .text t.step.id),
    ("new_status", ofNamed t.status), ("assignee", ofOption Assignee.document t.assignee),
    ("assignment", ofOption Assignment.document t.assignment),
    ("approvals", ofList ApprovalRecord.document t.chain),
    ("instructions", ofList Instruction.document t.instructions),
    ("field_updates", t.updates.document), ("state", t.state.document)]

end Transition

/-! ## Journeys -/

/-- What stays the same along the way. -/
structure Surroundings where
  workflow : Workflow
  context : Context
  load : Load
  /-- For approval steps without a configuration of their own. -/
  defaultApproval : Option ApprovalConfig

/-- How far a submission has come, and what happened on the way. -/
structure Journey where
  state : SubmissionState
  instructions : List Instruction := []
  updates : Updates := []
  chain : Chain := []
  assignment : Option Assignment := none

namespace Surroundings

/-- The instant of the way, as it is written down. -/
def time (e : Surroundings) : Stamp := .ofInstant e.context.now

/-- The configuration of a step's approval chain. -/
def approvalConfig (e : Surroundings) (step : Step) : Except Failure ApprovalConfig :=
  match step.approval.or e.defaultApproval with
  | some config => .ok config
  | none =>
    .error (.refuse .configuration s!"Approval step '{step.id}' has no approval configuration"
      [("step_id", .text step.id)])

end Surroundings

namespace Journey

/-- Carry out actions: updates of fields are merged, instructions collected. -/
def perform (source : String) (context : Context) : List Action → Journey → Work Journey
  | [], j => pure j
  | a :: rest, j => do
    match ← Work.lift (a.update? source context) with
    | some u => perform source context rest { j with updates := j.updates.set u }
    | none =>
      let made ← a.instruction source context
      perform source context rest { j with instructions := j.instructions ++ made.toList }

def withStatus (j : Journey) (status : Status) : Journey :=
  { j with state := { j.state with status := status } }

/-- Note the change from an earlier status. -/
def noteStatus (j : Journey) (previous : Status) (time : Stamp) (actor : Option String) :
    Work Journey := do
  pure { j with state := ← j.state.noteStatus previous time actor }

/-- Start the next round of an approval chain. -/
def startRound (j : Journey) (records : Chain) (step : Step) (time : Stamp)
    (actor : Option String) : Work Journey := do
  let round := j.state.round + 1
  let state ←
    { j.state with chain := j.state.chain ++ records, round := round,
                   status := .pendingApproval }.note .approvalInitialized time actor (some step.id)
      [("round", .int round), ("records", .int records.length)]
  pure { j with state := state, chain := j.chain ++ records }

/-- Assign the submission by the rule of a step. -/
def assign (j : Journey) (e : Surroundings) (step : Step) (rule : AssignmentRule)
    (actor : Option String) : Work Journey := do
  let chosen ← Work.lift (rule.assign e.load e.context)
  let j := { j with assignment := some chosen }
  match chosen.assignee with
  | none => pure { j with state := { j.state with assignee := none } }
  | some c =>
    let state ← j.state.note .assigned e.time actor (some step.id)
      [("assignee", .text c.id), ("strategy", .text rule.strategy.name)]
    pure { j with state := { state with
      assignee := some ⟨c.id, c.name, some e.time, chosen.rule⟩ } }

/-- Assign the submission on entry, if the step has a rule and the way in allows it. -/
def assignOnEntry (j : Journey) (e : Surroundings) (step : Step) (autoAssign : Bool)
    (actor : Option String) : Work Journey :=
  match step.assignment with
  | none => pure j
  | some rule => if autoAssign && step.kind != .finish then j.assign e step rule actor else pure j

end Journey

namespace SubmissionState

/-- Leave undecided what is still open. -/
def skipOpen (s : SubmissionState) : SubmissionState :=
  { s with chain := s.chain.map fun r =>
      if r.status.isOpen then { r with status := .skipped } else r }

end SubmissionState

namespace Journey

/-- Leave a step through an action, for the step to which it leads. -/
def leave (j : Journey) (e : Surroundings) (step : Step) (action : StepAction)
    (actor comments : Option String) : Work (Step × Journey) := do
  let target ← Work.lift (e.workflow.requireStep action.target)
  let j ← j.perform s!"step:{step.id}" e.context step.onExit
  let j ← j.perform s!"action:{action.id}" e.context action.autoActions
  let state ← { j.state.skipOpen with step := target.id }.note .actionExecuted e.time actor
    (some step.id)
    [("action_id", .text action.id), ("from_step", .text step.id), ("to_step", .text target.id),
      ("comments", Value.ofText? comments)]
  pure (target, { j with state := state })

/-- The status of a step that asks nobody for approval. -/
def restingStatus (step : Step) : Status :=
  match step.kind with
  | .start => .submitted
  | .finish => step.finalStatus.getD .completed
  | .task | .approval => step.activeStatus

/-- Who moves a submission on when nobody is asked. -/
def system : String := Escalation.system

/-- Take the status of a step, or start its chain. The result names the action through which the
submission moves on, if it does not rest. -/
def arrive (j : Journey) (e : Surroundings) (step : Step) (actor : Option String) :
    Work (Journey × Option StepAction) := do
  let previous := j.state.status
  let records ←
    if step.kind = .approval then do
      let config ← Work.lift (e.approvalConfig step)
      config.startChain e.context (j.state.round + 1)
    else pure []
  if records.isEmpty then
    let j ← (j.withStatus (restingStatus step)).noteStatus previous e.time actor
    pure (j, if step.kind = .approval then step.followUp? step.onApproved else none)
  else
    let j ← j.startRound records step e.time actor
    pure (← j.noteStatus previous e.time actor, none)

/-- Enter a step and go on to where the submission rests, with so many moves left. -/
def enter (e : Surroundings) : Nat → Step → Option String → Bool → Journey → Work Journey
  | moves, step, actor, autoAssign, j => do
    let j ← j.perform s!"step:{step.id}" e.context step.onEnter
    let (j, next) ← j.arrive e step actor
    match next with
    | none => j.assignOnEntry e step autoAssign actor
    | some action =>
      match moves with
      | 0 =>
        Work.refuse .configuration "Skipped approval chains loop through follow-up actions"
          [("step_id", .text step.id)]
      | moves + 1 =>
        let (target, j) ← j.leave e step action (some system) none
        enter e moves target (some system) action.autoAssign j

/-- Leave a step through an action and enter the next one. -/
def follow (j : Journey) (e : Surroundings) (moves : Nat) (step : Step) (action : StepAction)
    (actor comments : Option String) : Work Journey := do
  let (target, j) ← j.leave e step action actor comments
  enter e moves target actor action.autoAssign j

/-- The transition that a journey makes. -/
def transition (j : Journey) (e : Surroundings) (previous : Option String) :
    Except Failure Transition := do
  let step ← e.workflow.requireStep j.state.step
  pure ⟨previous, step, j.state.status, j.state.assignee, j.assignment, j.chain, j.instructions,
    j.updates, j.state⟩

end Journey
end Formwork
