import Formwork.Action.Basic
import Formwork.Approval.Config
/-!
Workflows: a graph of steps with named actions that lead from one step to another. A configuration
is accepted only if its graph is sound: ids are distinct, there is one start, and every action leads
to a step that exists.
-/
namespace Formwork

open Document

inductive StepKind where
  | start
  | task
  | approval
  | finish
  deriving DecidableEq

namespace StepKind

def name : StepKind → String
  | start => "start"
  | task => "task"
  | approval => "approval"
  | finish => "end"

instance : Named StepKind where
  all := [start, task, approval, finish]
  name := name

end StepKind

structure StepAction where
  id : String
  name : Option String
  target : String
  /-- Any one of these roles is enough. -/
  requiredRoles : List String
  guard : Option Group
  /-- Whether the rule of the target step assigns the submission. -/
  autoAssign : Bool
  autoActions : List Action
  requiresComment : Bool
  /-- Whether the action may run while the approval chain of its step is pending. -/
  duringApproval : Bool

namespace StepAction

def decoder (host : Host) : Decoder StepAction :=
  (Fields.record
    (StepAction.mk <$> Fields.required "action_id" Decoder.text
      <*> Fields.optional "name" Decoder.text
      <*> Fields.required "target_step_id" Decoder.text
      <*> Fields.given "required_roles" [] (Decoder.list Decoder.text)
      <*> Fields.optional "guard" (Group.decoder host)
      <*> Fields.given "auto_assign" true Decoder.truth
      <*> Fields.given "auto_actions" [] (Decoder.list (Action.decoder host))
      <*> Fields.given "requires_comment" false Decoder.truth
      <*> Fields.given "allowed_during_approval" false Decoder.truth)
    "WorkflowAction").check fun a =>
      match Action.automaticFault? s!"action {a.id}" a.autoActions with
      | none => .ok a
      | some rule => .broken rule

def document (a : StepAction) : Value :=
  .map [("action_id", .text a.id), ("name", Value.ofText? a.name),
    ("target_step_id", .text a.target), ("required_roles", Value.ofTexts a.requiredRoles),
    ("guard", ofOption Group.document a.guard), ("auto_assign", .bool a.autoAssign),
    ("auto_actions", ofList Action.document a.autoActions),
    ("requires_comment", .bool a.requiresComment),
    ("allowed_during_approval", .bool a.duringApproval)]

end StepAction

structure Step where
  id : String
  name : Option String
  kind : StepKind
  actions : List StepAction
  approval : Option ApprovalConfig
  assignment : Option AssignmentRule
  /-- The status while a task step is current. -/
  activeStatus : Status
  /-- The status when an end step is reached. -/
  finalStatus : Option Status
  onEnter : List Action
  onExit : List Action
  /-- The action that runs when the chain of the step is approved. -/
  onApproved : Option String
  /-- The action that runs when the chain of the step is rejected. -/
  onRejected : Option String

namespace Step

/-- What is unsound in a step. -/
inductive Flaw where
  | finalStatus
  | activeStatus
  | repeatedAction
  | followUp (action : String)
  | automatic (rule : String)

def Flaw.message (id : String) : Flaw → String
  | finalStatus => s!"end step {id} needs a terminal status"
  | activeStatus => s!"step {id}: active_status cannot be terminal"
  | repeatedAction => s!"step {id} has duplicate action ids"
  | followUp action => s!"step {id}: follow-up action '{action}' is not defined"
  | automatic rule => rule

def action? (s : Step) (id : String) : Option StepAction := s.actions.find? fun a => a.id == id

/-- A follow-up that names an action the step does not have. -/
def strayFollowUp? (s : Step) (followUp : Option String) : Option String :=
  followUp.bind fun id =>
    if id.isEmpty || (s.action? id).isSome then none else some id

def flaw? (s : Step) : Option Flaw :=
  if s.kind = .finish ∧ (s.finalStatus.map (!Status.isFinal ·)).getD false then some .finalStatus
  else if s.activeStatus.isFinal then some .activeStatus
  else if !(s.actions.map (·.id)).Nodup then some .repeatedAction
  else
    match s.strayFollowUp? s.onApproved, s.strayFollowUp? s.onRejected,
      Action.automaticFault? s!"step {s.id} on_enter" s.onEnter,
      Action.automaticFault? s!"step {s.id} on_exit" s.onExit with
    | some id, _, _, _ => some (.followUp id)
    | none, some id, _, _ => some (.followUp id)
    | none, none, some rule, _ => some (.automatic rule)
    | none, none, none, some rule => some (.automatic rule)
    | none, none, none, none => none

/-- An end step says with which status it ends. -/
def isFinished (s : Step) : Bool := s.kind != .finish || s.finalStatus.isSome

/-- An end step without a status completes the submission. -/
def completed (s : Step) : Step :=
  if s.kind = .finish ∧ s.finalStatus = none then { s with finalStatus := some .completed } else s

def decoder (host : Host) : Decoder Step :=
  (Fields.record
    (Step.mk <$> Fields.required "step_id" Decoder.text
      <*> Fields.optional "name" Decoder.text
      <*> Fields.required "kind" (Decoder.oneOf StepKind)
      <*> Fields.given "actions" [] (Decoder.list (StepAction.decoder host))
      <*> Fields.optional "approval" (ApprovalConfig.decoder host)
      <*> Fields.optional "assignment" (AssignmentRule.decoder host)
      <*> Fields.given "active_status" .inProgress (Decoder.oneOf Status)
      <*> Fields.optional "terminal_status" (Decoder.oneOf Status)
      <*> Fields.given "on_enter" [] (Decoder.list (Action.decoder host))
      <*> Fields.given "on_exit" [] (Decoder.list (Action.decoder host))
      <*> Fields.optional "on_approved_action" Decoder.text
      <*> Fields.optional "on_rejected_action" Decoder.text)
    "WorkflowStep").check fun s =>
      match s.flaw? with
      | none => .ok s.completed
      | some flaw => .broken (flaw.message s.id)

def document (s : Step) : Value :=
  .map [("step_id", .text s.id), ("name", Value.ofText? s.name), ("kind", ofNamed s.kind),
    ("actions", ofList StepAction.document s.actions),
    ("approval", ofOption ApprovalConfig.document s.approval),
    ("assignment", ofOption AssignmentRule.document s.assignment),
    ("active_status", ofNamed s.activeStatus), ("terminal_status", ofOption ofNamed s.finalStatus),
    ("on_enter", ofList Action.document s.onEnter), ("on_exit", ofList Action.document s.onExit),
    ("on_approved_action", Value.ofText? s.onApproved),
    ("on_rejected_action", Value.ofText? s.onRejected)]

end Step

/-- The steps of a workflow and where it starts, sound or not. -/
structure StepGraph where
  steps : List Step
  /-- The first step; the only one of the kind, where none is named. -/
  startId : Option String

namespace StepGraph

/-- What is unsound in a graph of steps. -/
inductive Flaw where
  | repeatedStep
  | unknownStart (id : String)
  | startCount (count : Nat)
  | unknownTarget (action step target : String)
  | unsoundStep (flaw : String)

def Flaw.message : Flaw → String
  | repeatedStep => "workflow has duplicate step ids"
  | unknownStart id => s!"start step '{id}' is not defined"
  | startCount count => s!"workflow needs exactly one start step, found {count}"
  | unknownTarget action step target =>
    s!"action {action} on step {step} targets unknown step '{target}'"
  | unsoundStep flaw => flaw

def step? (g : StepGraph) (id : String) : Option Step := g.steps.find? fun s => s.id == id

def stepIds (g : StepGraph) : List String := g.steps.map (·.id)

def starts (g : StepGraph) : List Step := g.steps.filter fun s => s.kind = .start

/-- The step on which submissions start. -/
def start? (g : StepGraph) : Option Step :=
  match g.startId with
  | some id => g.step? id
  | none => g.starts.head?

def startFlaw? (g : StepGraph) : Option Flaw :=
  match g.startId with
  | some id => if (g.step? id).isSome then none else some (.unknownStart id)
  | none => if g.starts.length = 1 then none else some (.startCount g.starts.length)

/-- The first action that leads to no step. -/
def targetFlaw? (g : StepGraph) : Option Flaw :=
  g.steps.findSome? fun s => s.actions.findSome? fun a =>
    if (g.step? a.target).isSome then none else some (.unknownTarget a.id s.id a.target)

def stepFlaw? (g : StepGraph) : Option Flaw :=
  g.steps.findSome? fun s =>
    match s.flaw? with
    | some flaw => some (.unsoundStep (flaw.message s.id))
    | none => if s.isFinished then none else some (.unsoundStep (Step.Flaw.finalStatus.message s.id))

def flaw? (g : StepGraph) : Option Flaw :=
  if !g.stepIds.Nodup then some .repeatedStep
  else (g.startFlaw?.or g.targetFlaw?).or g.stepFlaw?

def decoder (host : Host) : Decoder StepGraph := Fields.record
  (StepGraph.mk <$> Fields.required "steps" (Decoder.list (Step.decoder host)).nonEmpty
    <*> Fields.optional "start_step_id" Decoder.text)
  "WorkflowConfig"

def document (g : StepGraph) : Value :=
  .map [("steps", ofList Step.document g.steps), ("start_step_id", Value.ofText? g.startId)]

theorem startFlaw?_eq_none {g : StepGraph} (h : g.flaw? = none) : g.startFlaw? = none := by
  unfold flaw? at h
  split at h
  · simp at h
  · simp only [Option.or_eq_none_iff] at h
    exact h.1.1

/-- A sound graph has a step to start on. -/
theorem start?_isSome {g : StepGraph} (h : g.flaw? = none) : g.start?.isSome = true := by
  have hs := startFlaw?_eq_none h
  unfold startFlaw? at hs
  unfold start?
  cases hid : g.startId with
  | some id =>
    simp only [hid] at hs ⊢
    by_cases hsome : (g.step? id).isSome = true
    · exact hsome
    · simp [hsome] at hs
  | none =>
    simp only [hid] at hs ⊢
    by_cases hlen : g.starts.length = 1
    · cases hw : g.starts with
      | nil => simp [hw] at hlen
      | cons s rest => simp
    · simp [hlen] at hs

end StepGraph

/-- A workflow is a graph of steps without a flaw. -/
structure Workflow extends StepGraph where
  sound : toStepGraph.flaw? = none

namespace Workflow

def decoder (host : Host) : Decoder Workflow := fun v => do
  return (← StepGraph.decoder host v).andThen fun g =>
    match h : g.flaw? with
    | none => .ok ⟨g, h⟩
    | some flaw => .broken flaw.message

def document (w : Workflow) : Value := w.toStepGraph.document

/-- The step on which submissions start. -/
def start (w : Workflow) : Step := w.start?.get (StepGraph.start?_isSome w.sound)

end Workflow
end Formwork
