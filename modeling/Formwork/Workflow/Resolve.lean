import Formwork.Workflow.Config
import Formwork.Submission.Basic
/-!
Which actions a step offers, and to whom. An action is offered on its own step to a user who holds
one of its roles, if it asks for any, and only while its guard holds.
-/
namespace Formwork

open Document

/-- Whether one of the required roles is held, or none is required. -/
def holdsRole (roles required : List String) : Bool :=
  required.isEmpty || required.any roles.contains

namespace StepAction

/-- Whether a user may take an action. -/
def permits (a : StepAction) (user : Option User) : Bool :=
  a.requiredRoles.isEmpty ||
    match user with
    | none => false
    | some u => holdsRole u.roles a.requiredRoles

def enforce (a : StepAction) (user : Option User) : Except Failure Unit :=
  if a.permits user then .ok ()
  else
    .error (.refuse .unauthorized
      s!"Action '{a.id}' requires one of roles {Value.textsLiteral a.requiredRoles}"
      [("action_id", .text a.id), ("user_id", Value.ofText? (user.map (·.id)))])

def checkGuard (a : StepAction) (context : Context) : Except Failure Unit := do
  if ← Group.holds? a.guard context then pure ()
  else
    throw (.refuse .guardNotSatisfied s!"Guard for action '{a.id}' is not satisfied"
      [("action_id", .text a.id)])

/-- Whether an action can be taken in a status by the user of a context. -/
def isAvailable (a : StepAction) (status : Status) (context : Context) : Except Failure Bool :=
  if status = .pendingApproval ∧ !a.duringApproval then .ok false
  else if !a.permits context.user then .ok false
  else Group.holds? a.guard context

end StepAction

namespace Step

/-- An action of the step, or the refusal of one that it does not offer. -/
def requireAction (s : Step) (id : String) : Except Failure StepAction :=
  match s.action? id with
  | some a => .ok a
  | none =>
    .error (.refuse .actionNotAvailable s!"Action '{id}' is not available on step '{s.id}'"
      [("action_id", .text id), ("step_id", .text s.id),
        ("available", Value.ofTexts (s.actions.map (·.id)))])

/-- The action that follows an approval chain by itself. -/
def followUp? (s : Step) (id : Option String) : Option StepAction :=
  (id.filter fun id => !id.isEmpty).bind s.action?

/-- Those of some actions that can be taken. -/
def availableAmong (status : Status) (context : Context) :
    List StepAction → Except Failure (List StepAction)
  | [] => .ok []
  | a :: rest => do
    let b ← a.isAvailable status context
    let later ← availableAmong status context rest
    pure (if b then a :: later else later)

end Step

namespace Workflow

/-- A step of the workflow, or the refusal of one that it does not have. -/
def requireStep (w : Workflow) (id : String) : Except Failure Step :=
  match w.step? id with
  | some s => .ok s
  | none =>
    .error (.refuse .stepNotFound s!"Step '{id}' does not exist in the workflow"
      [("step_id", .text id), ("known_steps", Value.ofTexts w.stepIds)])

/-- The actions of the current step that can be taken, none once the submission is finished. -/
def available (w : Workflow) (state : SubmissionState) (context : Context) :
    Except Failure (List StepAction) :=
  if state.status.isFinal then .ok []
  else do
    let step ← w.requireStep state.step
    Step.availableAmong state.status context step.actions

end Workflow
end Formwork
