import Formwork.Automation.Run
import Formwork.Template.Basic
/-!
The kinds of documents by name. A document of any kind can be completed: read and written again,
with every part that it leaves out filled in.
-/
namespace Formwork

open Calendar Document

/-- A kind of document, and how one is completed. -/
structure DocumentKind where
  name : String
  complete : Value → Work Value

namespace DocumentKind

/-- The kind of the documents that a decoder reads. -/
def of {α : Type} (name : String) (decoder : Decoder α) (document : α → Value) : DocumentKind :=
  ⟨name, fun v => do pure (document (← decoder.decode name v))⟩

def ofAction (host : Host) (name : String) (kind : ActionKind) : DocumentKind :=
  of name (Action.decoderFor host kind) Action.document

/-- Contexts, and what is declared about the fields of a form. -/
def ofForms (host : Host) (now : Instant) : List DocumentKind :=
  [of "UserContext" User.decoder User.document,
    of "SubmissionRef" Reference.decoder Reference.document,
    of "EvaluationContext" (Context.decoder host now) Context.document,
    of "Condition" (Condition.decoder host) Condition.document,
    of "ConditionGroup" (Group.decoder host) Group.document,
    of "FieldOption" Choice.decoder Choice.document,
    of "FieldValidation" (Demands.decoder host) Demands.document,
    of "SmartField" (Field.decoder host) Field.document,
    of "ConditionalAction" FieldAction.decoder FieldAction.document,
    of "ConditionalRule" (FieldRule.decoder host) FieldRule.document,
    of "FieldUpdate" Update.decoder Update.document,
    of "ConditionalResult" RuleEffects.decoder RuleEffects.document,
    of "ValidationRule" (FormRule.decoder host) FormRule.document,
    of "FieldError" FieldError.decoder FieldError.document,
    of "ValidationResult" Findings.decoder Findings.document,
    of "FormTemplate" (FormTemplate.decoder host) FormTemplate.document,
    of "Settings" Settings.decoder Settings.document]

/-- Who takes over a submission, and who approves it. -/
def ofPeople (host : Host) (now : Instant) : List DocumentKind :=
  [of "Candidate" Candidate.decoder Candidate.document,
    of "AssignmentRule" (AssignmentRule.decoder host) AssignmentRule.document,
    of "LoadSnapshot" Load.decoder Load.document,
    of "AssignmentResult" Assignment.decoder Assignment.document,
    of "Assignee" Assignee.decoder Assignee.document,
    of "ApprovalLevel" (ApprovalLevel.decoder host) ApprovalLevel.document,
    of "ApprovalConfig" (ApprovalConfig.decoder host) ApprovalConfig.document,
    of "ApprovalRecord" ApprovalRecord.decoder ApprovalRecord.document,
    of "ApprovalRequest" (ApprovalRequest.decoder host now) ApprovalRequest.document,
    of "ApprovalResult" ApprovalOutcome.decoder ApprovalOutcome.document,
    of "EscalationResult" Escalation.decoder Escalation.document]

/-- Actions, workflows and business rules. -/
def ofProcesses (host : Host) (now : Instant) : List DocumentKind :=
  [ofAction host "NotifyAction" .notify,
    ofAction host "AssignAction" .assign,
    ofAction host "SetFieldValueAction" .setFieldValue,
    ofAction host "CreateTaskAction" .createTask,
    ofAction host "ChangeStatusAction" .changeStatus,
    ofAction host "EscalateAction" .escalate,
    ofAction host "CallWebhookAction" .callWebhook,
    of "Instruction" Instruction.decoder Instruction.document,
    of "WorkflowAction" (StepAction.decoder host) StepAction.document,
    of "WorkflowStep" (Step.decoder host) Step.document,
    of "WorkflowConfig" (Workflow.decoder host) Workflow.document,
    of "TimelineEvent" HistoryEvent.decoder HistoryEvent.document,
    of "WorkflowState" SubmissionState.decoder SubmissionState.document,
    of "SubmissionSnapshot" Submission.decoder Submission.document,
    of "WorkflowActionContext" (WorkflowRequest.decoder host now) WorkflowRequest.document,
    of "WorkflowTransitionResult" (Transition.decoder host) Transition.document,
    of "BusinessRule" (BusinessRule.decoder host) BusinessRule.document,
    of "RuleEvent" TriggerEvent.decoder TriggerEvent.document,
    of "ActionOutcome" (ActionOutcome.decoder host) ActionOutcome.document,
    of "RuleExecutionResult" (RuleResult.decoder host) RuleResult.document]

/-- The kind of a name, whose documents are read on a machine at an instant. -/
def ofName? (host : Host) (now : Instant) (name : String) : Option DocumentKind :=
  (ofForms host now ++ ofPeople host now ++ ofProcesses host now).find? fun k => k.name == name

end DocumentKind
end Formwork
