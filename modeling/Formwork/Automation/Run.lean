import Formwork.Automation.Rule
import Formwork.Workflow.Request
/-!
Running business rules. The rules that run are chosen before the first one acts; each sees what the
actions before it did to the data and to the submission. An action that fails ends its own rule, and
its rule alone.
-/
namespace Formwork

open Document Calendar

/-! ## Results -/

/-- What became of one action. -/
structure ActionOutcome where
  id : Option String
  kind : ActionKind
  success : Bool := true
  error : Option String := none
  instruction : Option Instruction := none
  update : Option Update := none
  assignment : Option Assignment := none
  transition : Option Transition := none
  escalations : List Escalation := []

namespace ActionOutcome

def decoder (host : Host) : Decoder ActionOutcome := Fields.openRecord
  (ActionOutcome.mk <$> Fields.optional "action_id" Decoder.text
    <*> Fields.required "type" (Decoder.oneOf ActionKind)
    <*> Fields.given "success" true Decoder.truth
    <*> Fields.optional "error" Decoder.text
    <*> Fields.optional "instruction" Instruction.decoder
    <*> Fields.optional "field_update" Update.decoder
    <*> Fields.optional "assignment" Assignment.decoder
    <*> Fields.optional "transition" (Transition.decoder host)
    <*> Fields.given "escalations" [] (Decoder.list Escalation.decoder))
  "ActionOutcome"

def document (o : ActionOutcome) : Value :=
  .map [("action_id", Value.ofText? o.id), ("type", ofNamed o.kind), ("success", .bool o.success),
    ("error", Value.ofText? o.error), ("instruction", ofOption Instruction.document o.instruction),
    ("field_update", ofOption Update.document o.update),
    ("assignment", ofOption Assignment.document o.assignment),
    ("transition", ofOption Transition.document o.transition),
    ("escalations", ofList Escalation.document o.escalations)]

end ActionOutcome

/-- What became of one rule. -/
structure RuleResult where
  rule : String
  trigger : Trigger
  success : Bool := true
  error : Option String := none
  errorCode : Option String := none
  actions : List ActionOutcome := []

namespace RuleResult

def decoder (host : Host) : Decoder RuleResult := Fields.openRecord
  (RuleResult.mk <$> Fields.required "rule_id" Decoder.text
    <*> Fields.required "trigger" (Decoder.oneOf Trigger)
    <*> Fields.given "success" true Decoder.truth
    <*> Fields.optional "error" Decoder.text
    <*> Fields.optional "error_code" Decoder.text
    <*> Fields.given "actions" [] (Decoder.list (ActionOutcome.decoder host)))
  "RuleExecutionResult"

def document (r : RuleResult) : Value :=
  .map [("rule_id", .text r.rule), ("trigger", ofNamed r.trigger), ("success", .bool r.success),
    ("error", Value.ofText? r.error), ("error_code", Value.ofText? r.errorCode),
    ("actions", ofList ActionOutcome.document r.actions)]

/-- The updates of the rule's actions, in their order. -/
def updates (r : RuleResult) : Updates := Updates.ofList (r.actions.filterMap (·.update))

def instructions (r : RuleResult) : List Instruction := r.actions.filterMap (·.instruction)

def transitions (r : RuleResult) : List Transition := r.actions.filterMap (·.transition)

/-- The state of the last transition that rules made, or else a given one. -/
def lastState (state : Option SubmissionState) (results : List RuleResult) :
    Option SubmissionState :=
  ((results.flatMap (·.transitions)).getLast?.map (·.state)).or state

end RuleResult

/-! ## Actions -/

namespace BusinessRule

/-- The source that instructions of a rule name. -/
def source (r : BusinessRule) : String := "rule:" ++ r.id

end BusinessRule

/-- What rules act on: the context, and the submission where it is in a workflow. -/
structure Stage where
  context : Context
  workflow : Option WorkflowRequest := none

namespace Stage

/-- The submission in its workflow, which some actions cannot do without. -/
def requireWorkflow (s : Stage) (kind : ActionKind) :
    Except Failure (WorkflowRequest × SubmissionState) :=
  match s.workflow.bind fun w => w.submission.state.map fun state => (w, state) with
  | some found => .ok found
  | none =>
    .error (.refuse .ruleExecution s!"{kind.name} action needs a submission in a workflow" [])

/-- Carry out what escalations are due at the instant of the context. -/
def escalate (s : Stage) (settings : Settings) (outcome : ActionOutcome) : Work ActionOutcome := do
  let (w, state) ← Work.lift (s.requireWorkflow .escalate)
  if state.status ≠ .pendingApproval then pure outcome
  else
    let found ← Work.lift (state.chain.escalations settings (.ofInstant s.context.now))
    if found.isEmpty then pure outcome
    else
      let w := { w with context := { w.context with now := s.context.now } }
      let transition ← w.escalate found
      pure { outcome with escalations := found, transition := some transition }

/-- Carry out an action of a rule. -/
def act (s : Stage) (settings : Settings) (r : BusinessRule) (a : Action) : Work ActionOutcome := do
  let outcome : ActionOutcome := { id := a.id, kind := a.kind }
  match a.deed with
  | .setField .. => pure { outcome with update := ← Work.lift (a.update? r.id s.context) }
  | .assign rule =>
    let load := (s.workflow.map (·.load)).getD {}
    pure { outcome with assignment := some (← Work.lift (rule.assign load s.context)) }
  | .changeStatus status =>
    let (w, _) ← Work.lift (s.requireWorkflow .changeStatus)
    let transition ← w.terminate (ofNamed status) (.text r.source)
    pure { outcome with transition := some transition }
  | .escalate _ => s.escalate settings outcome
  | .notify _ | .createTask _ | .callWebhook _ =>
    pure { outcome with instruction := ← a.instruction r.source s.context }

/-- What later actions see after an outcome. -/
def after (s : Stage) (o : ActionOutcome) : Stage :=
  let s := match o.update with
    | none => s
    | some u => { s with context := s.context.withData [(u.field, u.value)] }
  match o.transition, s.workflow with
  | some t, some w =>
    { context := s.context.withStatus t.state.status,
      workflow := some { w with submission := { w.submission with state := some t.state },
                                expectedVersion := some t.state.version } }
  | _, _ => s

/-- How a failure of an action is told. -/
def failureText (kind : ActionKind) (failure : Failure) : String :=
  match failure with
  | .refused r =>
    if r.kind = .ruleExecution then r.message else s!"{kind.name} action failed: {r.message}"
  | failure => s!"{kind.name} action failed: {failure.message}"

/-- The outcomes of actions up to the first that fails, and what they leave behind. -/
def actAll (settings : Settings) (r : BusinessRule) :
    List Action → Stage → StateM Ids (List ActionOutcome × Stage)
  | [], s => pure ([], s)
  | a :: rest, s => do
    match ← (s.act settings r a).run with
    | .error failure =>
      pure ([{ id := a.id, kind := a.kind, success := false,
               error := some (failureText a.kind failure) }], s)
    | .ok outcome =>
      let (later, s) ← actAll settings r rest (s.after outcome)
      pure (outcome :: later, s)

/-- Run one rule. -/
def run (s : Stage) (settings : Settings) (trigger : Trigger) (r : BusinessRule) :
    StateM Ids (RuleResult × Stage) := do
  let (outcomes, s) ← actAll settings r r.actions s
  let error := (outcomes.find? fun o => !o.success).bind (·.error)
  pure ({ rule := r.id, trigger := trigger, success := error.isNone, error := error,
          errorCode := error.map fun _ => Refusal.Kind.ruleExecution.code, actions := outcomes }, s)

/-- Run rules one after another, up to one that ends the run. -/
def runAll (settings : Settings) (trigger : Trigger) :
    List BusinessRule → Stage → StateM Ids (List RuleResult)
  | [], _ => pure []
  | r :: rest, s => do
    let (result, s) ← s.run settings trigger r
    if r.stops then pure [result]
    else do
      let later ← runAll settings trigger rest s
      pure (result :: later)

end Stage

/-- Run all rules that an event calls for. -/
def BusinessRule.evaluate (rules : List BusinessRule) (trigger : Trigger) (event : TriggerEvent)
    (settings : Settings) (stage : Stage) : Work (List RuleResult) := do
  let selected ← Work.lift (BusinessRule.select rules trigger event stage.context)
  ExceptT.lift (Stage.runAll settings trigger selected stage)

end Formwork
