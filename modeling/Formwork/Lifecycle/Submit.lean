import Formwork.Lifecycle.Form
import Formwork.Validation.FormCheck
/-!
Handing in a form: its values are computed and checked, its workflow is started, and the business
rules for submissions run. A form with errors is not accepted and starts nothing.
-/
namespace Formwork

open Document Calendar

structure SubmitOutcome where
  accepted : Bool
  /-- The answers with the computed values. -/
  data : Entries Value
  findings : Findings
  updates : Updates
  transition : Option Transition := none
  results : List RuleResult := []

namespace SubmitOutcome

def document (o : SubmitOutcome) : Value :=
  .map [("accepted", .bool o.accepted), ("data", .map o.data), ("validation", o.findings.document),
    ("field_updates", o.updates.document),
    ("transition", ofOption Transition.document o.transition),
    ("rule_results", ofList RuleResult.document o.results)]

/-- The state in which the submission is left. -/
def state (o : SubmitOutcome) : Option SubmissionState :=
  RuleResult.lastState (o.transition.map (·.state)) o.results

end SubmitOutcome

/-- Answers with the values that updates set. -/
def Updates.applyTo (m : Updates) (data : Entries Value) : Entries Value :=
  m.foldl (fun data (field, properties) =>
    match Entries.get? Property.value.name properties with
    | some v => data.insert field v
    | none => data) data

namespace FormTemplate

/-- Start the workflow of the form, if it has one. -/
def startWorkflow? (t : FormTemplate) (s : Submission) (context : Context) (load : Load) :
    Work (Option Transition) :=
  match t.workflow with
  | none => pure none
  | some workflow => do
    pure (some (← Surroundings.start ⟨workflow, context, load, t.approval⟩ s))

/-- What business rules act on once a form is accepted. -/
def stageAfterStart (t : FormTemplate) (s : Submission) (context : Context) (load : Load) :
    Option Transition → Stage
  | none => { context := context.withStatus .submitted }
  | some started =>
    let s := { s with state := some started.state }
    let context := context.withStatus started.state.status
    let workflow := (t.workflowRequest? s context load).map fun r =>
      r.withNote { expectedVersion := some started.state.version }
    ⟨context, workflow⟩

/-- Hand in a form. Where the submission has come before does not matter. -/
def submit (t : FormTemplate) (s : Submission) (settings : Settings) (load : Load) (host : Host)
    (now : Instant) (locale : Option String) : Work SubmitOutcome := do
  Work.beginPass
  let context := t.contextFor s settings host now locale
  let effects ← Work.lift (t.evaluateForm context)
  let data := effects.merged.applyTo s.data
  let context := { context with data := data }
  let findings ← Work.lift (Validation.checkForm { settings := settings }
    ⟨t.fields, data, effects.merged, context⟩ t.formRules)
  if findings.valid then
    let s := { s with data := data, state := none }
    let started ← t.startWorkflow? s context load
    let results ← BusinessRule.evaluate t.businessRules .onSubmit { trigger := .onSubmit } settings
      (t.stageAfterStart s context load started)
    let maps := effects.merged :: (started.map (·.updates)).toList ++ results.map (·.updates)
    pure ⟨true, data, findings, Updates.mergeAll maps, started, results⟩
  else pure { accepted := false, data := data, findings := findings, updates := effects.merged }

end FormTemplate
end Formwork
