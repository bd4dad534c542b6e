import Formwork.Template.Basic
import Formwork.Automation.Run
/-!
What a form shows while it is filled in: its defaults, then what its conditional rules decide, and
what its business rules do when a field changes.
-/
namespace Formwork

open Document Calendar

/-- What followed from the change of one field. -/
structure FieldChange where
  effects : RuleEffects
  results : List RuleResult
  updates : Updates

namespace FieldChange

def document (c : FieldChange) : Value :=
  .map [("conditional", c.effects.document), ("rule_results", ofList RuleResult.document c.results),
    ("field_updates", c.updates.document)]

end FieldChange

namespace FormTemplate

/-- What a submission of the form is read against: the fields that it declares are the known ones,
and the locale is the usual one unless a caller names another. -/
def contextFor (t : FormTemplate) (s : Submission) (settings : Settings) (host : Host)
    (now : Instant) (locale : Option String) : Context :=
  { Context.ofSubmission s host now ((locale.filter (!·.isEmpty)).or (some settings.locale)) with
    knownFields := some t.fieldIds }

/-- The request on a submission that is in the template's workflow. -/
def workflowRequest? (t : FormTemplate) (s : Submission) (context : Context) (load : Load) :
    Option WorkflowRequest :=
  match t.workflow, s.state with
  | some workflow, some _ =>
    some { submission := s, workflow := workflow, context := context, load := load,
           defaultApproval := t.approval }
  | _, _ => none

/-- The defaults of empty fields, and what conditional rules decide with them filled in. -/
def evaluateForm (t : FormTemplate) (context : Context) : Except Failure RuleEffects := do
  let defaults := defaultUpdates t.fields context
  let filled := context.withData (Entries.ofList (defaults.map fun u => (u.field, u.value)))
  let effects ← applyRules t.fieldRules filled
  pure { effects with updates := defaults ++ effects.updates,
                      merged := Updates.mergeAll [Updates.ofList defaults, effects.merged] }

/-- Apply again the rules that read a field, and run the business rules that wait for its change. -/
def changeField (t : FormTemplate) (s : Submission) (field : String) (settings : Settings)
    (context : Context) : Work FieldChange := do
  let effects ← Work.lift (applyRulesReading field t.fieldRules context)
  let results ← BusinessRule.evaluate t.businessRules .onFieldChange
    { trigger := .onFieldChange, field := some field } settings
    ⟨context, t.workflowRequest? s context {}⟩
  pure ⟨effects, results, Updates.mergeAll (effects.merged :: results.map (·.updates))⟩

end FormTemplate
end Formwork
