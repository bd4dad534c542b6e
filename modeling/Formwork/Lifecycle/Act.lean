import Formwork.Lifecycle.Form
/-!
What happens to a submission after it was handed in: actions, decisions of approvers, and the ticks
of a clock. When the status changes, the business rules that wait for it run, and their effects
become part of the transition.
-/
namespace Formwork

open Document Calendar

/-- A transition with what rules did after it. -/
def Transition.withResults (t : Transition) (results : List RuleResult) : Transition :=
  let state := (RuleResult.lastState (some t.state) results).getD t.state
  { t with instructions := t.instructions ++ results.flatMap (·.instructions),
           updates := Updates.mergeAll (t.updates :: results.map (·.updates)),
           state := state, status := state.status }

namespace FormTemplate

/-- The request on a submission, which must be in the template's workflow. The note is read only
then. -/
def requireWorkflow (t : FormTemplate) (s : Submission) (context : Context) (load : Load)
    (note : Except Failure RequestNote) : Except Failure WorkflowRequest :=
  match t.workflowRequest? s context load with
  | some r => do pure (r.withNote (← note))
  | none => .error (.refuse .invalidState "Submission has no workflow to act on" [s.detail])

/-- Run the rules that wait for the status which a transition brought. -/
def afterTransition (t : FormTemplate) (r : WorkflowRequest) (settings : Settings)
    (done : Transition) : Work Transition := do
  let previous := r.submission.status
  if previous = some done.status then pure done
  else
    let context := r.context.withStatus done.status
    let next := { r with submission := { r.submission with state := some done.state },
                         context := context, expectedVersion := some done.state.version }
    let results ← BusinessRule.evaluate t.businessRules .onStatusChange
      { trigger := .onStatusChange, oldStatus := previous, newStatus := some done.status } settings
      ⟨context, some next⟩
    pure (if results.isEmpty then done else done.withResults results)

/-- Carry out an action of the current step. -/
def execute (t : FormTemplate) (s : Submission) (actionId : String) (settings : Settings)
    (context : Context) (load : Load) (note : Except Failure RequestNote) : Work Transition := do
  let r ← Work.lift (t.requireWorkflow s context load note)
  t.afterTransition r settings (← r.execute actionId)

/-- Decide on the approval chain of the current step. -/
def decide (t : FormTemplate) (s : Submission) (ballot : Except Failure Ballot)
    (settings : Settings) (context : Context) (note : Except Failure RequestNote) :
    Work Transition := do
  let r ← Work.lift (t.requireWorkflow s context {} note)
  t.afterTransition r settings (← r.decide ballot)

/-- Run the scheduled rules of one submission. -/
def runScheduled (t : FormTemplate) (s : Submission) (settings : Settings) (host : Host)
    (now : Instant) (load : Load) : Work (List RuleResult) :=
  let context := t.contextFor s settings host now none
  BusinessRule.evaluate t.businessRules .scheduled { trigger := .scheduled } settings
    ⟨context, t.workflowRequest? s context load⟩

end FormTemplate

/-- What a tick of the clock comes to: how many submissions had a rule that ran, and what is handed
on of them. -/
structure Ticked where
  processed : Nat := 0
  handed : List (Submission × List RuleResult) := []

/-- Hand on a submission with its results, ahead of those behind it. -/
def Ticked.handOn (s : Submission) (results : List RuleResult) (later : Ticked) : Ticked :=
  { processed := later.processed + 1, handed := (s, results) :: later.handed }

/-- Run the scheduled rules of submissions one after another. Handed on are those for which a rule
ran, with the results; a submission for which that fails is passed over. -/
def runScheduledEach (settings : Settings) (host : Host) (now : Instant) :
    List (FormTemplate × Submission) → StateM Ids Ticked
  | [] => pure {}
  | (t, s) :: rest => do
    let outcome ← (t.runScheduled s settings host now {}).run
    let later ← runScheduledEach settings host now rest
    match outcome with
    | .ok results => pure (if results.isEmpty then later else Ticked.handOn s results later)
    | .error _ => pure later

/-- A tick of the clock: one pass over many submissions. -/
def tickAll (settings : Settings) (host : Host) (now : Instant)
    (submissions : List (FormTemplate × Submission)) : StateM Ids Ticked := do
  modify Ids.skip
  runScheduledEach settings host now submissions

end Formwork
