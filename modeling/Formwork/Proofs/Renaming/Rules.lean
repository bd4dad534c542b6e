import Formwork.Proofs.Renaming.Journeys
import Formwork.Proofs.Automation.Acting
/-!
# Rules under other names

What a rule does to a submission, and what later rules see of it, does not depend on the names that
were given out before.
-/
namespace Formwork

open Document Calendar

variable {ρ : Renaming}

/-! ## Operations on the submission -/

namespace WorkflowRequest

theorem requireState_echo (f : String → String) (r : WorkflowRequest) :
    Work.Echo (SubmissionState.rename f) r.requireState (r.rename f).requireState := by
  obtain ⟨⟨_, _, _, _, state⟩, _⟩ := r
  cases state with
  | none => exact .failure rfl
  | some state => exact .value state

theorem finish_renamed (r : WorkflowRequest) (j : Journey) (step : Step) :
    Work.Renamed ρ (Transition.rename ρ.map) (r.finish j step)
      ((r.rename ρ.map).finish (j.rename ρ.map) step) := by
  refine Work.lift_renamed ?_
  change Work.Echo _ (r.workflow.requireStep j.state.step >>= _)
    (r.workflow.requireStep j.state.step >>= _)
  cases r.workflow.requireStep j.state.step with
  | error f => exact .failure rfl
  | ok found => exact .value _

theorem terminate_renamed (r : WorkflowRequest) (status reason : Value) :
    Work.Renamed ρ (Transition.rename ρ.map) (r.terminate status reason)
      ((r.rename ρ.map).terminate status reason) := by
  refine Work.lift_bind_renamed fun status => ?_
  refine Work.ite_renamed (fun _ => Work.throw_bind_renamed rfl) fun _ => ?_
  refine Work.bind_renamed (Work.lift_renamed (r.requireState_echo ρ.map)) fun state => ?_
  refine Work.lift_bind_renamed fun _ => ?_
  refine Work.lift_bind_renamed fun _ => ?_
  refine Work.lift_bind_renamed fun step => ?_
  rw [SubmissionState.rename_skipOpen]
  refine Work.bind_renamed
    (SubmissionState.note_renamed { state.skipOpen with status := status } _ _ _ _ rfl)
    fun ended => ?_
  exact r.finish_renamed { state := ended } step

theorem applyOutcome_renamed (r : WorkflowRequest) (state : SubmissionState) (step : Step)
    (outcome : ApprovalOutcome) (actor : String) (kind : EventKind)
    {details details' : Entries Value} (h : details.rename ρ.map = details') :
    Work.Renamed ρ (SubmissionState.rename ρ.map)
      (r.applyOutcome state step outcome actor kind details)
      ((r.rename ρ.map).applyOutcome (state.rename ρ.map) step (outcome.rename ρ.map) actor kind
        details') :=
  Work.bind_renamed
    (SubmissionState.note_renamed { state with chain := outcome.chain, status := outcome.status }
      _ _ _ _ h)
    fun next => next.noteStatus_renamed _ _ _

theorem followChain_renamed (r : WorkflowRequest) (step : Step) (j : Journey) :
    Work.Renamed ρ (Journey.rename ρ.map) (r.followChain step j)
      ((r.rename ρ.map).followChain step (j.rename ρ.map)) := by
  have hstatus : (j.rename ρ.map).state.status = j.state.status := rfl
  unfold followChain
  rw [hstatus]
  cases chainFollowUp? step j.state.status with
  | none => exact Work.pure_renamed rfl
  | some action => exact j.follow_renamed _ _ _ _ _ _

theorem escalationInstruction_renamed (r : WorkflowRequest) (e : Escalation) :
    Work.Renamed ρ (Instruction.rename ρ.map) (r.escalationInstruction e)
      ((r.rename ρ.map).escalationInstruction (e.rename ρ.map)) := by
  refine Work.bind_renamed (Work.fresh_renamed .instruction) fun id => Work.pure_renamed ?_
  have hsource := Instruction.renameSource_approval (f := ρ.map) e.record
  have hpayload : (Entries.overlay [r.submission.detail] e.entries).rename ρ.map =
      Entries.overlay [r.submission.detail] (e.rename ρ.map).entries := by
    rw [Entries.rename_overlay]
    rfl
  exact congrArg₂ (Instruction.mk (ρ.map id) .escalate) hsource hpayload

theorem escalateAll_renamed (r : WorkflowRequest) (step : Step) (escalations : List Escalation)
    (j : Journey) :
    Work.Renamed ρ (Journey.rename ρ.map) (r.escalateAll step escalations j)
      ((r.rename ρ.map).escalateAll step (escalations.map (·.rename ρ.map)) (j.rename ρ.map)) := by
  induction escalations generalizing j with
  | nil => exact Work.pure_renamed rfl
  | cons e rest ih =>
    refine Work.ite_renamed (fun _ => ?_) fun _ => Work.pure_renamed rfl
    refine Work.bind_renamed
      (Submission.escalate_renamed { r.submission with state := some j.state } e _)
      fun outcome => ?_
    refine Work.bind_renamed (r.applyOutcome_renamed j.state step outcome _ _ rfl) fun state => ?_
    refine Work.bind_renamed (r.escalationInstruction_renamed e) fun made => ?_
    have hmade : { j.rename ρ.map with
          state := state.rename ρ.map,
          instructions := (j.rename ρ.map).instructions ++ [made.rename ρ.map] } =
        Journey.rename ρ.map
          { j with state := state, instructions := j.instructions ++ [made] } := by
      simp [Journey.rename]
    rw [hmade]
    exact ih _

theorem escalate_renamed (r : WorkflowRequest) (escalations : List Escalation) :
    Work.Renamed ρ (Transition.rename ρ.map) (r.escalate escalations)
      ((r.rename ρ.map).escalate (escalations.map (·.rename ρ.map))) := by
  refine Work.bind_renamed (Work.lift_renamed (r.requireState_echo ρ.map)) fun state => ?_
  refine Work.lift_bind_renamed fun _ => ?_
  refine Work.lift_bind_renamed fun step => ?_
  refine Work.bind_renamed (r.escalateAll_renamed step escalations { state := state }) fun j => ?_
  exact Work.bind_renamed (r.followChain_renamed step j) fun j => r.finish_renamed j step

end WorkflowRequest

/-! ## Actions -/

namespace Stage

variable {s : Stage} {settings : Settings} {rule : BusinessRule}

theorem failureText_bare {f f' : Failure} (kind : ActionKind) (h : f.bare = f'.bare) :
    failureText kind f = failureText kind f' := by
  have hbare : ∀ f : Failure, failureText kind f.bare = failureText kind f := fun f => by
    cases f <;> rfl
  rw [← hbare f, h, hbare f']

theorem requireWorkflow_echo (f : String → String) (s : Stage) (kind : ActionKind) :
    Work.Echo (Prod.map (WorkflowRequest.rename f) (SubmissionState.rename f))
      (s.requireWorkflow kind) ((s.rename f).requireWorkflow kind) := by
  obtain ⟨_, workflow⟩ := s
  cases workflow with
  | none => exact .failure rfl
  | some w =>
    obtain ⟨⟨_, _, _, _, state⟩, _⟩ := w
    cases state with
    | none => exact .failure rfl
    | some state => exact .value _

theorem escalate_renamed (s : Stage) (a : Action) :
    Work.Renamed ρ (ActionOutcome.rename ρ.map)
      (s.escalate settings { id := a.id, kind := a.kind })
      ((s.rename ρ.map).escalate settings { id := a.id, kind := a.kind }) := by
  refine Work.bind_renamed (Work.lift_renamed (s.requireWorkflow_echo ρ.map .escalate))
    fun found => ?_
  refine Work.ite_renamed (fun _ => Work.pure_renamed rfl) fun _ => ?_
  have hdue : Work.Echo (List.map (Escalation.rename ρ.map))
      (found.2.chain.escalations settings (.ofInstant s.context.now))
      ((found.2.chain.rename ρ.map).escalations settings (.ofInstant s.context.now)) := by
    rw [Chain.escalations_rename]
    exact Work.echo_map _ _
  refine Work.bind_renamed (Work.lift_renamed hdue) fun due => ?_
  rw [List.isEmpty_map]
  refine Work.ite_renamed (fun _ => Work.pure_renamed rfl) fun _ => ?_
  exact Work.bind_renamed (WorkflowRequest.escalate_renamed
    { found.1 with context := { found.1.context with now := s.context.now } } due) fun t =>
      Work.pure_renamed rfl

theorem act_renamed (s : Stage) (a : Action) :
    Work.Renamed ρ (ActionOutcome.rename ρ.map) (s.act settings rule a)
      ((s.rename ρ.map).act settings rule a) := by
  unfold act
  cases hdeed : a.deed with
  | setField field value => exact Work.lift_bind_renamed fun update => Work.pure_renamed rfl
  | assign assignment =>
    have hload : (s.rename ρ.map).workflow.map (·.load) = s.workflow.map (·.load) := by
      cases s with
      | mk _ workflow => cases workflow <;> rfl
    dsimp only
    rw [hload]
    exact Work.lift_bind_renamed fun chosen => Work.pure_renamed rfl
  | changeStatus status =>
    refine Work.bind_renamed (Work.lift_renamed (s.requireWorkflow_echo ρ.map .changeStatus))
      fun found => ?_
    exact Work.bind_renamed (found.1.terminate_renamed _ _) fun t => Work.pure_renamed rfl
  | escalate reason => exact s.escalate_renamed a
  | notify _ | createTask _ | callWebhook _ =>
    exact Work.bind_renamed
      (a.instruction_renamed s.context (Instruction.renameSource_rule rule.id))
      fun made => Work.pure_renamed rfl

theorem rename_after (f : String → String) (s : Stage) (o : ActionOutcome) :
    (s.rename f).after (o.rename f) = (s.after o).rename f := by
  obtain ⟨context, workflow⟩ := s
  obtain ⟨_, _, _, _, _, update, _, transition, _⟩ := o
  cases update <;> cases transition <;> cases workflow <;> rfl

/-! ## Rules -/

theorem actAll_renamed (actions : List Action) (s : Stage) :
    Work.Renamed ρ (Prod.map (List.map (·.rename ρ.map)) (rename ρ.map))
      (ExceptT.lift (actAll settings rule actions s))
      (ExceptT.lift (actAll settings rule actions (s.rename ρ.map))) := by
  induction actions generalizing s with
  | nil => exact Work.pure_renamed rfl
  | cons a rest ih =>
    unfold actAll
    refine Work.caught_renamed (s.act_renamed a) fun x x' hecho => ?_
    cases hecho with
    | failure alike =>
      refine Work.pure_renamed ?_
      rw [← failureText_bare a.kind alike]
      rfl
    | value o =>
      dsimp only
      rw [rename_after]
      exact Work.state_bind_renamed (ih (s.after o)) fun later => Work.pure_renamed rfl

end Stage

theorem RuleResult.rename_of (f : String → String) (rule : BusinessRule) (trigger : Trigger)
    (outcomes : List ActionOutcome) :
    (of rule trigger outcomes).rename f = of rule trigger (outcomes.map (·.rename f)) := by
  have herror : ((outcomes.map (·.rename f)).find? fun o => !o.success).bind (·.error) =
      (outcomes.find? fun o => !o.success).bind (·.error) := by
    rw [List.find?_map]
    change ((outcomes.find? fun o => !o.success).map _).bind _ = _
    cases outcomes.find? fun o => !o.success <;> rfl
  unfold of
  rw [herror]
  rfl

namespace Stage

variable (settings : Settings) (trigger : Trigger)

theorem run_renamed (s : Stage) (rule : BusinessRule) :
    Work.Renamed ρ (Prod.map (RuleResult.rename ρ.map) (rename ρ.map))
      (ExceptT.lift (s.run settings trigger rule))
      (ExceptT.lift ((s.rename ρ.map).run settings trigger rule)) := by
  refine Work.state_bind_renamed (actAll_renamed rule.actions s) fun acted =>
    Work.pure_renamed ?_
  exact congrArg (·, acted.2.rename ρ.map) (RuleResult.rename_of ρ.map rule trigger acted.1)

theorem runAll_renamed (rules : List BusinessRule) (s : Stage) :
    Work.Renamed ρ (List.map (·.rename ρ.map))
      (ExceptT.lift (runAll settings trigger rules s))
      (ExceptT.lift (runAll settings trigger rules (s.rename ρ.map))) := by
  induction rules generalizing s with
  | nil => exact Work.pure_renamed rfl
  | cons rule rest ih =>
    unfold runAll
    refine Work.state_bind_renamed (s.run_renamed settings trigger rule) fun ran => ?_
    by_cases hstops : rule.stops = true
    · simp only [hstops, ↓reduceIte]
      exact Work.pure_renamed rfl
    · simp only [hstops]
      exact Work.state_bind_renamed (ih ran.2) fun later => Work.pure_renamed rfl

end Stage
end Formwork
