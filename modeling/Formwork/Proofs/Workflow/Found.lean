import Formwork.Proofs.Assignment.Qualified
import Formwork.Proofs.Condition.Failing
import Formwork.Proofs.Workflow.Unfailing
/-!
# Steps are found

Every action of a workflow leads to one of its steps, and a submission is always on one of them. So
whatever else may keep an operation from being carried out, it is never that a step is missing: the
parts of an operation are gone through one by one here, with what each of them can fail with.
-/
namespace Formwork

open Document Work

/-- The failure speaks of a step that a workflow does not have. -/
def Failure.LacksStep : Failure → Prop
  | .refused refusal => refusal.kind = .stepNotFound
  | _ => False

/-- The sort is one that no way from step to step comes to: what fails there is beyond what can be
held, or is refused for the configuration of a chain. -/
structure Failure.OffWay (sort : Failure → Prop) : Prop where
  beyond : ∀ f : Failure, f.Beyond → ¬ sort f
  configuration : ∀ message details, ¬ sort (.refuse .configuration message details)

theorem Failure.lacksStep_offWay : Failure.OffWay Failure.LacksStep where
  beyond f h := by cases f <;> first | exact id | cases h
  configuration message details h := by cases h

theorem OnlyBeyond.avoids {α : Type} {sort : Failure → Prop} {x : Except Failure α}
    (h : OnlyBeyond x) (off : Failure.OffWay sort) : (lift x).Avoids sort :=
  fun _ f hf => off.beyond f (h f hf)

/-- The work never fails for want of a step. -/
abbrev Work.FindsSteps {α : Type} (w : Work α) : Prop := w.Avoids Failure.LacksStep

theorem refuse_findsSteps {α : Type} {kind : Refusal.Kind} {message : String}
    {details : Entries Value} (h : kind ≠ .stepNotFound) :
    (Work.refuse kind message details : Work α).FindsSteps :=
  throw_avoids h

namespace Workflow

variable {w : Workflow} {step : Step} {action : StepAction}

theorem has_target (hstep : step ∈ w.steps) (haction : action ∈ step.actions) :
    w.Has action.target := by
  have hsound := w.sound
  unfold StepGraph.flaw? at hsound
  split at hsound
  · simp at hsound
  · simp only [Option.or_eq_none_iff] at hsound
    have hnone := List.findSome?_eq_none_iff.mp hsound.1.2 step hstep
    have htarget := List.findSome?_eq_none_iff.mp hnone action haction
    split at htarget
    · rename_i hfound
      exact Option.isSome_iff_exists.mp hfound
    · simp at htarget

theorem requireStep_avoids {sort : Failure → Prop} {id : String} (h : w.Has id) :
    (lift (w.requireStep id)).Avoids sort := by
  obtain ⟨step, hstep⟩ := h
  rw [requireStep_eq_ok_iff.mpr hstep]
  exact lift_ok_avoids step

end Workflow

/-! ## Chains -/

namespace Chain

theorem decide_findsSteps (c : Chain) (id : String) (v : Verdict) :
    (c.decide id v).FindsSteps := by
  unfold decide
  split
  · exact throw_avoids fun h => h
  · split
    · exact pure_avoids _
    · exact pure_avoids _
    · split
      · exact refuse_findsSteps (by simp)
      · exact bind_avoids (fresh_avoids _) fun _ => pure_avoids _

theorem escalate_findsSteps (c : Chain) (status : Status) (e : Escalation)
    (time : Calendar.Stamp) : (c.escalate status e time).FindsSteps := by
  unfold escalate
  dsimp only
  split
  · exact decide_findsSteps _ _ _
  · exact pure_avoids _

end Chain

theorem ApprovalConfig.onlyBeyond_isRequired (config : ApprovalConfig) (context : Context) :
    OnlyBeyond (config.isRequired context) := by
  unfold isRequired
  apply OnlyBeyond.ite (.ok false)
  cases config.skipWhen with
  | none => exact .ok true
  | some group => exact .bind (Group.onlyBeyond_holds? (some group) context) fun _ => .pure _

/-! ## Journeys -/

open SubmissionState

namespace Context

variable (c : Context)

theorem onlyBeyond_insertion (path : String) : OnlyBeyond (c.insertion path) := by
  unfold insertion
  split
  · exact .ok ""
  · exact Value.onlyBeyond_display _

theorem onlyBeyond_fillFrom (skip : Nat) (text : List Char) : OnlyBeyond (c.fillFrom skip text) := by
  induction text generalizing skip with
  | nil => cases skip <;> exact .ok []
  | cons x rest ih =>
    cases skip with
    | succ skip => exact ih skip
    | zero =>
      unfold fillFrom
      split
      · exact .bind (c.onlyBeyond_insertion _) fun _ => .bind (ih _) fun _ => .pure _
      · exact .bind (ih 0) fun _ => .pure _

mutual

theorem onlyBeyond_render (v : Value) : OnlyBeyond (c.render v) := by
  cases v with
  | text s =>
    change OnlyBeyond (c.renderText s)
    unfold renderText
    split
    · exact .ok _
    · exact .bind (c.onlyBeyond_fillFrom 0 s.toList) fun _ => .pure _
  | list items => exact .bind (onlyBeyond_renderItems items) fun _ => .pure _
  | map es => exact .bind (onlyBeyond_renderEntries es) fun _ => .pure _
  | null | bool _ | int _ | float _ => exact .ok _
termination_by structural v

theorem onlyBeyond_renderItems (items : List Value) : OnlyBeyond (c.renderItems items) := by
  cases items with
  | nil => exact .ok []
  | cons v rest =>
    exact .bind (onlyBeyond_render v) fun _ => .bind (onlyBeyond_renderItems rest) fun _ => .pure _
termination_by structural items

theorem onlyBeyond_renderEntries (es : List (String × Value)) :
    OnlyBeyond (c.renderEntries es) := by
  cases es with
  | nil => exact .ok []
  | cons e rest =>
    exact .bind (onlyBeyond_render e.2) fun _ =>
      .bind (onlyBeyond_renderEntries rest) fun _ => .pure _
termination_by structural es

end

end Context

theorem ApprovalLevel.onlyBeyond_askedIn (level : ApprovalLevel) (context : Context) :
    OnlyBeyond (level.askedIn context) := by
  refine .bind (Group.onlyBeyond_holds? level.condition context) fun b => ?_
  apply OnlyBeyond.ite
  · refine .bind ?_ fun _ => .pure _
    intro f hf
    obtain ⟨rfl, -⟩ := Value.mapM_display_eq_error.mp hf
    trivial
  · exact .pure []

theorem AssignmentRule.onlyBeyond_assign (r : AssignmentRule) (load : Load) (context : Context) :
    OnlyBeyond (r.assign load context) := by
  intro f hf
  obtain ⟨rfl, -⟩ := assign_eq_error_iff.mp hf
  trivial

theorem Task.onlyBeyond_dueAt (t : Task) (context : Context) : OnlyBeyond (t.dueAt context) := by
  intro f hf
  unfold dueAt at hf
  split at hf
  · cases hf
  · split at hf
    · cases hf
    · cases hf
      exact trivial

/-- An action asks for something, unless its time lies beyond the calendar or a text that it renders
has too many digits. -/
theorem Action.onlyBeyond_request (a : Action) (context : Context) :
    OnlyBeyond (a.request context) := by
  have hrender := context.onlyBeyond_render
  unfold request
  split
  · refine .bind ?_ fun _ => .pure _
    exact .bind (hrender _) fun _ => .bind (hrender _) fun _ => .bind (hrender _) fun _ => .pure _
  · refine .bind ?_ fun _ => .pure _
    exact .bind (hrender _) fun _ => .bind (hrender _) fun _ => .bind (hrender _) fun _ => .pure _
  · rename_i t _
    refine .bind ?_ fun _ => .pure _
    exact .bind (hrender _) fun _ => .bind (hrender _) fun _ => .bind (hrender _) fun _ =>
      .bind (t.onlyBeyond_dueAt context) fun _ => .pure _
  · exact .ok _

theorem Action.onlyBeyond_update? (a : Action) (source : String) (context : Context) :
    OnlyBeyond (a.update? source context) := by
  unfold update?
  split
  · exact .bind (context.onlyBeyond_render _) fun _ => .pure _
  · exact .ok none

theorem Action.avoids_of_offWay {sort : Failure → Prop} (off : Failure.OffWay sort) (a : Action)
    (context : Context) : a.Avoids context sort where
  asks := (a.onlyBeyond_request context).avoids off
  sets source := (a.onlyBeyond_update? source context).avoids off

namespace Failure.OffWay

variable {sort : Failure → Prop} {e : Surroundings} {j : Journey} {step : Step}
  {action : StepAction} {actor comments : Option String}

theorem perform (off : OffWay sort) (source : String) (context : Context) (actions : List Action)
    (j : Journey) : (j.perform source context actions).Avoids sort :=
  Journey.perform_avoids source (fun a _ => a.avoids_of_offWay off context) j

theorem approvalConfig (off : OffWay sort) (e : Surroundings) (step : Step) :
    (lift (e.approvalConfig step)).Avoids sort := by
  unfold Surroundings.approvalConfig
  split
  · exact lift_ok_avoids _
  · exact lift_error_avoids (off.configuration _ _)

theorem arrive (off : OffWay sort) : (j.arrive e step actor).Avoids sort :=
  Journey.arrive_avoids fun _ =>
    { configured := off.approvalConfig e step
      required := fun config _ => (config.onlyBeyond_isRequired e.context).avoids off
      asks := fun _ _ level _ => (level.onlyBeyond_askedIn e.context).avoids off }

theorem leave (off : OffWay sort) (hstep : step ∈ e.workflow.steps)
    (haction : action ∈ step.actions) : (j.leave e step action actor comments).Avoids sort :=
  Journey.leave_avoids (Workflow.requireStep_avoids (Workflow.has_target hstep haction))
    (fun a _ => a.avoids_of_offWay off e.context) fun a _ => a.avoids_of_offWay off e.context

/-- Each step that is named on the way is found, and moves run out only for the configuration. -/
theorem enter (off : OffWay sort) {moves : Nat} {autoAssign : Bool}
    (hstep : step ∈ e.workflow.steps) :
    (Journey.enter e moves step actor autoAssign j).Avoids sort := by
  induction moves using Nat.strongRecOn generalizing step actor autoAssign j with
  | ind moves ih =>
    rw [Journey.enter_eq]
    refine bind_avoids (off.perform _ _ _ _) fun _ => ?_
    refine bind_avoids_of off.arrive fun _ ⟨j₂, next⟩ _ harrived => ?_
    cases next with
    | none =>
      exact Journey.assignOnEntry_avoids _ fun rule _ =>
        (rule.onlyBeyond_assign e.load e.context).avoids off
    | some action =>
      cases moves with
      | zero => exact throw_avoids (off.configuration _ _)
      | succ fewer =>
        cases Journey.arrive_arrived harrived with
        | passes _ offered =>
          refine bind_avoids_of (off.leave hstep offered) fun _ ⟨target, j₃⟩ _ hleft => ?_
          exact ih fewer (Nat.lt_succ_self fewer)
            (Workflow.mem_of_step? (Journey.leave_left hleft).1)

theorem follow (off : OffWay sort) {moves : Nat} (hstep : step ∈ e.workflow.steps)
    (haction : action ∈ step.actions) :
    (j.follow e moves step action actor comments).Avoids sort := by
  refine bind_avoids_of (off.leave hstep haction) fun _ ⟨target, j₁⟩ _ hleft => ?_
  exact off.enter (Workflow.mem_of_step? (Journey.leave_left hleft).1)

end Failure.OffWay

theorem Journey.transition_avoids {sort : Failure → Prop} {e : Surroundings} {j : Journey}
    (h : e.workflow.Has j.state.step) (previous : Option String) :
    (lift (j.transition e previous)).Avoids sort := by
  obtain ⟨t, ht, -⟩ := transition_of_has h previous
  rw [ht]
  exact lift_ok_avoids t

theorem Surroundings.start_findsSteps (e : Surroundings) (submission : Submission) :
    (e.start submission).FindsSteps := by
  refine bind_avoids_of (note_avoids _ _ _ _ _) fun _ noted _ hnoted => ?_
  have hstart := e.workflow.step?_start
  refine bind_avoids_of (Failure.lacksStep_offWay.enter (Workflow.mem_of_step? hstart))
    fun _ j _ hentered => ?_
  have here : noted.step = e.workflow.start.id :=
    congrArg SubmissionState.step (note_notes hnoted).same
  exact Journey.transition_avoids (Journey.enter_returns hentered hstart here).2.has none

/-! ## Operations -/

namespace WorkflowRequest

variable {r : WorkflowRequest} {s : SubmissionState} {step : Step} {j : Journey}

theorem requireState_bind_findsSteps {α : Type} {next : SubmissionState → Work α}
    (onState : r.submission.state = some s) (h : (next s).FindsSteps) :
    (lift r.requireState >>= next).FindsSteps := by
  rw [requireState_of onState, lift_ok_bind]
  exact h

theorem checkVersion_findsSteps : (lift (r.checkVersion s)).FindsSteps := by
  unfold checkVersion
  split
  · exact lift_ok_avoids _
  · split
    · exact lift_ok_avoids _
    · exact refuse_findsSteps (by simp)

theorem checkNotFinal_findsSteps : (lift (r.checkNotFinal s)).FindsSteps := by
  unfold checkNotFinal
  split
  · exact refuse_findsSteps (by simp)
  · exact lift_ok_avoids _

theorem finish_avoids {sort : Failure → Prop} (h : r.workflow.Has j.state.step) :
    (r.finish j step).Avoids sort :=
  Journey.transition_avoids (j := { j with state := j.state.bump }) h _

theorem followChain_findsSteps (hstep : step ∈ r.workflow.steps) :
    (r.followChain step j).FindsSteps := by
  unfold followChain
  split
  · exact pure_avoids _
  · rename_i action haction
    exact Failure.lacksStep_offWay.follow hstep (mem_of_chainFollowUp? haction)

theorem checkGuard_findsSteps (action : StepAction) (context : Context) :
    (lift (action.checkGuard context)).FindsSteps := by
  unfold StepAction.checkGuard
  rw [lift_bind]
  refine bind_avoids ((Group.onlyBeyond_holds? _ _).avoids Failure.lacksStep_offWay) fun _ => ?_
  split
  · exact pure_avoids _
  · exact refuse_findsSteps (by simp)

theorem checkAction_findsSteps {action : StepAction} :
    (lift (r.checkAction s step action)).FindsSteps := by
  unfold checkAction
  dsimp only
  split
  · exact refuse_findsSteps (by simp)
  · split
    · exact refuse_findsSteps (by simp)
    · rw [lift_bind]
      refine bind_avoids (checkGuard_findsSteps _ _) fun _ => ?_
      unfold StepAction.enforce
      split
      · exact lift_ok_avoids _
      · exact refuse_findsSteps (by simp)

theorem resolve_findsSteps {actionId : String} (onState : r.submission.state = some s)
    (has : r.workflow.Has s.step) : (lift (r.resolve actionId)).FindsSteps := by
  unfold resolve
  rw [requireState_of onState, except_ok_bind, lift_bind]
  refine bind_avoids checkVersion_findsSteps fun _ => ?_
  rw [lift_bind]
  refine bind_avoids checkNotFinal_findsSteps fun _ => ?_
  rw [lift_bind]
  refine bind_avoids (Workflow.requireStep_avoids has) fun step => ?_
  rw [lift_bind]
  refine bind_avoids ?_ fun action => ?_
  · unfold Step.requireAction
    split
    · exact lift_ok_avoids _
    · exact refuse_findsSteps (by simp)
  · rw [lift_bind]
    exact bind_avoids checkAction_findsSteps fun _ => pure_avoids _

theorem target_findsSteps (q : ApprovalRequest) : (lift q.target).FindsSteps := by
  unfold ApprovalRequest.target
  dsimp only
  rw [lift_bind]
  refine bind_avoids ?_ fun state => ?_
  · unfold Submission.requireState
    split
    · exact lift_ok_avoids _
    · exact refuse_findsSteps (by simp)
  · -- each check that is left refuses, or is passed
    repeat' split
    all_goals first | exact pure_avoids _ | exact refuse_findsSteps (by simp)

theorem escalateAll_findsSteps (escalations : List Escalation) (j : Journey) :
    (r.escalateAll step escalations j).FindsSteps := by
  induction escalations generalizing j with
  | nil => exact pure_avoids j
  | cons e rest ih =>
    unfold escalateAll
    split
    · rename_i hpending
      refine bind_avoids ?_ fun outcome => ?_
      · simp only [Submission.escalate, hpending, ↓reduceIte]
        exact Chain.escalate_findsSteps _ _ _ _
      · refine bind_avoids applyOutcome_avoids fun _ => ?_
        exact bind_avoids (bind_avoids (fresh_avoids _) fun _ => pure_avoids _) fun _ => ih _
    · exact pure_avoids j

/-- No operation on a submission that is on a step of its workflow fails for want of a step. -/
theorem perform_findsSteps (onState : r.submission.state = some s) (has : r.workflow.Has s.step)
    (op : Operation) : (r.perform op).FindsSteps := by
  have hfound : (lift (r.workflow.requireStep s.step)).FindsSteps := Workflow.requireStep_avoids has
  cases op with
  | execute actionId =>
    refine bind_avoids_of (resolve_findsSteps onState has)
      fun _ ⟨state, step, action⟩ _ hresolved => ?_
    obtain ⟨hresolved, -⟩ := lift_returns_iff.mp hresolved
    obtain ⟨rfl, -, hstep, haction⟩ := resolve_eq_ok hresolved onState
    refine bind_avoids_of (Failure.lacksStep_offWay.follow (Workflow.mem_of_step? hstep) haction)
      fun _ j _ hfollowed => ?_
    exact finish_avoids (Journey.follow_returns hfollowed).2.has
  | decide ballot =>
    refine requireState_bind_findsSteps onState ?_
    refine bind_avoids_of hfound fun _ step _ hstep => ?_
    rw [lift_returns_iff, Workflow.requireStep_eq_ok_iff] at hstep
    refine bind_avoids (Failure.lacksStep_offWay.approvalConfig _ _) fun config => ?_
    refine bind_avoids (lift_ok_avoids _) fun _ => ?_
    refine bind_avoids ?_ fun outcome => ?_
    · exact bind_avoids (target_findsSteps _) fun _ => Chain.decide_findsSteps _ _ _
    · refine bind_avoids_of applyOutcome_avoids fun _ next _ happlied => ?_
      refine bind_avoids_of (followChain_findsSteps (Workflow.mem_of_step? hstep.1))
        fun _ j _ hfollowed => ?_
      apply finish_avoids
      apply (followChain_leads hfollowed).has
      rw [(applyOutcome_returns happlied).1]
      exact has
  | terminate value reason =>
    refine bind_avoids ?_ fun status => ?_
    · unfold Status.ofValue Named.ofValue
      dsimp only
      split
      · exact lift_ok_avoids _
      · rw [lift_bind]
        exact bind_avoids (value.onlyBeyond_literal.avoids Failure.lacksStep_offWay)
          fun _ => lift_error_avoids fun h => h
    · dsimp only
      split
      · exact refuse_findsSteps (by simp)
      · refine requireState_bind_findsSteps onState ?_
        refine bind_avoids checkVersion_findsSteps fun _ => ?_
        refine bind_avoids checkNotFinal_findsSteps fun _ => ?_
        refine bind_avoids hfound fun step => ?_
        refine bind_avoids_of (note_avoids _ _ _ _ _) fun _ ended _ hnoted => ?_
        apply finish_avoids
        have hsame := congrArg SubmissionState.step (note_notes hnoted).same
        rw [show ended.step = s.step from hsame]
        exact has
  | escalate escalations =>
    refine requireState_bind_findsSteps onState ?_
    refine bind_avoids checkVersion_findsSteps fun _ => ?_
    refine bind_avoids_of hfound fun _ step _ hstep => ?_
    rw [lift_returns_iff, Workflow.requireStep_eq_ok_iff] at hstep
    refine bind_avoids_of (escalateAll_findsSteps _ _) fun _ j _ hescalated => ?_
    refine bind_avoids_of (followChain_findsSteps (Workflow.mem_of_step? hstep.1))
      fun _ j' _ hfollowed => ?_
    apply finish_avoids
    apply (followChain_leads hfollowed).has
    rw [(escalateAll_returns hescalated).1]
    exact has

end WorkflowRequest

end Formwork
