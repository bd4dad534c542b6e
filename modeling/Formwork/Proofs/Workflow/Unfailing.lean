import Formwork.Proofs.Workflow.Way
/-!
# What can fail on a way

Most of what happens on a way cannot fail at all: events are noted, statuses are taken, and the
records of a level are laid out. What can fail is named here as a hypothesis of each part: whom the
levels of a chain ask, what an action asks for or sets, whom a rule chooses, the configuration of a
chain, and the step behind an action. A part that is gone through avoids every sort of failure that
these avoid.
-/
namespace Formwork

open Calendar Document Work

variable {sort : Failure → Prop}

/-! ## Chains -/

namespace Chain

variable {context : Context} {round : Int}

theorem levelRecords_avoids (index : Int) (level : ApprovalLevel) (reached : Bool) (time : Stamp)
    (position : Int) (approvers : List Approver) :
    (levelRecords index level round reached time position approvers).Avoids sort := by
  induction approvers generalizing position with
  | nil => exact pure_avoids _
  | cons a rest ih =>
    exact bind_avoids (fresh_avoids _) fun _ => bind_avoids (ih _) fun _ => pure_avoids _

theorem levelsFrom_avoids {levels : List ApprovalLevel} (index : Int) (started : Bool)
    (asks : ∀ level ∈ levels, (lift (level.askedIn context)).Avoids sort) :
    (levelsFrom context round index started levels).Avoids sort := by
  induction levels generalizing index started with
  | nil => exact pure_avoids _
  | cons level rest ih =>
    refine bind_avoids (asks level List.mem_cons_self) fun _ => ?_
    refine bind_avoids (levelRecords_avoids _ _ _ _ _ _) fun _ => ?_
    exact bind_avoids (ih _ _ fun l hl => asks l (List.mem_cons_of_mem _ hl)) fun _ =>
      pure_avoids _

end Chain

theorem ApprovalConfig.startChain_avoids {config : ApprovalConfig} {context : Context}
    (required : (lift (config.isRequired context)).Avoids sort)
    (asks : ∀ level ∈ config.levels, (lift (level.askedIn context)).Avoids sort)
    (round : Int) : (config.startChain context round).Avoids sort := by
  refine bind_avoids required fun _ => ?_
  split
  · exact Chain.levelsFrom_avoids _ _ asks
  · exact pure_avoids _

/-! ## States -/

namespace SubmissionState

variable {s : SubmissionState}

theorem note_avoids (kind : EventKind) (time : Stamp) (actor step : Option String)
    (details : Entries Value) : (s.note kind time actor step details).Avoids sort :=
  bind_avoids (fresh_avoids _) fun _ => pure_avoids _

theorem noteStatus_avoids (previous : Status) (time : Stamp) (actor : Option String) :
    (s.noteStatus previous time actor).Avoids sort := by
  unfold noteStatus noteChange
  split
  · exact pure_avoids _
  · exact note_avoids _ _ _ _ _

end SubmissionState

open SubmissionState

/-! ## Actions -/

/-- What the action asks for and what it sets are rendered without a failure of the sort. -/
structure Action.Avoids (a : Action) (context : Context) (sort : Failure → Prop) : Prop where
  asks : (lift (a.request context)).Avoids sort
  sets : ∀ source, (lift (a.update? source context)).Avoids sort

/-- It can be said what the action asks for and what it sets. -/
structure Action.Answers (a : Action) (c : Context) : Prop where
  asks : ∃ asked, a.request c = .ok asked
  sets : ∀ source, ∃ update, a.update? source c = .ok update

theorem Action.Answers.avoids {a : Action} {c : Context} (h : a.Answers c) : a.Avoids c sort where
  asks := (lift_succeeds h.asks).avoids
  sets source := (lift_succeeds (h.sets source)).avoids

/-! ## Journeys -/

namespace Journey

variable {e : Surroundings} {j : Journey} {step : Step} {action : StepAction}
  {actor comments : Option String}

theorem perform_avoids {actions : List Action} {context : Context} (source : String)
    (renders : ∀ a ∈ actions, a.Avoids context sort) (j : Journey) :
    (j.perform source context actions).Avoids sort := by
  induction actions generalizing j with
  | nil => exact pure_avoids j
  | cons a rest ih =>
    have hfirst := renders a List.mem_cons_self
    have hrest : ∀ a ∈ rest, a.Avoids context sort :=
      fun b hb => renders b (List.mem_cons_of_mem _ hb)
    refine bind_avoids (hfirst.sets source) fun update => ?_
    cases update with
    | some u => exact ih hrest _
    | none =>
      refine bind_avoids ?_ fun _ => ih hrest _
      refine bind_avoids hfirst.asks fun _ => ?_
      split
      · exact pure_avoids _
      · exact bind_avoids (fresh_avoids _) fun _ => pure_avoids _

theorem noteStatus_avoids (previous : Status) (time : Stamp) :
    (j.noteStatus previous time actor).Avoids sort :=
  bind_avoids (SubmissionState.noteStatus_avoids _ _ _) fun _ => pure_avoids _

theorem assignOnEntry_avoids (autoAssign : Bool) (assigns : ∀ rule, step.assignment = some rule →
    (lift (rule.assign e.load e.context)).Avoids sort) :
    (j.assignOnEntry e step autoAssign actor).Avoids sort := by
  unfold assignOnEntry
  split
  · exact pure_avoids _
  · rename_i rule hrule
    split
    · refine bind_avoids (assigns rule hrule) fun chosen => ?_
      dsimp only
      split
      · exact pure_avoids _
      · exact bind_avoids (note_avoids _ _ _ _ _) fun _ => pure_avoids _
    · exact pure_avoids _

theorem settle_avoids (records : Chain) : (j.settle e step actor records).Avoids sort := by
  unfold settle
  split
  · exact bind_avoids (noteStatus_avoids _ _) fun _ => pure_avoids _
  · refine bind_avoids ?_ fun _ => bind_avoids (noteStatus_avoids _ _) fun _ => pure_avoids _
    exact bind_avoids (note_avoids _ _ _ _ _) fun _ => pure_avoids _

/-- The chain of a step can be started. -/
structure StartsChain (sort : Failure → Prop) (e : Surroundings) (step : Step) : Prop where
  configured : (lift (e.approvalConfig step)).Avoids sort
  required : ∀ config, e.approvalConfig step = .ok config →
    (lift (config.isRequired e.context)).Avoids sort
  asks : ∀ config, e.approvalConfig step = .ok config →
    ∀ level ∈ config.levels, (lift (level.askedIn e.context)).Avoids sort

theorem arrive_avoids (starts : step.kind = .approval → StartsChain sort e step) :
    (j.arrive e step actor).Avoids sort := by
  rw [arrive_eq]
  refine bind_avoids ?_ fun records => settle_avoids records
  unfold asked
  split
  · rename_i hkind
    refine bind_avoids_of (starts hkind).configured fun _ config _ hconfig => ?_
    have hconfig := (lift_returns_iff.mp hconfig).1
    exact config.startChain_avoids ((starts hkind).required config hconfig)
      ((starts hkind).asks config hconfig) _
  · exact pure_avoids _

theorem leave_avoids (found : (lift (e.workflow.requireStep action.target)).Avoids sort)
    (onExit : ∀ a ∈ step.onExit, a.Avoids e.context sort)
    (auto : ∀ a ∈ action.autoActions, a.Avoids e.context sort) :
    (j.leave e step action actor comments).Avoids sort := by
  refine bind_avoids found fun _ => ?_
  refine bind_avoids (perform_avoids _ onExit _) fun _ => ?_
  refine bind_avoids (perform_avoids _ auto _) fun _ => ?_
  exact bind_avoids (note_avoids _ _ _ _ _) fun _ => pure_avoids _

end Journey

theorem WorkflowRequest.applyOutcome_avoids {r : WorkflowRequest} {s : SubmissionState}
    {step : Step} {outcome : ApprovalOutcome} {actor : String} {kind : EventKind}
    {details : Entries Value} : (r.applyOutcome s step outcome actor kind details).Avoids sort :=
  bind_avoids (note_avoids _ _ _ _ _) fun _ => SubmissionState.noteStatus_avoids _ _ _

end Formwork
