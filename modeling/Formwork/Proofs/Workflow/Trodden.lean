import Formwork.Proofs.Template.Connected
import Formwork.Proofs.Workflow.Executed
import Formwork.Proofs.Workflow.Onward
/-!
# Where a submission has been

Whatever is carried out on a submission, each of its moves is made through an action of the step
that it leaves: the one that somebody asked for, or one that follows a chain. So its history is a
path of actions from the first step on, and it has only ever been on steps that can be reached.
-/
namespace Formwork

open Work

/-! ## Moves along actions -/

namespace SubmissionState

variable {w : Workflow} {s t u : SubmissionState}

/-- Each of the moves leads along an action. -/
def Along (w : Workflow) (moves : List (Value × Value)) : Prop :=
  ∀ move ∈ moves, ∃ id next, w.Leads id next ∧ move = (.text id, .text next)

/-- The history goes on with moves along actions. -/
def Treads (w : Workflow) (s t : SubmissionState) : Prop :=
  ∃ events, t.history = s.history ++ events ∧ Along w (HistoryEvent.moves events)

theorem Treads.trans (h : s.Treads w t) (h' : t.Treads w u) : s.Treads w u := by
  obtain ⟨events, hevents, halong⟩ := h
  obtain ⟨more, hmore, halong'⟩ := h'
  refine ⟨events ++ more, by rw [hmore, hevents, List.append_assoc], fun move hmove => ?_⟩
  rw [HistoryEvent.moves, HistoryEvent.changes_append, List.mem_append] at hmove
  exact hmove.elim (halong move) (halong' move)

theorem Executes.treads (h : s.Executes [] t) : s.Treads w t := by
  obtain ⟨events, hevents, hnone⟩ := h
  refine ⟨events, hevents, ?_⟩
  have hmoves : HistoryEvent.moves events = [] := by
    rw [HistoryEvent.moves, HistoryEvent.changes, List.map_eq_nil_iff]
    exact List.map_eq_nil_iff.mp hnone
  rw [hmoves]
  exact fun move hmove => absurd hmove List.not_mem_nil

theorem Treads.of_same (h : t.history = s.history) : s.Treads w t := (Executes.nil_of_same h).treads

theorem Rested.treads {step : Step} (h : s.Rested step t) : s.Treads w t := by
  have hrested := NotesChange.executes_nil h
  exact hrested.treads

theorem Left.treads {step target : Step} {action : StepAction} (h : s.Left step action target t)
    (hleads : w.Leads step.id target.id) : s.Treads w t := by
  obtain ⟨comments, event, hkind, hdetails, rfl⟩ := h
  refine ⟨[event], rfl, fun move hmove => ⟨step.id, target.id, hleads, ?_⟩⟩
  simpa [HistoryEvent.moves, HistoryEvent.changes, hkind, HistoryEvent.detail, hdetails,
    Entries.get?] using hmove

end SubmissionState

open SubmissionState

namespace Journey

variable {e : Surroundings} {j j' : Journey} {step target : Step} {action : StepAction}
  {next : Option StepAction} {actor comments : Option String} {ids left : Ids}

theorem Arrived.treads {s t : SubmissionState} {w : Workflow} (h : Arrived e step s t next) :
    s.Treads w t := by
  cases h with
  | rests rested => exact rested.treads
  | awaits _ _ _ started => exact started.executes_nil.treads
  | passes rested _ => exact rested.treads

theorem leave_treads (h : (j.leave e step action actor comments).Returns ids (target, j') left)
    (hstep : step ∈ e.workflow.steps) (haction : action ∈ step.actions) :
    j.state.Treads e.workflow j'.state := by
  obtain ⟨there, hthere⟩ := Workflow.has_target hstep haction
  obtain rfl := leave_target h hthere
  refine (leave_left h).2.treads ⟨step, Workflow.step?_of_mem hstep, action, haction, ?_⟩
  exact (Workflow.id_of_step? hthere).symm

/-- Each move on the way into a step is spent on an action. The induction is on the moves that are
left. -/
theorem enter_treads {moves : Nat} {autoAssign : Bool}
    (h : (enter e moves step actor autoAssign j).Returns ids j' left)
    (hstep : step ∈ e.workflow.steps) : j.state.Treads e.workflow j'.state := by
  induction moves using Nat.strongRecOn generalizing step actor autoAssign j ids with
  | ind moves ih =>
    obtain ⟨j₁, j₂, next, _, _, hperformed, harrived, hgone⟩ := enter_cases h
    have hthere : j.state.Treads e.workflow j₂.state := by
      rw [← perform_returns hperformed]
      exact (arrive_arrived harrived).treads
    rcases hgone with ⟨-, hassigned⟩ | ⟨action, target, j₃, _, fewer, rfl, rfl, hleft, hentered⟩
    · exact hthere.trans (assignOnEntry_assigned hassigned).executes_nil.treads
    · have haction : action ∈ step.actions := by
        cases arrive_arrived harrived with
        | passes _ offered => exact offered
      have htarget := Workflow.mem_of_step? (leave_returns hleft).1
      exact (hthere.trans (leave_treads hleft hstep haction)).trans
        (ih fewer (Nat.lt_succ_self fewer) hentered htarget)

theorem follow_treads {moves : Nat}
    (h : (j.follow e moves step action actor comments).Returns ids j' left)
    (hstep : step ∈ e.workflow.steps) (haction : action ∈ step.actions) :
    j.state.Treads e.workflow j'.state := by
  simp only [follow, bind_returns_iff] at h
  obtain ⟨⟨target, j₁⟩, _, hleft, hentered⟩ := h
  exact (leave_treads hleft hstep haction).trans
    (enter_treads hentered (Workflow.mem_of_step? (leave_returns hleft).1))

end Journey

namespace WorkflowRequest

variable {r : WorkflowRequest} {s : SubmissionState} {step : Step} {j j' : Journey} {t : Transition}
  {ids left : Ids}

theorem followChain_treads (h : (r.followChain step j).Returns ids j' left)
    (hstep : step ∈ r.workflow.steps) : j.state.Treads r.workflow j'.state := by
  rcases followChain_returns h with ⟨-, rfl, -⟩ | ⟨action, haction, hfollowed⟩
  · exact .of_same rfl
  · exact Journey.follow_treads hfollowed hstep (mem_of_chainFollowUp? haction)

theorem finish_treads (h : (r.finish j step).Returns ids t left)
    (treads : s.Treads r.workflow j.state) : s.Treads r.workflow t.state := by
  rw [finish_returns h]
  exact treads.trans (.of_same rfl)

theorem perform_treads {op : Operation} (h : (r.perform op).Returns ids t left)
    (onState : r.submission.state = some s) : s.Treads r.workflow t.state := by
  cases op with
  | execute actionId =>
    simp only [perform, execute, bind_returns_iff, lift_returns_iff] at h
    obtain ⟨⟨state, step, action⟩, _, ⟨hresolved, rfl⟩, j, _, hfollowed, h⟩ := h
    obtain ⟨rfl, -, hstep, haction⟩ := resolve_eq_ok hresolved onState
    exact finish_treads h
      (Journey.follow_treads hfollowed (Workflow.mem_of_step? hstep) haction)
  | decide ballot =>
    simp only [perform, decide, bind_returns_iff, lift_returns_iff, requireState_of onState,
      Except.ok.injEq, Workflow.requireStep_eq_ok_iff] at h
    obtain ⟨state, _, ⟨rfl, -⟩, step, _, ⟨hstep, -⟩, _, _, -, _, _, -, outcome, _, -, decided, _,
      happlied, j, _, hfollowed, h⟩ := h
    have hdecided : s.Treads r.workflow decided :=
      ((applyOutcome_decided happlied).executes_nil (by simp)).treads
    exact finish_treads h
      (hdecided.trans (followChain_treads hfollowed (Workflow.mem_of_step? hstep)))
  | terminate status reason =>
    simp only [perform, terminate, bind_returns_iff, lift_returns_iff,
      requireState_of onState] at h
    obtain ⟨status', _, -, h⟩ := h
    split at h
    · simp [bind_returns_iff] at h
    · simp only [bind_returns_iff, lift_returns_iff, Except.ok.injEq] at h
      obtain ⟨state, _, ⟨rfl, -⟩, _, _, -, _, _, -, step, _, -, ended, _, hnoted, h⟩ := h
      have hended : s.Executes [] ended := (note_notes hnoted).executes_nil (by simp)
      exact finish_treads h hended.treads
  | escalate escalations =>
    obtain ⟨step, j, j', _, _, hstep, hescalated, hfollowed, he⟩ := escalate_returns h onState
    have hthere : s.Treads r.workflow j.state :=
      (escalateAll_escalated hescalated).executes_nil.treads
    rw [he]
    exact (hthere.trans (followChain_treads hfollowed (Workflow.mem_of_step? hstep))).trans
      (.of_same rfl)

end WorkflowRequest

theorem Surroundings.start_treads {e : Surroundings} {submission : Submission} {ids left : Ids}
    {t : Transition} (h : (e.start submission).Returns ids t left) :
    ({ step := e.workflow.start.id, status := .submitted } : SubmissionState).Treads e.workflow
      t.state := by
  simp only [start, bind_returns_iff, lift_returns_iff] at h
  obtain ⟨noted, _, hnoted, j, _, hentered, htransition, -⟩ := h
  have hstarted : ({ step := e.workflow.start.id, status := .submitted } :
      SubmissionState).Executes [] noted := (note_notes hnoted).executes_nil (by simp)
  rw [Journey.transition_eq_ok htransition]
  exact hstarted.treads.trans
    (Journey.enter_treads hentered (Workflow.mem_of_step? e.workflow.step?_start))

namespace Workflow

variable {w : Workflow} {s s' : SubmissionState} {op : Operation}

theorem Calls.treads (call : w.Calls s op s') : s.Treads w s' := by
  cases call with
  | answered inWorkflow onState returned =>
    subst inWorkflow
    exact WorkflowRequest.perform_treads returned onState

theorem Reachable.along (reached : w.Reachable s) : Along w (HistoryEvent.moves s.history) := by
  have htreads : ({ step := w.start.id, status := .submitted } : SubmissionState).Treads w s := by
    induction reached with
    | started inWorkflow returned =>
      subst inWorkflow
      exact Surroundings.start_treads returned
    | called _ call ih => exact ih.trans call.treads
  obtain ⟨events, hevents, halong⟩ := htreads
  rw [show s.history = events from hevents]
  exact halong

end Workflow

/-! ## Steps on which a submission is -/

/-- The submission is on the step, or its history tells that it was. -/
def SubmissionState.WasOn (s : SubmissionState) (id : String) : Prop :=
  s.step = id ∨ ∃ move ∈ HistoryEvent.moves s.history, move.1 = .text id ∨ move.2 = .text id

theorem Joined.connects {w : Workflow} {first last : String} {moves : List (Value × Value)}
    (joined : Joined (.text first) moves (.text last)) (along : Along w moves) :
    w.Connects first last ∧ ∀ move ∈ moves, ∀ id, move.1 = .text id ∨ move.2 = .text id →
      w.Connects first id := by
  induction moves generalizing first with
  | nil =>
    obtain rfl : first = last := by simpa [Joined] using joined
    exact ⟨.refl, by simp⟩
  | cons move rest ih =>
    obtain ⟨id, next, hleads, rfl⟩ := along move List.mem_cons_self
    obtain ⟨hfirst, hrest⟩ := joined
    obtain rfl : id = first := by simpa using hfirst
    obtain ⟨hlast, hmoves⟩ := ih hrest fun move hmove => along move (List.mem_cons_of_mem _ hmove)
    refine ⟨.head hleads hlast, fun move hmove id' hid => ?_⟩
    rcases List.mem_cons.mp hmove with rfl | hmove
    · rcases hid with hid | hid
      · obtain rfl : id = id' := by simpa using hid
        exact .refl
      · obtain rfl : next = id' := by simpa using hid
        exact .single hleads
    · exact .head hleads (hmoves move hmove id' hid)

namespace Workflow

variable {w : Workflow} {s : SubmissionState}

theorem Reachable.connects (reached : w.Reachable s) {id : String} (wasOn : s.WasOn id) :
    w.Connects w.start.id id := by
  obtain ⟨hstep, hmoves⟩ := reached.history_replays.2.2.1.connects reached.along
  rcases wasOn with rfl | ⟨move, hmove, hid⟩
  · exact hstep
  · exact hmoves move hmove id hid

end Workflow
end Formwork
