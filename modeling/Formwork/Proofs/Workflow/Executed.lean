import Formwork.Proofs.Workflow.Replay
/-!
# Which actions are executed

The history says of each action that was executed which step it left. What is decided, started or
noted on the way says nothing of that kind, so the events of a call name the actions through which
steps were left in it, in their order.
-/
namespace Formwork

open Document HistoryEvent

/-- The actions that events tell of, each behind the step that it left. -/
def HistoryEvent.executed (events : List HistoryEvent) : List (Value × Value) :=
  changes .actionExecuted "from_step" "action_id" events

namespace SubmissionState

variable {s t u : SubmissionState} {e : Surroundings} {step target : Step} {action : StepAction}
  {actions more : List (Value × Value)}

/-- The actions are executed from one state to the other, and no others. -/
def Executes (s : SubmissionState) (actions : List (Value × Value)) (t : SubmissionState) : Prop :=
  ∃ events, t.history = s.history ++ events ∧ executed events = actions

theorem Executes.trans (h : s.Executes actions t) (h' : t.Executes more u) :
    s.Executes (actions ++ more) u := by
  obtain ⟨events, hevents, rfl⟩ := h
  obtain ⟨later, hlater, rfl⟩ := h'
  refine ⟨events ++ later, ?_, ?_⟩
  · rw [hlater, hevents, List.append_assoc]
  · exact changes_append _ _ _ events later

theorem Executes.nil_of_same (h : t.history = s.history) : s.Executes [] t :=
  ⟨[], by rw [h, List.append_nil], rfl⟩

theorem Notes.executes_nil {kind : EventKind} {details : Entries Value} (h : s.Notes kind details t)
    (hkind : kind ≠ .actionExecuted) : s.Executes [] t := by
  obtain ⟨event, rfl, -, rfl⟩ := h
  exact ⟨[event], rfl, by simp [executed, changes, hkind]⟩

theorem NotesChange.executes_nil {previous : Status} (h : s.NotesChange previous t) :
    s.Executes [] t := by
  rcases h with ⟨-, rfl⟩ | ⟨-, hnoted⟩
  · exact .nil_of_same rfl
  · exact hnoted.executes_nil (by simp)

theorem Started.executes_nil {records : Chain} (h : s.Started records t) : s.Executes [] t := by
  obtain ⟨v, hnoted, hchange⟩ := h
  exact (hnoted.executes_nil (by simp) : s.Executes [] v).trans hchange.executes_nil

theorem Assigned.executes_nil (h : s.Assigned t) : s.Executes [] t := by
  obtain ⟨assignee, rfl | ⟨details, hnoted⟩⟩ := h
  · exact .nil_of_same rfl
  · exact hnoted.executes_nil (by simp)

theorem Decided.executes_nil {outcome : ApprovalOutcome} {kind : EventKind}
    (h : s.Decided outcome kind t) (hkind : kind ≠ .actionExecuted) : s.Executes [] t := by
  obtain ⟨details, v, hnoted, hchange⟩ := h
  exact (hnoted.executes_nil hkind : s.Executes [] v).trans hchange.executes_nil

theorem Left.executes (h : s.Left step action target t) :
    s.Executes [(.text step.id, .text action.id)] t := by
  obtain ⟨comments, event, hkind, hdetails, rfl⟩ := h
  refine ⟨[event], rfl, ?_⟩
  simp [executed, changes, hkind, detail, hdetails, Entries.get?]

/-- A step that is entered may be passed at once, through actions that follow by themselves. -/
theorem Entered.executes (h : Entered e step s t) : ∃ later, s.Executes later t := by
  induction h with
  | rests rested assigned =>
    exact ⟨[], (NotesChange.executes_nil rested).trans assigned.executes_nil⟩
  | awaits _ _ _ started assigned =>
    exact ⟨[], started.executes_nil.trans assigned.executes_nil⟩
  | passes rested _ _ leaves _ ih =>
    obtain ⟨later, hlater⟩ := ih
    exact ⟨_, ((NotesChange.executes_nil rested).trans leaves.executes).trans hlater⟩

/-- A step is left through the action that is followed, before anything else is executed. -/
theorem Followed.executes (h : s.Followed e step action t) :
    ∃ later, s.Executes ((.text step.id, .text action.id) :: later) t := by
  obtain ⟨target, v, -, hleaves, hentered⟩ := h
  obtain ⟨later, hlater⟩ := hentered.executes
  exact ⟨later, hleaves.executes.trans hlater⟩

theorem Escalated.executes_nil {time : Calendar.Stamp} {escalations : List Escalation}
    (h : Escalated time escalations s t) : s.Executes [] t := by
  induction h with
  | done => exact .nil_of_same rfl
  | stopped _ => exact .nil_of_same rfl
  | next _ _ decided _ ih => exact (decided.executes_nil (by simp)).trans ih

end SubmissionState
end Formwork
