import Formwork.Proofs.Workflow.Way
import Formwork.Proofs.Workflow.Finished
/-!
# What the history tells

The history of a submission is enough to tell its status, its step and the count of its rounds. Each
thing that happens on a way adds the events that tell of it, so the events that a call adds tell how
its state became the next one, and those of the whole history tell the state from the start on.
-/
namespace Formwork

open Document

/-! ## Reading events -/

/-- Each change begins with what the one before it ended with; together they lead from the first
value to the last one. -/
def Joined (first : Value) : List (Value × Value) → Value → Prop
  | [], last => first = last
  | (before, after) :: rest, last => before = first ∧ Joined after rest last

theorem Joined.append {a b c : Value} {changes more : List (Value × Value)}
    (h : Joined a changes b) (h' : Joined b more c) : Joined a (changes ++ more) c := by
  induction changes generalizing a with
  | nil =>
    rw [← show a = b from h] at h'
    exact h'
  | cons change rest ih => exact ⟨h.1, ih h.2⟩

namespace HistoryEvent

def detail (e : HistoryEvent) (name : String) : Value := (e.details.get? name).getD .null

/-- The changes of one kind, as two details of each event name them. -/
def changes (kind : EventKind) (before after : String) (events : List HistoryEvent) :
    List (Value × Value) :=
  (events.filter fun e => e.kind = kind).map fun e => (e.detail before, e.detail after)

/-- The changes of the status. -/
def statusChanges (events : List HistoryEvent) : List (Value × Value) :=
  changes .statusChanged "from" "to" events

/-- The moves from step to step. -/
def moves (events : List HistoryEvent) : List (Value × Value) :=
  changes .actionExecuted "from_step" "to_step" events

/-- How many rounds were started. -/
def rounds (events : List HistoryEvent) : Nat :=
  events.countP fun e => e.kind = .approvalInitialized

theorem changes_append (kind : EventKind) (before after : String) (a b : List HistoryEvent) :
    changes kind before after (a ++ b) =
      changes kind before after a ++ changes kind before after b := by
  simp [changes]

end HistoryEvent

open HistoryEvent

namespace SubmissionState

variable {s t u : SubmissionState} {events more : List HistoryEvent}

/-- The events tell how one state became the other. -/
structure Tells (events : List HistoryEvent) (s t : SubmissionState) : Prop where
  added : t.history = s.history ++ events
  status : Joined (ofNamed s.status) (statusChanges events) (ofNamed t.status)
  moved : ∀ change ∈ statusChanges events, change.1 ≠ change.2
  step : Joined (.text s.step) (HistoryEvent.moves events) (.text t.step)
  round : t.round = s.round + rounds events

/-- The history goes on from one state to the other. -/
def Continues (s t : SubmissionState) : Prop := ∃ events, Tells events s t

theorem Tells.trans (h : Tells events s t) (h' : Tells more t u) : Tells (events ++ more) s u where
  added := by rw [h'.added, h.added, List.append_assoc]
  status := by
    rw [statusChanges, changes_append]
    exact h.status.append h'.status
  moved := by
    intro change hchange
    rw [statusChanges, changes_append, List.mem_append] at hchange
    exact hchange.elim (h.moved change) (h'.moved change)
  step := by
    rw [HistoryEvent.moves, changes_append]
    exact h.step.append h'.step
  round := by
    rw [h'.round, h.round, rounds, rounds, rounds, List.countP_append]
    omega

theorem Continues.trans (h : s.Continues t) (h' : t.Continues u) : s.Continues u := by
  obtain ⟨events, htells⟩ := h
  obtain ⟨more, htells'⟩ := h'
  exact ⟨events ++ more, htells.trans htells'⟩

theorem Continues.of_same (hhistory : t.history = s.history) (hstatus : t.status = s.status)
    (hstep : t.step = s.step) (hround : t.round = s.round) : s.Continues t := by
  refine ⟨[], ?added, ?status, ?moved, ?step, ?round⟩
  case added => rw [hhistory, List.append_nil]
  case status =>
    rw [hstatus]
    rfl
  case moved => simp [statusChanges, changes]
  case step =>
    rw [hstep]
    rfl
  case round => simp [hround, rounds]

/-! ## One thing after another -/

theorem Notes.continues {kind : EventKind} {details : Entries Value} (h : s.Notes kind details t)
    (hstatus : kind ≠ .statusChanged) (hstep : kind ≠ .actionExecuted)
    (hround : kind ≠ .approvalInitialized) : s.Continues t := by
  obtain ⟨event, rfl, -, rfl⟩ := h
  refine ⟨[event], rfl, ?status, ?moved, ?step, ?round⟩
  case status => simp [statusChanges, changes, hstatus, Joined, add]
  case moved => simp [statusChanges, changes, hstatus]
  case step => simp [HistoryEvent.moves, changes, hstep, Joined, add]
  case round => simp [rounds, hround, add]

theorem Notes.continues_of_status {status : Status} {details : Entries Value}
    (h : { s with status := status }.Notes .statusChanged details t)
    (hfrom : details.get? "from" = some (ofNamed s.status))
    (hto : details.get? "to" = some (ofNamed status)) (hmoved : s.status ≠ status) :
    s.Continues t := by
  obtain ⟨event, hkind, rfl, rfl⟩ := h
  have hchanges : statusChanges [event] = [(ofNamed s.status, ofNamed status)] := by
    simp [statusChanges, changes, hkind, detail, hfrom, hto]
  refine ⟨[event], rfl, ?status, ?moved, ?step, ?round⟩
  case status =>
    rw [hchanges]
    exact ⟨rfl, rfl⟩
  case moved =>
    rw [hchanges]
    intro change hchange he
    rw [List.mem_singleton.mp hchange] at he
    have hsame : (ofNamed s.status).same (ofNamed status) = true := by
      rw [show (ofNamed s.status : Value) = ofNamed status from he]
      exact same_ofNamed_iff.mpr rfl
    exact hmoved (same_ofNamed_iff.mp hsame)
  case step => simp [HistoryEvent.moves, changes, hkind, Joined, add]
  case round => simp [rounds, hkind, add]

theorem NotesChange.continues {status : Status}
    (h : { s with status := status }.NotesChange s.status t) : s.Continues t := by
  rcases h with ⟨he, rfl⟩ | ⟨hmoved, hnoted⟩
  · exact .of_same rfl he.symm rfl rfl
  · exact hnoted.continues_of_status rfl rfl hmoved

theorem Started.continues {records : Chain} (h : s.Started records t) : s.Continues t := by
  obtain ⟨u, ⟨event, hkind, hdetails, rfl⟩, hchange⟩ := h
  -- the round is told of before its status is, so the event stands between the two
  have hround : s.Continues
      { s with chain := s.chain ++ records, round := s.round + 1,
               history := s.history ++ [event] } := by
    refine ⟨[event], rfl, ?status, ?moved, ?step, ?round⟩
    case status => simp [statusChanges, changes, hkind, Joined]
    case moved => simp [statusChanges, changes, hkind]
    case step => simp [HistoryEvent.moves, changes, hkind, Joined]
    case round => simp [rounds, hkind]
  exact hround.trans (@NotesChange.continues _ _ .pendingApproval hchange)

theorem Assigned.continues (h : s.Assigned t) : s.Continues t := by
  obtain ⟨assignee, rfl | ⟨details, hnoted⟩⟩ := h
  · exact .of_same rfl rfl rfl rfl
  · have hassigned : s.Continues { s with assignee := assignee } := .of_same rfl rfl rfl rfl
    exact hassigned.trans (hnoted.continues (by simp) (by simp) (by simp))

theorem Left.continues {step target : Step} {action : StepAction}
    (h : s.Left step action target t) (here : s.step = step.id) :
    s.Continues t ∧ t.step = target.id := by
  obtain ⟨comments, event, hkind, hdetails, rfl⟩ := h
  have hmoves : HistoryEvent.moves [event] = [(.text step.id, .text target.id)] := by
    simp [HistoryEvent.moves, changes, hkind, detail, hdetails, Entries.get?]
  refine ⟨⟨[event], rfl, ?status, ?moved, ?step, ?round⟩, rfl⟩
  case status => simp [statusChanges, changes, hkind, Joined, add, skipOpen]
  case moved => simp [statusChanges, changes, hkind]
  case step =>
    rw [hmoves, here]
    exact ⟨rfl, rfl⟩
  case round => simp [rounds, hkind, add, skipOpen]

theorem Decided.continues {outcome : ApprovalOutcome} {kind : EventKind}
    (h : s.Decided outcome kind t) (hstatus : kind ≠ .statusChanged)
    (hstep : kind ≠ .actionExecuted) (hround : kind ≠ .approvalInitialized) :
    s.Continues t := by
  obtain ⟨details, u, ⟨event, rfl, -, rfl⟩, hchange⟩ := h
  -- the decision is told of before the status that it leads to
  have hdecided : s.Continues
      { s with chain := outcome.chain, history := s.history ++ [event] } := by
    have hchain : s.Continues { s with chain := outcome.chain } := .of_same rfl rfl rfl rfl
    exact hchain.trans (Notes.continues ⟨event, rfl, rfl, rfl⟩ hstatus hstep hround)
  exact hdecided.trans (@NotesChange.continues _ _ outcome.status hchange)

/-! ## Whole ways -/

theorem Entered.continues {e : Surroundings} {step : Step} (h : Entered e step s t)
    (here : s.step = step.id) : s.Continues t := by
  induction h with
  | rests rested assigned => exact (NotesChange.continues rested).trans assigned.continues
  | awaits _ _ _ started assigned => exact started.continues.trans assigned.continues
  | passes rested _ _ leaves _ ih =>
    obtain ⟨hleft, hthere⟩ :=
      leaves.continues ((congrArg SubmissionState.step rested.same).trans here)
    exact ((NotesChange.continues rested).trans hleft).trans (ih hthere)

theorem Followed.continues {e : Surroundings} {step : Step} {action : StepAction}
    (h : s.Followed e step action t) (here : s.step = step.id) : s.Continues t := by
  obtain ⟨target, u, -, hleaves, hentered⟩ := h
  obtain ⟨hleft, hthere⟩ := hleaves.continues here
  exact hleft.trans (hentered.continues hthere)

theorem GoneOn.continues {e : Surroundings} {step : Step} (h : GoneOn e step s t)
    (here : s.step = step.id) : s.Continues t := by
  cases h with
  | stayed _ => exact .of_same rfl rfl rfl rfl
  | followed _ followed => exact followed.continues here

theorem Escalated.continues {time : Calendar.Stamp} {escalations : List Escalation}
    (h : Escalated time escalations s t) : s.Continues t ∧ t.step = s.step := by
  induction h with
  | done => exact ⟨.of_same rfl rfl rfl rfl, rfl⟩
  | stopped _ => exact ⟨.of_same rfl rfl rfl rfl, rfl⟩
  | next _ _ decided _ ih =>
    exact ⟨(decided.continues (by simp) (by simp) (by simp)).trans ih.1, ih.2.trans decided.step⟩

theorem Performed.continues {r : WorkflowRequest} {step : Step} {op : Operation}
    (h : Performed r step s op t) (here : s.step = step.id) : s.Continues t := by
  cases h with
  | execute _ followed => exact followed.continues here
  | decide _ decided goesOn =>
    have hdecided := decided.continues (by simp) (by simp) (by simp)
    exact hdecided.trans (goesOn.continues (decided.step.trans here))
  | @terminate value reason status _ running _ final ended =>
    have hskipped : s.Continues s.skipOpen := .of_same rfl rfl rfl rfl
    have hmoved : s.status ≠ status := by
      intro he
      rw [he, final] at running
      cases running
    exact hskipped.trans (Notes.continues_of_status ended rfl rfl hmoved)
  | escalate escalated goesOn =>
    obtain ⟨hescalated, hstep⟩ := escalated.continues
    exact hescalated.trans (goesOn.continues (hstep.trans here))

end SubmissionState

namespace Workflow

open SubmissionState

variable {w : Workflow} {s s' : SubmissionState} {op : Operation}

theorem id_of_step? {id : String} {step : Step} (h : w.step? id = some step) : step.id = id := by
  simpa using List.find?_some h

theorem Calls.continues (call : w.Calls s op s') : s.Continues s' := by
  cases call with
  | answered inWorkflow onState returned =>
    obtain ⟨step, u, hstep, hperformed, he⟩ := WorkflowRequest.perform_performed returned onState
    have here : s.step = step.id := (id_of_step? hstep).symm
    have hbumped : u.Continues u.bump := .of_same rfl rfl rfl rfl
    rw [he]
    exact (hperformed.continues here).trans hbumped

theorem Reachable.continues (reached : w.Reachable s) :
    ({ step := w.start.id, status := .submitted } : SubmissionState).Continues s := by
  induction reached with
  | started inWorkflow returned =>
    subst inWorkflow
    obtain ⟨noted, hnoted, hentered⟩ := Surroundings.start_entered returned
    exact (hnoted.continues (by simp) (by simp) (by simp)).trans
      (hentered.continues (congrArg SubmissionState.step hnoted.same))
  | called _ call ih => exact ih.trans call.continues

/-- The history tells the state. Its changes of the status lead from the first status to the present
one, each from where the one before it ended, and none of them from a status to itself; its moves
lead from the first step to the present one in the same way; it counts the rounds. Each call only
adds to it. -/
theorem Reachable.history_replays (reached : w.Reachable s) :
    Joined (ofNamed Status.submitted) (statusChanges s.history) (ofNamed s.status) ∧
    (∀ change ∈ statusChanges s.history, change.1 ≠ change.2) ∧
    Joined (.text w.start.id) (HistoryEvent.moves s.history) (.text s.step) ∧
    (rounds s.history : Int) = s.round ∧
    ∀ op s', w.Calls s op s' → s.history <+: s'.history := by
  obtain ⟨events, htells⟩ := reached.continues
  have hevents : s.history = events := htells.added
  have hround : s.round = (rounds events : Int) := by simpa using htells.round
  rw [hevents]
  refine ⟨htells.status, htells.moved, htells.step, hround.symm, ?_⟩
  intro op s' call
  obtain ⟨more, hmore⟩ := call.continues
  rw [hmore.added, hevents]
  exact List.prefix_append events more

/-- Once the review is released, the history leads from the review to the work. -/
theorem Reachable.history_replays_release : ∃ s, Release.workflow.Reachable s ∧
    s.step = "work" ∧ s.status = .inProgress ∧
    Joined (.text "review") (HistoryEvent.moves s.history) (.text s.step) ∧
    Joined (ofNamed Status.submitted) (statusChanges s.history) (ofNamed s.status) := by
  obtain ⟨_, s, hreached, hcall, -, -, hstatus, hstep⟩ := Release.reached
  have hreachedS : Release.workflow.Reachable s := .called hreached hcall
  have hreplays := Reachable.history_replays hreachedS
  exact ⟨s, hreachedS, hstep, hstatus, hreplays.2.2.1, hreplays.1⟩

end Workflow
end Formwork
