import Formwork.Proofs.Workflow.Operation
/-!
# What happens to a state on its way

An operation on a submission comes to a few things that happen to its state one after another: a
step is left, a status is taken, a round is started, a decision is carried over. Here each of them
is a relation between the state before it and the state behind it, with the event that the history
gets, and what is carried out is read back into these relations once. Whatever is to hold along a
way is then shown of them, and no longer of the work that names events and may fail.
-/
namespace Formwork

open Calendar Document

namespace SubmissionState

variable {s t : SubmissionState} {ids left : Ids}

/-! ## One thing after another -/

/-- An event of the kind is added, with the details. -/
def Notes (s : SubmissionState) (kind : EventKind) (details : Entries Value)
    (t : SubmissionState) : Prop :=
  ∃ event : HistoryEvent, event.kind = kind ∧ event.details = details ∧ t = s.add event

/-- The change from an earlier status is added, if the status moved. -/
def NotesChange (s : SubmissionState) (previous : Status) (t : SubmissionState) : Prop :=
  (previous = s.status ∧ t = s) ∨
    (previous ≠ s.status ∧
      s.Notes .statusChanged [("from", ofNamed previous), ("to", ofNamed s.status)] t)

/-- The status of a step is taken, where nobody is asked for approval. -/
def Rested (s : SubmissionState) (step : Step) (t : SubmissionState) : Prop :=
  { s with status := Journey.restingStatus step }.NotesChange s.status t

/-- The next round is started with the records. -/
def Started (s : SubmissionState) (records : Chain) (t : SubmissionState) : Prop :=
  ∃ u, { s with chain := s.chain ++ records, round := s.round + 1,
                status := .pendingApproval }.Notes .approvalInitialized
      [("round", .int (s.round + 1)), ("records", .int records.length)] u ∧
    u.NotesChange s.status t

/-- Somebody is assigned, or nobody any more. -/
def Assigned (s t : SubmissionState) : Prop :=
  ∃ assignee, t = { s with assignee := assignee } ∨
    ∃ details, { s with assignee := assignee }.Notes .assigned details t

/-- A step is left for another one; what was open there stays undecided. -/
def Left (s : SubmissionState) (step : Step) (action : StepAction) (target : Step)
    (t : SubmissionState) : Prop :=
  ∃ comments, { s.skipOpen with step := target.id }.Notes .actionExecuted
    [("action_id", .text action.id), ("from_step", .text step.id), ("to_step", .text target.id),
      ("comments", comments)] t

/-- What a decision made of the chain is carried over. -/
def Decided (s : SubmissionState) (outcome : ApprovalOutcome) (kind : EventKind)
    (t : SubmissionState) : Prop :=
  ∃ details u, { s with chain := outcome.chain, status := outcome.status }.Notes kind details u ∧
    u.NotesChange s.status t

/-! ### What else stays -/

theorem Notes.same {kind : EventKind} {details : Entries Value} (h : s.Notes kind details t) :
    t = { s with history := t.history } := by
  obtain ⟨event, -, -, rfl⟩ := h
  rfl

theorem NotesChange.same {previous : Status} (h : s.NotesChange previous t) :
    t = { s with history := t.history } := by
  rcases h with ⟨-, rfl⟩ | ⟨-, hnoted⟩
  · rfl
  · exact hnoted.same

theorem Rested.same {step : Step} (h : s.Rested step t) :
    t = { s with status := Journey.restingStatus step, history := t.history } :=
  NotesChange.same h

theorem Started.same {records : Chain} (h : s.Started records t) :
    t = { s with chain := s.chain ++ records, round := s.round + 1,
                 status := .pendingApproval, history := t.history } := by
  obtain ⟨u, hnoted, hchange⟩ := h
  rw [hchange.same, hnoted.same]

theorem Assigned.same (h : s.Assigned t) :
    t = { s with assignee := t.assignee, history := t.history } := by
  obtain ⟨assignee, rfl | ⟨details, hnoted⟩⟩ := h
  · rfl
  · rw [hnoted.same]

theorem Left.same {step target : Step} {action : StepAction} (h : s.Left step action target t) :
    t = { s.skipOpen with step := target.id, history := t.history } := by
  obtain ⟨comments, hnoted⟩ := h
  exact hnoted.same

theorem Decided.same {outcome : ApprovalOutcome} {kind : EventKind} (h : s.Decided outcome kind t) :
    t = { s with chain := outcome.chain, status := outcome.status, history := t.history } := by
  obtain ⟨details, u, hnoted, hchange⟩ := h
  rw [hchange.same, hnoted.same]

theorem Decided.step {outcome : ApprovalOutcome} {kind : EventKind} (h : s.Decided outcome kind t) :
    t.step = s.step := by
  rw [h.same]

theorem note_notes {kind : EventKind} {time : Stamp} {actor step : Option String}
    {details : Entries Value} (h : (s.note kind time actor step details).Returns ids t left) :
    s.Notes kind details t := by
  simp only [note, Work.bind_returns_iff, Work.pure_returns_iff] at h
  obtain ⟨id, _, -, he, -⟩ := h
  exact ⟨_, rfl, rfl, he.symm⟩

theorem same_ofNamed_iff {a b : Status} :
    (ofNamed a).same (ofNamed b) = true ↔ a = b := by
  cases a <;> cases b <;> decide

theorem noteStatus_notes {previous : Status} {time : Stamp} {actor : Option String}
    (h : (s.noteStatus previous time actor).Returns ids t left) : s.NotesChange previous t := by
  unfold noteStatus noteChange at h
  split at h
  · rename_i hsame
    simp only [Work.pure_returns_iff] at h
    exact .inl ⟨same_ofNamed_iff.mp hsame, h.1.symm⟩
  · rename_i hsame
    exact .inr ⟨fun he => hsame (same_ofNamed_iff.mpr he), note_notes h⟩

end SubmissionState

/-- What a ballot asks of the approval chain. -/
def WorkflowRequest.approvalRequest (r : WorkflowRequest) (config : ApprovalConfig)
    (ballot : Ballot) : ApprovalRequest :=
  { submission := r.submission, config := config, approver := ballot.approver,
    roles := ballot.rolesIn r.context, decision := ballot.decision, comments := r.comments,
    delegate := ballot.delegate, expectedVersion := r.expectedVersion,
    time := r.surroundings.time }

namespace SubmissionState

/-! ## Whole ways -/

/-- Entering a step leads to where the submission rests, or awaits approval. -/
inductive Entered (e : Surroundings) : Step → SubmissionState → SubmissionState → Prop
  | rests {step : Step} {s t u : SubmissionState} (rested : s.Rested step t)
      (assigned : t.Assigned u) : Entered e step s u
  | awaits {step : Step} {s t u : SubmissionState} {config : ApprovalConfig} {records : Chain}
      {ids left : Ids} (kind : step.kind = .approval)
      (asked : (config.startChain e.context (s.round + 1)).Returns ids records left)
      (nonempty : records ≠ []) (started : s.Started records t) (assigned : t.Assigned u) :
      Entered e step s u
  | passes {step target : Step} {action : StepAction} {s t u v : SubmissionState}
      (rested : s.Rested step t) (offered : action ∈ step.actions)
      (found : e.workflow.step? target.id = some target) (leaves : t.Left step action target u)
      (entered : Entered e target u v) : Entered e step s v

/-- A step is left through an action, and the one behind it is entered. -/
def Followed (s : SubmissionState) (e : Surroundings) (step : Step) (action : StepAction)
    (u : SubmissionState) : Prop :=
  ∃ target t, e.workflow.step? target.id = some target ∧ s.Left step action target t ∧
    Entered e target t u

/-- The action that follows a chain is followed, if the chain has ended and its step names one. -/
inductive GoneOn (e : Surroundings) (step : Step) (s : SubmissionState) : SubmissionState → Prop
  | stayed (ended : WorkflowRequest.chainFollowUp? step s.status = none) : GoneOn e step s s
  | followed {action : StepAction} {t : SubmissionState}
      (ended : WorkflowRequest.chainFollowUp? step s.status = some action)
      (followed : s.Followed e step action t) : GoneOn e step s t

/-- Escalations are carried out one after another, as long as approval is awaited. -/
inductive Escalated (time : Stamp) : List Escalation → SubmissionState → SubmissionState → Prop
  | done {s : SubmissionState} : Escalated time [] s s
  | stopped {x : Escalation} {rest : List Escalation} {s : SubmissionState}
      (ended : s.status ≠ .pendingApproval) : Escalated time (x :: rest) s s
  | next {x : Escalation} {rest : List Escalation} {s t u : SubmissionState}
      {outcome : ApprovalOutcome} {ids left : Ids} (awaited : s.status = .pendingApproval)
      (escalated : (s.chain.escalate .pendingApproval x time).Returns ids outcome left)
      (decided : s.Decided outcome .approvalEscalated t) (later : Escalated time rest t u) :
      Escalated time (x :: rest) s u

/-- An operation is carried out on a state whose step is the given one. -/
inductive Performed (r : WorkflowRequest) (step : Step) (s : SubmissionState) :
    Operation → SubmissionState → Prop
  | execute {actionId : String} {action : StepAction} {t : SubmissionState}
      (resolved : r.resolve actionId = .ok (s, step, action))
      (followed : s.Followed r.surroundings step action t) :
      Performed r step s (.execute actionId) t
  | decide {ballot : Ballot} {config : ApprovalConfig} {outcome : ApprovalOutcome}
      {t u : SubmissionState} {ids left : Ids}
      (processed : (r.approvalRequest config ballot).process.Returns ids outcome left)
      (decided : s.Decided outcome .approvalDecision t) (goesOn : GoneOn r.surroundings step t u) :
      Performed r step s (.decide ballot) u
  | terminate {value reason : Value} {status : Status} {t : SubmissionState}
      (running : s.status.isFinal = false) (asked : Status.ofValue value = .ok status)
      (final : status.isFinal = true)
      (ended : { s.skipOpen with status := status }.Notes .statusChanged
        [("from", ofNamed s.status), ("to", ofNamed status), ("reason", reason)] t) :
      Performed r step s (.terminate value reason) t
  | escalate {escalations : List Escalation} {t u : SubmissionState}
      (escalated : Escalated r.surroundings.time escalations s t)
      (goesOn : GoneOn r.surroundings step t u) : Performed r step s (.escalate escalations) u

end SubmissionState

namespace Workflow

variable {w : Workflow} {step : Step} {action : StepAction}

theorem mem_of_followUp? {id : Option String} (h : step.followUp? id = some action) :
    action ∈ step.actions := by
  unfold Step.followUp? at h
  obtain ⟨_, -, haction⟩ := Option.bind_eq_some_iff.mp h
  exact List.mem_of_find?_eq_some haction

end Workflow

namespace Journey

open SubmissionState

variable {e : Surroundings} {j j' : Journey} {step target : Step} {action : StepAction}
  {next : Option StepAction} {actor comments : Option String} {ids left : Ids}

/-! ## Reading the way back -/

theorem assignOnEntry_assigned {autoAssign : Bool}
    (h : (j.assignOnEntry e step autoAssign actor).Returns ids j' left) :
    j.state.Assigned j'.state := by
  have hsame : j.state.Assigned j.state := ⟨j.state.assignee, .inl rfl⟩
  unfold assignOnEntry at h
  split at h
  · simp only [Work.pure_returns_iff] at h
    rw [← h.1]
    exact hsame
  · split at h
    · unfold assign at h
      obtain ⟨chosen, _, -, h⟩ := Work.bind_returns_iff.mp h
      split at h
      · simp only [Work.pure_returns_iff] at h
        rw [← h.1]
        exact ⟨none, .inl rfl⟩
      · simp only [Work.bind_returns_iff, Work.pure_returns_iff] at h
        obtain ⟨state, _, hnoted, rfl, -⟩ := h
        obtain ⟨event, hkind, hdetails, rfl⟩ := note_notes hnoted
        exact ⟨_, .inr ⟨_, event, hkind, hdetails, rfl⟩⟩
    · simp only [Work.pure_returns_iff] at h
      rw [← h.1]
      exact hsame

/-- To arrive at a step is to rest there, or to start a round with those who are asked. -/
inductive Arrived (e : Surroundings) (step : Step) (s : SubmissionState) :
    SubmissionState → Option StepAction → Prop
  | rests {t : SubmissionState} (rested : s.Rested step t) : Arrived e step s t none
  | awaits {t : SubmissionState} {config : ApprovalConfig} {records : Chain} {ids left : Ids}
      (kind : step.kind = .approval)
      (asked : (config.startChain e.context (s.round + 1)).Returns ids records left)
      (nonempty : records ≠ []) (started : s.Started records t) : Arrived e step s t none
  | passes {t : SubmissionState} {action : StepAction} (rested : s.Rested step t)
      (offered : action ∈ step.actions) : Arrived e step s t (some action)

theorem arrive_arrived (h : (j.arrive e step actor).Returns ids (j', next) left) :
    Arrived e step j.state j'.state next := by
  rw [arrive_eq, Work.bind_returns_iff] at h
  obtain ⟨records, between, hasked, h⟩ := h
  unfold settle at h
  split at h
  · simp only [Journey.noteStatus, Work.bind_returns_iff, Work.pure_returns_iff,
      Prod.mk.injEq] at h
    obtain ⟨_, _, ⟨state, _, hnoted, rfl, -⟩, ⟨rfl, rfl⟩, -⟩ := h
    have hrested : j.state.Rested step state := noteStatus_notes hnoted
    split
    · cases hfollow : step.followUp? step.onApproved with
      | none => exact .rests hrested
      | some action => exact .passes hrested (Workflow.mem_of_followUp? hfollow)
    · exact .rests hrested
  · rename_i hsome
    have hne : records ≠ [] := by
      intro he
      exact hsome (by simp [he])
    simp only [startRound, Journey.noteStatus, Work.bind_returns_iff, Work.pure_returns_iff,
      Prod.mk.injEq] at h
    obtain ⟨_, _, ⟨started, _, hstarted, rfl, -⟩, _, _, ⟨state, _, hnoted, rfl, -⟩,
      ⟨rfl, rfl⟩, -⟩ := h
    unfold asked at hasked
    split at hasked
    · rename_i hkind
      rw [Work.bind_returns_iff] at hasked
      obtain ⟨config, _, -, hrecords⟩ := hasked
      exact .awaits hkind hrecords hne ⟨started, note_notes hstarted, noteStatus_notes hnoted⟩
    · simp only [Work.pure_returns_iff] at hasked
      exact absurd hasked.1.symm hne

theorem leave_left (h : (j.leave e step action actor comments).Returns ids (target, j') left) :
    e.workflow.step? target.id = some target ∧ j.state.Left step action target j'.state := by
  refine ⟨(leave_returns h).1, ?_⟩
  simp only [leave, Work.bind_returns_iff, Work.lift_returns_iff, Work.pure_returns_iff,
    Prod.mk.injEq] at h
  obtain ⟨target', _, -, j₁, _, hexit, j₂, _, hauto, state, _, hnoted, ⟨rfl, rfl⟩, -⟩ := h
  rw [← perform_returns hexit, ← perform_returns hauto]
  exact ⟨_, note_notes hnoted⟩

/-- What is entered is entered step by step. The induction is on the moves that are left, each of
which is spent on a step that asks nobody. -/
theorem enter_entered {moves : Nat} {autoAssign : Bool}
    (h : (enter e moves step actor autoAssign j).Returns ids j' left) :
    Entered e step j.state j'.state := by
  induction moves using Nat.strongRecOn generalizing step actor autoAssign j ids with
  | ind moves ih =>
    obtain ⟨j₁, j₂, next, _, _, hperformed, harrived, hgone⟩ := enter_cases h
    rw [← perform_returns hperformed]
    rcases hgone with ⟨rfl, hassigned⟩ | ⟨action, target, j₃, _, fewer, rfl, rfl, hleft, hentered⟩
    · have assigned := assignOnEntry_assigned hassigned
      cases arrive_arrived harrived with
      | rests rested => exact .rests rested assigned
      | awaits kind asked nonempty started => exact .awaits kind asked nonempty started assigned
    · obtain ⟨hfound, hleaves⟩ := leave_left hleft
      cases arrive_arrived harrived with
      | passes rested offered =>
        exact .passes rested offered hfound hleaves (ih fewer (Nat.lt_succ_self fewer) hentered)

theorem follow_followed {moves : Nat}
    (h : (j.follow e moves step action actor comments).Returns ids j' left) :
    j.state.Followed e step action j'.state := by
  simp only [follow, Work.bind_returns_iff] at h
  obtain ⟨⟨target, j₁⟩, _, hleft, h⟩ := h
  obtain ⟨hfound, hleaves⟩ := leave_left hleft
  exact ⟨target, j₁.state, hfound, hleaves, enter_entered h⟩

end Journey

namespace WorkflowRequest

open SubmissionState

variable {r : WorkflowRequest} {s u : SubmissionState} {step : Step} {j j' : Journey}
  {t : Transition} {ids left : Ids}

theorem applyOutcome_decided {outcome : ApprovalOutcome} {actor : String} {kind : EventKind}
    {details : Entries Value}
    (h : (r.applyOutcome s step outcome actor kind details).Returns ids u left) :
    s.Decided outcome kind u := by
  simp only [applyOutcome, Work.bind_returns_iff] at h
  obtain ⟨noted, _, hnoted, h⟩ := h
  exact ⟨details, noted, note_notes hnoted, noteStatus_notes h⟩

theorem followChain_goneOn (h : (r.followChain step j).Returns ids j' left) :
    GoneOn r.surroundings step j.state j'.state := by
  rcases followChain_returns h with ⟨hnone, rfl, -⟩ | ⟨action, haction, hfollowed⟩
  · exact .stayed hnone
  · exact .followed haction (Journey.follow_followed hfollowed)

theorem escalateAll_escalated {escalations : List Escalation}
    (h : (r.escalateAll step escalations j).Returns ids j' left) :
    Escalated r.surroundings.time escalations j.state j'.state := by
  induction escalations generalizing j ids with
  | nil =>
    simp only [escalateAll, Work.pure_returns_iff] at h
    rw [← h.1]
    exact .done
  | cons x rest ih =>
    unfold escalateAll at h
    split at h
    · rename_i hpending
      simp only [Work.bind_returns_iff] at h
      obtain ⟨outcome, _, hescalated, state, _, happlied, made, _, -, h⟩ := h
      simp only [Submission.escalate, hpending, ↓reduceIte] at hescalated
      exact .next hpending hescalated (applyOutcome_decided happlied) (ih h)
    · rename_i hended
      simp only [Work.pure_returns_iff] at h
      rw [← h.1]
      exact .stopped hended

theorem mem_of_action? {id : String} {action : StepAction} (h : step.action? id = some action) :
    action ∈ step.actions :=
  List.mem_of_find?_eq_some h

theorem requireAction_eq_ok {id : String} {action : StepAction}
    (h : step.requireAction id = .ok action) : step.action? id = some action := by
  unfold Step.requireAction at h
  cases haction : step.action? id with
  | none => simp [haction] at h
  | some a => simpa [haction] using h

theorem mem_of_chainFollowUp? {action : StepAction} {status : Status}
    (h : chainFollowUp? step status = some action) :
    action ∈ step.actions := by
  unfold chainFollowUp? at h
  split at h
  · exact Workflow.mem_of_followUp? h
  · exact Workflow.mem_of_followUp? h
  · cases h

theorem resolve_eq_ok {actionId : String} {state : SubmissionState} {action : StepAction}
    (h : r.resolve actionId = .ok (state, step, action)) (onState : r.submission.state = some s) :
    state = s ∧ s.status.isFinal = false ∧ r.workflow.step? s.step = some step ∧
      action ∈ step.actions := by
  simp only [resolve, Work.except_bind_eq_ok_iff, requireState_of onState] at h
  obtain ⟨state', hstate, _, -, _, hopen, _, hstep, _, haction, _, -, he⟩ := h
  simp only [Except.ok.injEq] at hstate
  simp only [pure, Except.pure, Except.ok.injEq, Prod.mk.injEq] at he
  obtain ⟨rfl, rfl, rfl⟩ := he
  subst hstate
  exact ⟨rfl, checkNotFinal_eq_ok_iff.mp hopen, Workflow.requireStep_eq_ok_iff.mp hstep,
    mem_of_action? (requireAction_eq_ok haction)⟩

/-- Whatever is carried out is carried out on the step of the state, and makes the next version. -/
theorem perform_performed {op : Operation} (h : (r.perform op).Returns ids t left)
    (onState : r.submission.state = some s) :
    ∃ step u, r.workflow.step? s.step = some step ∧ Performed r step s op u ∧
      t.state = u.bump := by
  cases op with
  | execute actionId =>
    simp only [perform, execute, Work.bind_returns_iff, Work.lift_returns_iff] at h
    obtain ⟨⟨state, step, action⟩, _, ⟨hresolved, rfl⟩, j, _, hfollowed, h⟩ := h
    obtain ⟨rfl, -, hstep, -⟩ := resolve_eq_ok hresolved onState
    exact ⟨step, j.state, hstep, .execute hresolved (Journey.follow_followed hfollowed),
      finish_returns h⟩
  | decide ballot =>
    simp only [perform, decide, Work.bind_returns_iff, Work.lift_returns_iff,
      requireState_of onState, Except.ok.injEq, Workflow.requireStep_eq_ok_iff] at h
    obtain ⟨state, _, ⟨rfl, -⟩, step, _, ⟨hstep, -⟩, config, _, -, _, _, ⟨rfl, -⟩, outcome,
      _, hprocessed, next, _, happlied, j, _, hfollowed, h⟩ := h
    have hrequest : (r.approvalRequest config ballot).process.Returns _ outcome _ := hprocessed
    exact ⟨step, j.state, hstep, .decide hrequest (applyOutcome_decided happlied)
      (followChain_goneOn hfollowed), finish_returns h⟩
  | terminate status reason =>
    simp only [perform, terminate, Work.bind_returns_iff, Work.lift_returns_iff,
      requireState_of onState] at h
    obtain ⟨status', _, ⟨hasked, rfl⟩, h⟩ := h
    split at h
    · simp [Work.bind_returns_iff] at h
    · rename_i hfinal
      simp only [Work.bind_returns_iff, Work.lift_returns_iff, Except.ok.injEq,
        Workflow.requireStep_eq_ok_iff] at h
      obtain ⟨state, _, ⟨rfl, -⟩, _, _, -, _, _, ⟨hopen, -⟩, step, _, ⟨hstep, -⟩, ended, _, hnoted,
        h⟩ := h
      exact ⟨step, ended, hstep, .terminate (checkNotFinal_eq_ok_iff.mp hopen) hasked
        (by simpa using hfinal) (note_notes hnoted), finish_returns h⟩
  | escalate escalations =>
    obtain ⟨step, j, j', _, _, hstep, hescalated, hfollowed, he⟩ := escalate_returns h onState
    exact ⟨step, j'.state, hstep, .escalate (escalateAll_escalated hescalated)
      (followChain_goneOn hfollowed), he⟩

end WorkflowRequest

namespace Surroundings

open SubmissionState

theorem start_entered {e : Surroundings} {submission : Submission} {ids left : Ids}
    {t : Transition} (h : (e.start submission).Returns ids t left) :
    ∃ s, ({ step := e.workflow.start.id, status := .submitted } : SubmissionState).Notes
      .workflowStarted [] s ∧ Entered e e.workflow.start s t.state := by
  simp only [start, Work.bind_returns_iff, Work.lift_returns_iff] at h
  obtain ⟨noted, _, hnoted, j, _, hentered, htransition, -⟩ := h
  rw [Journey.transition_eq_ok htransition]
  exact ⟨noted, note_notes hnoted, Journey.enter_entered hentered⟩

end Surroundings
end Formwork
