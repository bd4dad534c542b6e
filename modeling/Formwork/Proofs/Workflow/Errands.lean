import Formwork.Proofs.Workflow.Replay
import Formwork.Proofs.Workflow.Unfailing
import Formwork.Proofs.Lifecycle.Effects
import Formwork.Proofs.Field.Layering
/-!
# What is asked for along the way

Steps and actions send their errands when a submission comes by: a step when it is left and when it
is entered, an action when it is taken. A hop is a step that was left through an action for another
step, and the history tells of each. What a way asks for and sets comes of the errands along its hops
alone, in their order, and of the escalations of which the history tells.
-/
namespace Formwork

open Document HistoryEvent

/-! ## Errands -/

/-- What an instruction asks for, whatever its name. -/
structure Demand where
  kind : InstructionKind
  source : String
  payload : Entries Value

def Instruction.demand (i : Instruction) : Demand := ⟨i.kind, i.source, i.payload⟩

/-- Actions that are carried out together, and the source that they name. -/
structure Errand where
  source : String
  actions : List Action

namespace Action

variable {a : Action} {source : String} {c : Context}

/-- What the action asks for, if anything. -/
def demand? (a : Action) (source : String) (c : Context) : Option Demand :=
  match a.request c with
  | .ok (some (kind, payload)) => some ⟨kind, source, withSubmission payload c⟩
  | _ => none

/-- The field that the action sets, if any. -/
def set? (a : Action) (source : String) (c : Context) : Option Update :=
  match a.update? source c with
  | .ok update => update
  | .error _ => none

theorem instruction_demand {ids left : Ids} {made : Option Instruction}
    (h : (a.instruction source c).Returns ids made left) :
    (∃ asked, a.request c = .ok asked) ∧ made.map (·.demand) = a.demand? source c := by
  simp only [instruction, Work.bind_returns_iff, Work.lift_returns_iff] at h
  obtain ⟨asked, _, ⟨hasked, rfl⟩, h⟩ := h
  refine ⟨⟨asked, hasked⟩, ?_⟩
  cases asked with
  | none =>
    simp only [Work.pure_returns_iff] at h
    rw [← h.1, demand?, hasked]
    rfl
  | some request =>
    simp only [Work.bind_returns_iff, Work.pure_returns_iff] at h
    obtain ⟨id, _, -, rfl, -⟩ := h
    rw [demand?, hasked]
    rfl

theorem exists_update_of_source {update : Option Update} (h : a.update? source c = .ok update)
    (other : String) : ∃ update, a.update? other c = .ok update := by
  unfold update? at h ⊢
  split
  · rename_i field value hdeed
    simp only [hdeed, Work.except_bind_eq_ok_iff] at h
    obtain ⟨filled, hfilled, -⟩ := h
    exact ⟨_, Work.except_bind_eq_ok_iff.mpr ⟨filled, hfilled, rfl⟩⟩
  · exact ⟨none, rfl⟩

theorem request_of_update {u : Update} (h : a.update? source c = .ok (some u)) :
    a.request c = .ok none := by
  unfold update? at h
  split at h
  · rename_i field value hdeed
    rw [request, hdeed]
  · cases h

end Action

namespace Errand

def Answers (e : Errand) (c : Context) : Prop := ∀ a ∈ e.actions, a.Answers c

/-- What the actions of an errand ask for, in their order. -/
def demands (c : Context) (e : Errand) : List Demand := e.actions.filterMap (·.demand? e.source c)

/-- The fields that the actions of an errand set, in their order. -/
def updates (c : Context) (e : Errand) : List Update := e.actions.filterMap (·.set? e.source c)

end Errand

def Step.entering (s : Step) : Errand := ⟨s!"step:{s.id}", s.onEnter⟩

def Step.leaving (s : Step) : Errand := ⟨s!"step:{s.id}", s.onExit⟩

def StepAction.taking (a : StepAction) : Errand := ⟨s!"action:{a.id}", a.autoActions⟩

/-! ## Hops -/

/-- A step that is left through an action for another step. -/
structure Hop where
  origin : Step
  action : StepAction
  target : Step

def Hop.errands (h : Hop) : List Errand := [h.origin.leaving, h.action.taking, h.target.entering]

/-- What the history tells of an escalation. -/
def Escalation.notice (e : Escalation) : Entries Value :=
  [("record_id", .text e.record), ("policy", ofNamed e.policy), ("waited_hours", .float e.waited)]

/-- What an escalation asks for on a submission. -/
def Escalation.demand (s : Submission) (e : Escalation) : Demand :=
  ⟨.escalate, s!"approval:{e.record}", Entries.overlay [s.detail] e.entries⟩

namespace HistoryEvent

variable {w : Workflow} {events more : List HistoryEvent} {told later : List Escalation}
  {hops further : List Hop}

def ofKind (kind : EventKind) (events : List HistoryEvent) : List HistoryEvent :=
  events.filter fun e => e.kind = kind

theorem ofKind_append (kind : EventKind) (events more : List HistoryEvent) :
    ofKind kind (events ++ more) = ofKind kind events ++ ofKind kind more :=
  List.filter_append events more

/-- The hop of a workflow of which an event tells. -/
def hop? (w : Workflow) (e : HistoryEvent) : Option Hop :=
  match e.detail "from_step", e.detail "action_id", e.detail "to_step" with
  | .text origin, .text action, .text target => do
    let origin ← w.step? origin
    let action ← origin.action? action
    let target ← w.step? target
    pure ⟨origin, action, target⟩
  | _, _, _ => none

/-- Events tell of these hops and of these escalations, of each once and in their order. -/
structure Recount (w : Workflow) (told : List Escalation) (hops : List Hop)
    (events : List HistoryEvent) : Prop where
  hops : (ofKind .actionExecuted events).map (hop? w) = hops.map some
  escalations : (ofKind .approvalEscalated events).map (·.details) = told.map (·.notice)

theorem Recount.append (h : Recount w told hops events) (h' : Recount w later further more) :
    Recount w (told ++ later) (hops ++ further) (events ++ more) where
  hops := by rw [ofKind_append, List.map_append, h.hops, h'.hops, List.map_append]
  escalations := by
    rw [ofKind_append, List.map_append, h.escalations, h'.escalations, List.map_append]

end HistoryEvent

namespace SubmissionState

variable {w : Workflow} {s t u : SubmissionState} {told later : List Escalation}
  {hops further : List Hop} {step target : Step} {action : StepAction}

/-- The history goes on with events that tell of these hops and escalations. -/
def Recounts (w : Workflow) (s : SubmissionState) (told : List Escalation) (hops : List Hop)
    (t : SubmissionState) : Prop :=
  ∃ events, t.history = s.history ++ events ∧ Recount w told hops events

theorem Recounts.trans (h : s.Recounts w told hops t) (h' : t.Recounts w later further u) :
    s.Recounts w (told ++ later) (hops ++ further) u := by
  obtain ⟨events, hevents, hrecount⟩ := h
  obtain ⟨more, hmore, hrecount'⟩ := h'
  exact ⟨events ++ more, by rw [hmore, hevents, List.append_assoc], hrecount.append hrecount'⟩

theorem Recounts.nil_of_same (h : t.history = s.history) : s.Recounts w [] [] t :=
  ⟨[], by rw [h, List.append_nil], rfl, rfl⟩

theorem Notes.recounts_nil {kind : EventKind} {details : Entries Value} (h : s.Notes kind details t)
    (hhop : kind ≠ .actionExecuted) (hescalated : kind ≠ .approvalEscalated) :
    s.Recounts w [] [] t := by
  obtain ⟨event, rfl, -, rfl⟩ := h
  exact ⟨[event], rfl, by simp [ofKind, hhop], by simp [ofKind, hescalated]⟩

theorem NotesChange.recounts_nil {previous : Status} (h : s.NotesChange previous t) :
    s.Recounts w [] [] t := by
  rcases h with ⟨-, rfl⟩ | ⟨-, hnoted⟩
  · exact .nil_of_same rfl
  · exact hnoted.recounts_nil (by simp) (by simp)

theorem Rested.recounts_nil (h : s.Rested step t) : s.Recounts w [] [] t :=
  @NotesChange.recounts_nil w { s with status := Journey.restingStatus step } t s.status h

theorem Started.recounts_nil {records : Chain} (h : s.Started records t) :
    s.Recounts w [] [] t := by
  obtain ⟨v, hnoted, hchange⟩ := h
  have hstarted : s.Recounts w [] [] v := hnoted.recounts_nil (by simp) (by simp)
  exact hstarted.trans hchange.recounts_nil

theorem Assigned.recounts_nil (h : s.Assigned t) : s.Recounts w [] [] t := by
  obtain ⟨assignee, rfl | ⟨details, hnoted⟩⟩ := h
  · exact .nil_of_same rfl
  · exact hnoted.recounts_nil (by simp) (by simp)

theorem Decided.recounts_nil {outcome : ApprovalOutcome} {kind : EventKind}
    (h : s.Decided outcome kind t) (hhop : kind ≠ .actionExecuted)
    (hescalated : kind ≠ .approvalEscalated) : s.Recounts w [] [] t := by
  obtain ⟨details, v, hnoted, hchange⟩ := h
  have hdecided : s.Recounts w [] [] v := hnoted.recounts_nil hhop hescalated
  exact hdecided.trans hchange.recounts_nil

theorem Left.recounts (h : s.Left step action target t) (hstep : step ∈ w.steps)
    (haction : action ∈ step.actions) (htarget : w.step? target.id = some target) :
    s.Recounts w [] [⟨step, action, target⟩] t := by
  obtain ⟨comments, event, hkind, hdetails, rfl⟩ := h
  have hhop : hop? w event = some ⟨step, action, target⟩ := by
    simp [hop?, detail, hdetails, Entries.get?, Workflow.step?_of_mem hstep,
      Workflow.action?_of_mem hstep haction, htarget]
  exact ⟨[event], rfl, by simp [ofKind, hkind, hhop], by simp [ofKind, hkind]⟩

end SubmissionState

/-! ## Parts of the way -/

namespace Journey

open SubmissionState

variable {e : Surroundings} {w : Workflow} {c : Context} {j j' j'' : Journey} {step target : Step}
  {action : StepAction} {actor comments : Option String} {ids left : Ids} {hops further : List Hop}
  {errands more : List Errand}

/-- On a part of the way these hops are made and these errands are done: the history tells of the
hops, and instructions and updates come of the errands. -/
structure Passes (w : Workflow) (c : Context) (j : Journey) (hops : List Hop)
    (errands : List Errand) (j' : Journey) : Prop where
  told : j.state.Recounts w [] hops j'.state
  answered : ∀ errand ∈ errands, errand.Answers c
  demands : j'.instructions.map (·.demand) =
    j.instructions.map (·.demand) ++ errands.flatMap (·.demands c)
  updates : j'.updates = (errands.flatMap (·.updates c)).foldl Updates.set j.updates

theorem Passes.trans (h : Passes w c j hops errands j') (h' : Passes w c j' further more j'') :
    Passes w c j (hops ++ further) (errands ++ more) j'' where
  told := h.told.trans h'.told
  answered errand herrand :=
    (List.mem_append.mp herrand).elim (h.answered errand) (h'.answered errand)
  demands := by rw [h'.demands, h.demands, List.append_assoc, List.flatMap_append]
  updates := by rw [h'.updates, h.updates, List.flatMap_append, List.foldl_append]

theorem Passes.of_state (told : j.state.Recounts w [] hops j'.state)
    (hinstructions : j'.instructions = j.instructions) (hupdates : j'.updates = j.updates) :
    Passes w c j hops [] j' where
  told := told
  answered := by simp
  demands := by simp [hinstructions]
  updates := by simp [hupdates]

theorem perform_passes {source : String} {actions : List Action}
    (h : (j.perform source c actions).Returns ids j' left) :
    Passes w c j [] [⟨source, actions⟩] j' := by
  induction actions generalizing j ids with
  | nil =>
    obtain ⟨rfl, -⟩ := Work.pure_returns_iff.mp h
    exact ⟨.nil_of_same rfl, by simp [Errand.Answers], by simp [Errand.demands],
      by simp [Errand.updates]⟩
  | cons a rest ih =>
    simp only [perform, Work.bind_returns_iff, Work.lift_returns_iff] at h
    obtain ⟨update, _, ⟨hupdate, rfl⟩, h⟩ := h
    have hset : a.set? source c = update := by rw [Action.set?, hupdate]
    cases update with
    | some u =>
      have hrequest := Action.request_of_update hupdate
      have hanswers : a.Answers c := ⟨⟨none, hrequest⟩, Action.exists_update_of_source hupdate⟩
      have hdemand : a.demand? source c = none := by rw [Action.demand?, hrequest]
      have hrest := ih h
      refine ⟨hrest.told, ?answered, ?demands, ?updates⟩
      case answered => simpa [Errand.Answers, hanswers] using hrest.answered
      case demands => simpa [Errand.demands, hdemand] using hrest.demands
      case updates => simpa [Errand.updates, hset] using hrest.updates
    | none =>
      simp only [Work.bind_returns_iff] at h
      obtain ⟨made, _, hmade, h⟩ := h
      obtain ⟨hasked, hdemand⟩ := Action.instruction_demand hmade
      have hanswers : a.Answers c := ⟨hasked, Action.exists_update_of_source hupdate⟩
      have hrest := ih h
      refine ⟨hrest.told, ?answered, ?demands, ?updates⟩
      case answered => simpa [Errand.Answers, hanswers] using hrest.answered
      case demands =>
        cases made with
        | none => simpa [Errand.demands, ← hdemand] using hrest.demands
        | some i => simpa [Errand.demands, ← hdemand] using hrest.demands
      case updates => simpa [Errand.updates, hset] using hrest.updates

theorem Arrived.recounts_nil {s t : SubmissionState} {next : Option StepAction}
    (h : Arrived e step s t next) : s.Recounts w [] [] t := by
  cases h with
  | rests rested => exact rested.recounts_nil
  | awaits _ _ _ started => exact started.recounts_nil
  | passes rested _ => exact rested.recounts_nil

theorem arrive_passes {next : Option StepAction}
    (h : (j.arrive e step actor).Returns ids (j', next) left) : Passes w c j [] [] j' :=
  .of_state (arrive_arrived h).recounts_nil (by rw [arrive_same h]) (by rw [arrive_same h])

theorem assignOnEntry_passes {autoAssign : Bool}
    (h : (j.assignOnEntry e step autoAssign actor).Returns ids j' left) : Passes w c j [] [] j' :=
  .of_state (assignOnEntry_assigned h).recounts_nil (assignOnEntry_keeps h).2
    (assignOnEntry_keeps h).1

theorem leave_passes (h : (j.leave e step action actor comments).Returns ids (target, j') left)
    (hstep : step ∈ e.workflow.steps) (haction : action ∈ step.actions) :
    Passes e.workflow e.context j [⟨step, action, target⟩] [step.leaving, action.taking] j' := by
  have htarget := (leave_returns h).1
  simp only [leave, Work.bind_returns_iff, Work.lift_returns_iff, Work.pure_returns_iff,
    Prod.mk.injEq] at h
  obtain ⟨_, _, -, j₁, _, hexit, j₂, _, hauto, state, _, hnoted, ⟨rfl, rfl⟩, -⟩ := h
  have hleft : j₂.state.Left step action _ state := ⟨_, note_notes hnoted⟩
  have hmoved : Passes e.workflow e.context j₂ [⟨step, action, _⟩] [] { j₂ with state := state } :=
    .of_state (hleft.recounts hstep haction htarget) rfl rfl
  exact ((perform_passes hexit).trans (perform_passes hauto)).trans hmoved

/-- To enter a step is to do its errand, and then those of the hops through which the submission
moves on. The induction is on the moves that are left. -/
theorem enter_passes {moves : Nat} {autoAssign : Bool}
    (h : (enter e moves step actor autoAssign j).Returns ids j' left)
    (hstep : step ∈ e.workflow.steps) :
    ∃ hops, Passes e.workflow e.context j hops (step.entering :: hops.flatMap Hop.errands) j' := by
  induction moves using Nat.strongRecOn generalizing step actor autoAssign j ids with
  | ind moves ih =>
    obtain ⟨j₁, j₂, next, _, _, hperformed, harrived, hgone⟩ := enter_cases h
    have hthere : Passes e.workflow e.context j [] [step.entering] j₂ :=
      (perform_passes hperformed).trans (arrive_passes harrived)
    rcases hgone with ⟨-, hassigned⟩ | ⟨action, target, j₃, _, fewer, rfl, rfl, hleft, hentered⟩
    · exact ⟨[], hthere.trans (assignOnEntry_passes hassigned)⟩
    · have haction : action ∈ step.actions := by
        cases arrive_arrived harrived with
        | passes _ offered => exact offered
      have htarget := Workflow.mem_of_step? (leave_returns hleft).1
      obtain ⟨hops, hlater⟩ := ih fewer (Nat.lt_succ_self fewer) hentered htarget
      exact ⟨⟨step, action, target⟩ :: hops,
        (hthere.trans (leave_passes hleft hstep haction)).trans hlater⟩

theorem follow_passes {moves : Nat}
    (h : (j.follow e moves step action actor comments).Returns ids j' left)
    (hstep : step ∈ e.workflow.steps) (haction : action ∈ step.actions) :
    ∃ hops, Passes e.workflow e.context j hops (hops.flatMap Hop.errands) j' := by
  simp only [follow, Work.bind_returns_iff] at h
  obtain ⟨⟨target, j₁⟩, _, hleft, hentered⟩ := h
  obtain ⟨hops, hlater⟩ := enter_passes hentered (Workflow.mem_of_step? (leave_returns hleft).1)
  exact ⟨⟨step, action, target⟩ :: hops, (leave_passes hleft hstep haction).trans hlater⟩

end Journey

/-! ## Whole calls -/

/-- The events behind the given ones tell of these hops and escalations. -/
def Transition.Tells (t : Transition) (w : Workflow) (before : List HistoryEvent)
    (told : List Escalation) (hops : List Hop) : Prop :=
  ∃ events, t.state.history = before ++ events ∧ Recount w told hops events

/-- A transition accounts for what it asks for and sets: the events behind the given ones tell of
hops and escalations; each instruction is asked for by an errand on the way or tells of one of the
escalations, in the order in which they came, and each update is made by an errand. -/
structure Transition.Accounts (t : Transition) (w : Workflow) (c : Context) (s : Submission)
    (before : List HistoryEvent) (opening : List Errand) (told : List Escalation)
    (hops : List Hop) : Prop where
  recounted : t.Tells w before told hops
  answered : ∀ errand ∈ opening ++ hops.flatMap Hop.errands, errand.Answers c
  instructions : t.instructions.map (·.demand) = opening.flatMap (·.demands c) ++
    told.map (·.demand s) ++ (hops.flatMap Hop.errands).flatMap (·.demands c)
  updates : t.updates = Updates.mergeAll
    (((opening ++ hops.flatMap Hop.errands).flatMap (·.updates c)).map Updates.single)

/-- The escalations that an operation is to carry out. -/
def Operation.escalations : Operation → List Escalation
  | .escalate escalations => escalations
  | _ => []

namespace WorkflowRequest

open SubmissionState

variable {r : WorkflowRequest} {s u : SubmissionState} {step : Step} {j j' : Journey}
  {t : Transition} {ids left : Ids} {told : List Escalation} {hops : List Hop}

theorem followChain_passes (h : (r.followChain step j).Returns ids j' left)
    (hstep : step ∈ r.workflow.steps) :
    ∃ hops, Journey.Passes r.workflow r.context j hops (hops.flatMap Hop.errands) j' := by
  rcases followChain_returns h with ⟨-, rfl, -⟩ | ⟨action, haction, hfollowed⟩
  · exact ⟨[], .of_state (.nil_of_same rfl) rfl rfl⟩
  · exact Journey.follow_passes hfollowed hstep (mem_of_chainFollowUp? haction)

theorem applyOutcome_recounts {outcome : ApprovalOutcome} {actor : String} {x : Escalation}
    {w : Workflow}
    (h : (r.applyOutcome s step outcome actor .approvalEscalated x.notice).Returns ids u left) :
    s.Recounts w [x] [] u := by
  simp only [applyOutcome, Work.bind_returns_iff] at h
  obtain ⟨noted, _, hnoted, h⟩ := h
  obtain ⟨event, hkind, hdetails, rfl⟩ := note_notes hnoted
  have htold : s.Recounts w [x] [] (add _ event) :=
    ⟨[event], rfl, by simp [ofKind, hkind], by simp [ofKind, hkind, hdetails]⟩
  exact htold.trans (noteStatus_notes h).recounts_nil

/-- Of the escalations a first part is carried out, and each of these is told of and asked for. -/
theorem escalateAll_tells {escalations : List Escalation} {w : Workflow}
    (h : (r.escalateAll step escalations j).Returns ids j' left) :
    ∃ told, told <+: escalations ∧ j.state.Recounts w told [] j'.state ∧
      j'.instructions.map (·.demand) =
        j.instructions.map (·.demand) ++ told.map (·.demand r.submission) ∧
      j'.updates = j.updates := by
  induction escalations generalizing j ids with
  | nil =>
    obtain ⟨rfl, -⟩ := Work.pure_returns_iff.mp h
    exact ⟨[], List.prefix_rfl, .nil_of_same rfl, by simp, rfl⟩
  | cons x rest ih =>
    unfold escalateAll at h
    split at h
    · simp only [escalationInstruction, Work.bind_returns_iff, Work.pure_returns_iff] at h
      obtain ⟨outcome, _, -, state, _, happlied, made, _, ⟨id, _, -, rfl, -⟩, h⟩ := h
      obtain ⟨told, hprefix, hrecounts, hdemands, hupdates⟩ := ih h
      have hx : j.state.Recounts w [x] [] state := applyOutcome_recounts happlied
      refine ⟨x :: told, List.cons_prefix_cons.mpr ⟨rfl, hprefix⟩, hx.trans hrecounts, ?_,
        hupdates⟩
      rw [hdemands, List.map_append, List.append_assoc]
      rfl
    · obtain ⟨rfl, -⟩ := Work.pure_returns_iff.mp h
      exact ⟨[], List.nil_prefix, .nil_of_same rfl, by simp, rfl⟩

theorem finish_accounts (h : (r.finish j' step).Returns ids t left)
    (passed : Journey.Passes r.workflow r.context j hops (hops.flatMap Hop.errands) j')
    (recounted : s.Recounts r.workflow told [] j.state)
    (demands : j.instructions.map (·.demand) = told.map (·.demand r.submission))
    (updates : j.updates = []) :
    t.Accounts r.workflow r.context r.submission s.history [] told hops := by
  obtain ⟨-, hinstructions, hupdates⟩ := finish_describes h
  obtain ⟨events, hevents, hrecount⟩ := recounted.trans passed.told
  rw [List.append_nil, List.nil_append] at hrecount
  refine ⟨⟨events, ?_, hrecount⟩, passed.answered, ?_, ?_⟩
  · rw [finish_returns h]
    exact hevents
  · rw [hinstructions, passed.demands, demands]
    rfl
  · rw [hupdates, passed.updates, updates]
    exact Updates.ofList_eq_mergeAll _

theorem perform_accounts {op : Operation} (h : (r.perform op).Returns ids t left)
    (onState : r.submission.state = some s) :
    ∃ told hops, told <+: op.escalations ∧
      t.Accounts r.workflow r.context r.submission s.history [] told hops := by
  have hsame : s.Recounts r.workflow [] [] s := .nil_of_same rfl
  cases op with
  | execute actionId =>
    simp only [perform, execute, Work.bind_returns_iff, Work.lift_returns_iff] at h
    obtain ⟨⟨state, step, action⟩, _, ⟨hresolved, rfl⟩, j, _, hfollowed, h⟩ := h
    obtain ⟨rfl, -, hstep, haction⟩ := resolve_eq_ok hresolved onState
    obtain ⟨hops, hpassed⟩ :=
      Journey.follow_passes hfollowed (Workflow.mem_of_step? hstep) haction
    exact ⟨[], hops, List.prefix_rfl, finish_accounts h hpassed hsame rfl rfl⟩
  | decide ballot =>
    simp only [perform, decide, Work.bind_returns_iff, Work.lift_returns_iff,
      requireState_of onState, Except.ok.injEq, Workflow.requireStep_eq_ok_iff] at h
    obtain ⟨state, _, ⟨rfl, -⟩, step, _, ⟨hstep, -⟩, _, _, -, _, _, -, outcome, _, -, next, _,
      happlied, j, _, hfollowed, h⟩ := h
    obtain ⟨hops, hpassed⟩ := followChain_passes hfollowed (Workflow.mem_of_step? hstep)
    have hdecided : s.Recounts r.workflow [] [] next :=
      (applyOutcome_decided happlied).recounts_nil (by simp) (by simp)
    exact ⟨[], hops, List.prefix_rfl, finish_accounts h hpassed hdecided rfl rfl⟩
  | terminate status reason =>
    simp only [perform, terminate, Work.bind_returns_iff, Work.lift_returns_iff,
      requireState_of onState] at h
    obtain ⟨status', _, -, h⟩ := h
    split at h
    · simp [Work.bind_returns_iff] at h
    · simp only [Work.bind_returns_iff, Work.lift_returns_iff, Except.ok.injEq] at h
      obtain ⟨state, _, ⟨rfl, -⟩, _, _, -, _, _, -, step, _, -, ended, _, hnoted, h⟩ := h
      have hended : s.Recounts r.workflow [] [] ended :=
        (note_notes hnoted).recounts_nil (by simp) (by simp)
      exact ⟨[], [], List.prefix_rfl,
        finish_accounts h (.of_state (.nil_of_same rfl) rfl rfl) hended rfl rfl⟩
  | escalate escalations =>
    simp only [perform, escalate, Work.bind_returns_iff, Work.lift_returns_iff,
      requireState_of onState, Except.ok.injEq, Workflow.requireStep_eq_ok_iff] at h
    obtain ⟨state, _, ⟨rfl, rfl⟩, _, _, ⟨-, rfl⟩, step, _, ⟨hstep, rfl⟩, j, _, hescalated, j', _,
      hfollowed, h⟩ := h
    obtain ⟨told, hprefix, hrecounts, hdemands, hupdates⟩ := escalateAll_tells hescalated
    obtain ⟨hops, hpassed⟩ := followChain_passes hfollowed (Workflow.mem_of_step? hstep)
    exact ⟨told, hops, hprefix, finish_accounts h hpassed hrecounts hdemands hupdates⟩

end WorkflowRequest

theorem Surroundings.start_accounts {e : Surroundings} {submission : Submission} {ids left : Ids}
    {t : Transition} (h : (e.start submission).Returns ids t left) :
    ∃ hops, t.Accounts e.workflow e.context submission [] [e.workflow.start.entering] [] hops := by
  simp only [start, Work.bind_returns_iff, Work.lift_returns_iff] at h
  obtain ⟨noted, _, hnoted, j, _, hentered, htransition, -⟩ := h
  have hstart := Workflow.mem_of_step? e.workflow.step?_start
  obtain ⟨hops, hpassed⟩ := Journey.enter_passes hentered hstart
  have hnoted : ({ step := e.workflow.start.id, status := .submitted } :
      SubmissionState).Recounts e.workflow [] [] noted :=
    (SubmissionState.note_notes hnoted).recounts_nil (by simp) (by simp)
  obtain ⟨events, hevents, hrecount⟩ := hnoted.trans hpassed.told
  obtain ⟨-, hinstructions, hupdates⟩ := Journey.transition_describes htransition
  refine ⟨hops, ⟨events, ?_, hrecount⟩, hpassed.answered, ?_, ?_⟩
  · rw [Journey.transition_eq_ok htransition]
    exact hevents
  · rw [hinstructions, hpassed.demands]
    simp
  · rw [hupdates, hpassed.updates]
    exact Updates.ofList_eq_mergeAll _

namespace Workflow

variable {w : Workflow} {c : Context} {s : Submission} {call : Option Operation}
  {before : List HistoryEvent} {t : Transition}

/-- A call that succeeds on a submission with the history: a start, which is no operation, or an
operation on the state in which the submission is. -/
inductive Serves (w : Workflow) (c : Context) (s : Submission) :
    Option Operation → List HistoryEvent → Transition → Prop
  | started {e : Surroundings} {ids left : Ids} {t : Transition} (inWorkflow : e.workflow = w)
      (inContext : e.context = c) (returned : (e.start s).Returns ids t left) :
      Serves w c s none [] t
  | performed {r : WorkflowRequest} {op : Operation} {state : SubmissionState} {ids left : Ids}
      {t : Transition} (inWorkflow : r.workflow = w) (inContext : r.context = c)
      (onSubmission : r.submission = s) (onState : s.state = some state)
      (returned : (r.perform op).Returns ids t left) : Serves w c s (some op) state.history t

/-- The errands with which a call begins. -/
def opening (w : Workflow) : Option Operation → List Errand
  | none => [w.start.entering]
  | some _ => []

/-- The effects of a call match the hops and the escalations that it adds to the history: what it
asks for is asked for by the errand of the first step at a start, then by its escalations, each of
which is one of those that were handed in, and then by the errands along its hops, with nothing left
out, repeated or out of order; and what it sets is what these errands set, of which the last counts.
-/
theorem Serves.effects_match_hops (served : w.Serves c s call before t) :
    ∃ told hops, told <+: (call.map (·.escalations)).getD [] ∧
      t.Accounts w c s before (w.opening call) told hops := by
  cases served with
  | started inWorkflow inContext returned =>
    subst inWorkflow inContext
    obtain ⟨hops, haccounts⟩ := Surroundings.start_accounts returned
    exact ⟨[], hops, List.prefix_rfl, haccounts⟩
  | performed inWorkflow inContext onSubmission onState returned =>
    subst inWorkflow inContext onSubmission
    exact WorkflowRequest.perform_accounts returned onState

end Workflow

/-! A loan that Ann has to sign at once; else it goes back to a desk where nobody is asked, and from
there into the archive. -/
namespace Loan

open Release (submission noon)

def notice (recipient : String) : Action :=
  ⟨none, .notify { recipients := [recipient], template := none, subject := none, message := none,
                   channel := "email" }⟩

def stage (name : String) : Action := ⟨none, .setField "stage" (.text name)⟩

def sign : Step :=
  { Release.review with
    id := "sign",
    actions := [{ Release.action with id := "return", target := "desk",
                                      autoActions := [stage "returned"] }],
    approval := some { levels := [{ approvers := ["ann"], escalateAfter := some 0.0,
                                    policy := some .autoReject }] },
    onExit := [notice "ann"], onApproved := none, onRejected := some "return" }

def desk : Step :=
  { Release.review with
    id := "desk", actions := [{ Release.action with id := "file", target := "archive" }],
    approval := some { enabled := false }, onEnter := [stage "desk"], onApproved := some "file" }

def archive : Step := { Release.work with id := "archive", onEnter := [notice "clerk"] }

def workflow : Workflow where
  steps := [sign, desk, archive]
  startId := some "sign"
  sound := by decide

def surroundings : Surroundings := ⟨workflow, .ofNow noon, {}, none⟩

def request (s : SubmissionState) : WorkflowRequest :=
  { submission := submission (some s), workflow := workflow, context := .ofNow noon }

/-- The state in which Ann is asked, what is overdue, and the transition that it makes. -/
def escalated : Option (SubmissionState × List Escalation × Transition) := do
  let started ← (surroundings.start (submission none)).answer? {}
  let due ← (started.state.chain.escalations {} (.ofInstant noon)).toOption
  let t ← ((request started.state).perform (.escalate due)).answer? {}
  pure (started.state, due, t)

def text? : Value → Option String
  | .text s => some s
  | _ => none

theorem escalated_eq : escalated.map (fun (_, due, t) => (due.length, t.instructions.map (·.source),
      (t.updates.get? "stage" "value").bind text?)) =
    some (1, ["approval:APR-000000000001", "step:sign", "step:archive"], some "desk") := by
  decide +kernel

end Loan

namespace Workflow

/-- The loan passes the desk on its way into the archive. -/
theorem Serves.effects_match_hops_loan : ∃ s due t told hops,
    Loan.workflow.Serves (.ofNow Release.noon) (Release.submission (some s))
      (some (.escalate due)) s.history t ∧
    told <+: due ∧
    t.Accounts Loan.workflow (.ofNow Release.noon) (Release.submission (some s)) s.history []
      told hops ∧
    t.instructions.map (·.source) =
      ["approval:APR-000000000001", "step:sign", "step:archive"] ∧
    (t.updates.get? "stage" "value").bind Loan.text? = some "desk" := by
  obtain ⟨⟨s, due, t⟩, hescalated, hparts⟩ := Option.map_eq_some_iff.mp Loan.escalated_eq
  simp only [Loan.escalated, Option.bind_eq_bind, Option.bind_eq_some_iff, Option.pure_def,
    Option.some.injEq, Prod.mk.injEq] at hescalated
  obtain ⟨started, -, due, -, t, hreturned, rfl, rfl, rfl⟩ := hescalated
  obtain ⟨_, hreturned⟩ := Work.answer?_eq_some hreturned
  simp only [Prod.mk.injEq] at hparts
  have served : Loan.workflow.Serves (.ofNow Release.noon)
      (Release.submission (some started.state)) (some (.escalate due)) started.state.history t :=
    .performed rfl rfl rfl rfl hreturned
  obtain ⟨told, hops, hprefix, haccounts⟩ := Serves.effects_match_hops served
  exact ⟨started.state, due, t, told, hops, served, hprefix, haccounts, hparts.2⟩

end Workflow
end Formwork
