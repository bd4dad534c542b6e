import Formwork.Proofs.Renaming.Chains
import Formwork.Proofs.Workflow.Journey
/-!
# Journeys under other names

On its way a submission is noted events, given records and asked for by instructions, each under a
fresh name; which way it takes depends on none of them.
-/
namespace Formwork

open Document Calendar

variable {ρ : Renaming}

/-! ## History -/

namespace SubmissionState

theorem note_renamed (s : SubmissionState) (kind : EventKind) (time : Stamp)
    (actor step : Option String) {details details' : Entries Value}
    (h : details.rename ρ.map = details') :
    Work.Renamed ρ (rename ρ.map) (s.note kind time actor step details)
      ((s.rename ρ.map).note kind time actor step details') := by
  subst h
  refine Work.bind_renamed (Work.fresh_renamed .event) fun id => Work.pure_renamed ?_
  simp [rename, add, HistoryEvent.rename]

theorem noteStatus_renamed (s : SubmissionState) (previous : Status) (time : Stamp)
    (actor : Option String) :
    Work.Renamed ρ (rename ρ.map) (s.noteStatus previous time actor)
      ((s.rename ρ.map).noteStatus previous time actor) :=
  Work.ite_renamed (fun _ => Work.pure_renamed rfl) fun _ =>
    note_renamed s _ _ _ _ rfl

theorem rename_skipOpen (f : String → String) (s : SubmissionState) :
    (s.rename f).skipOpen = s.skipOpen.rename f := by
  refine congrArg (fun c => { s.rename f with chain := c }) (Chain.rename_map (fun r => ?_) s.chain)
  rw [apply_ite (ApprovalRecord.rename f)]
  rfl

end SubmissionState

/-! ## Instructions -/

theorem Entries.rename_withSubmission (f : String → String) (payload : Entries Value)
    (c : Context) :
    (Action.withSubmission payload c).rename f = Action.withSubmission (payload.rename f) c := by
  unfold Action.withSubmission
  cases c.submission.id with
  | none => rfl
  | some id => rw [rename_insert, if_neg (by simp [recordKey])]

theorem Action.request_rename (f : String → String) {a : Action} {c : Context}
    {kind : InstructionKind} {payload : Entries Value}
    (h : a.request c = .ok (some (kind, payload))) : payload.rename f = payload := by
  unfold request at h
  cases hdeed : a.deed with
  | notify n =>
    simp only [hdeed, Notice.payload, Work.except_bind_eq_ok_iff, pure, Except.pure,
      Except.ok.injEq, Option.some.injEq, Prod.mk.injEq] at h
    obtain ⟨_, ⟨recipients, -, subject, -, message, -, rfl⟩, -, rfl⟩ := h
    rfl
  | callWebhook w =>
    simp only [hdeed, WebCall.payloadFor, Work.except_bind_eq_ok_iff, pure, Except.pure,
      Except.ok.injEq, Option.some.injEq, Prod.mk.injEq] at h
    obtain ⟨_, ⟨url, -, headers, -, body, -, rfl⟩, -, rfl⟩ := h
    rfl
  | createTask t =>
    simp only [hdeed, Task.payload, Work.except_bind_eq_ok_iff, pure, Except.pure,
      Except.ok.injEq, Option.some.injEq, Prod.mk.injEq] at h
    obtain ⟨_, ⟨title, -, description, -, assignee, -, due, -, rfl⟩, -, rfl⟩ := h
    rfl
  | setField _ _ | assign _ | changeStatus _ | escalate _ =>
    simp [hdeed] at h

theorem Action.instruction_renamed (a : Action) {source : String} (c : Context)
    (h : Instruction.renameSource ρ.map source = source) :
    Work.Renamed ρ (Option.map (·.rename ρ.map)) (a.instruction source c)
      (a.instruction source c) := by
  unfold instruction
  cases hrequest : a.request c with
  | error f => exact Work.throw_renamed rfl
  | ok asked =>
    rw [Work.lift_ok_bind]
    cases asked with
    | none => exact Work.pure_renamed rfl
    | some request =>
      obtain ⟨kind, payload⟩ := request
      refine Work.bind_renamed (Work.fresh_renamed .instruction) fun id => Work.pure_renamed ?_
      simp [Instruction.rename, h, Entries.rename_withSubmission, request_rename _ hrequest]

/-! ## Steps -/

namespace Journey

theorem perform_renamed {source : String} (context : Context)
    (h : Instruction.renameSource ρ.map source = source) (actions : List Action) (j : Journey) :
    Work.Renamed ρ (rename ρ.map) (perform source context actions j)
      (perform source context actions (j.rename ρ.map)) := by
  induction actions generalizing j with
  | nil => exact Work.pure_renamed rfl
  | cons a rest ih =>
    refine Work.lift_bind_renamed fun update => ?_
    cases update with
    | some u => exact ih _
    | none =>
      refine Work.bind_renamed (a.instruction_renamed context h) fun made => ?_
      have hmade : { j.rename ρ.map with
            instructions := (j.rename ρ.map).instructions ++
              (made.map (·.rename ρ.map)).toList } =
          rename ρ.map { j with instructions := j.instructions ++ made.toList } := by
        cases made <;> simp [rename]
      rw [hmade]
      exact ih _

theorem noteStatus_renamed (j : Journey) (previous : Status) (time : Stamp)
    (actor : Option String) :
    Work.Renamed ρ (rename ρ.map) (j.noteStatus previous time actor)
      ((j.rename ρ.map).noteStatus previous time actor) :=
  Work.bind_renamed (j.state.noteStatus_renamed previous time actor) fun _ =>
    Work.pure_renamed rfl

theorem startRound_renamed (j : Journey) (records : Chain) (step : Step) (time : Stamp)
    (actor : Option String) :
    Work.Renamed ρ (rename ρ.map) (j.startRound records step time actor)
      ((j.rename ρ.map).startRound (records.rename ρ.map) step time actor) := by
  have hchain : (j.rename ρ.map).state.chain ++ records.rename ρ.map =
      Chain.rename ρ.map (j.state.chain ++ records) := (Chain.rename_append _ _).symm
  have hnew : (j.rename ρ.map).chain ++ records.rename ρ.map =
      Chain.rename ρ.map (j.chain ++ records) := (Chain.rename_append _ _).symm
  have hlength : (records.rename ρ.map).length = records.length := List.length_map _
  unfold startRound
  rw [hchain, hnew, hlength]
  refine Work.bind_renamed (SubmissionState.note_renamed { j.state with
    chain := j.state.chain ++ records, round := j.state.round + 1,
    status := .pendingApproval } _ _ _ _ ?_) fun _ => Work.pure_renamed rfl
  rfl

theorem assign_renamed (j : Journey) (e : Surroundings) (step : Step) (rule : AssignmentRule)
    (actor : Option String) :
    Work.Renamed ρ (rename ρ.map) (j.assign e step rule actor)
      ((j.rename ρ.map).assign e step rule actor) := by
  refine Work.lift_bind_renamed fun chosen => ?_
  dsimp only
  cases chosen.assignee with
  | none => exact Work.pure_renamed rfl
  | some c =>
    exact Work.bind_renamed (j.state.note_renamed _ _ _ _ rfl) fun _ => Work.pure_renamed rfl

theorem assignOnEntry_renamed (j : Journey) (e : Surroundings) (step : Step) (autoAssign : Bool)
    (actor : Option String) :
    Work.Renamed ρ (rename ρ.map) (j.assignOnEntry e step autoAssign actor)
      ((j.rename ρ.map).assignOnEntry e step autoAssign actor) := by
  unfold assignOnEntry
  cases step.assignment with
  | none => exact Work.pure_renamed rfl
  | some rule =>
    exact Work.ite_renamed (fun _ => j.assign_renamed e step rule actor) fun _ =>
      Work.pure_renamed rfl

theorem leave_renamed (j : Journey) (e : Surroundings) (step : Step) (action : StepAction)
    (actor comments : Option String) :
    Work.Renamed ρ (Prod.map id (rename ρ.map)) (j.leave e step action actor comments)
      ((j.rename ρ.map).leave e step action actor comments) := by
  refine Work.lift_bind_renamed fun target => ?_
  refine Work.bind_renamed (perform_renamed _ (Instruction.renameSource_step _) _ j) fun j => ?_
  refine Work.bind_renamed (perform_renamed _ (Instruction.renameSource_action _) _ j) fun j => ?_
  rw [show (j.rename ρ.map).state = j.state.rename ρ.map from rfl,
    SubmissionState.rename_skipOpen]
  refine Work.bind_renamed (SubmissionState.note_renamed { j.state.skipOpen with step := target.id }
    _ _ _ _ rfl) fun _ => Work.pure_renamed rfl

theorem asked_renamed (j : Journey) (e : Surroundings) (step : Step) :
    Work.Renamed ρ (Chain.rename ρ.map) (j.asked e step) ((j.rename ρ.map).asked e step) :=
  Work.ite_renamed
    (fun _ => Work.lift_bind_renamed fun config => config.startChain_renamed)
    fun _ => Work.pure_renamed rfl

theorem settle_renamed (j : Journey) (e : Surroundings) (step : Step) (actor : Option String)
    (records : Chain) :
    Work.Renamed ρ (Prod.map (rename ρ.map) id) (j.settle e step actor records)
      ((j.rename ρ.map).settle e step actor (records.rename ρ.map)) := by
  unfold settle
  rw [show (records.rename ρ.map).isEmpty = records.isEmpty from List.isEmpty_map]
  refine Work.ite_renamed (fun _ => ?_) fun _ => ?_
  · exact Work.bind_renamed (noteStatus_renamed (j.withStatus (restingStatus step)) _ _ _)
      fun _ => Work.pure_renamed rfl
  · refine Work.bind_renamed (j.startRound_renamed records step e.time actor) fun started => ?_
    exact Work.bind_renamed (started.noteStatus_renamed _ _ _) fun _ => Work.pure_renamed rfl

theorem arrive_renamed (j : Journey) (e : Surroundings) (step : Step) (actor : Option String) :
    Work.Renamed ρ (Prod.map (rename ρ.map) id) (j.arrive e step actor)
      ((j.rename ρ.map).arrive e step actor) := by
  rw [arrive_eq, arrive_eq]
  exact Work.bind_renamed (j.asked_renamed e step) (j.settle_renamed e step actor)

theorem goOn_renamed {e : Surroundings} {moves : Nat}
    (entered : ∀ fewer < moves, ∀ step actor autoAssign j,
      Work.Renamed ρ (rename ρ.map) (enter e fewer step actor autoAssign j)
        (enter e fewer step actor autoAssign (j.rename ρ.map)))
    (step : Step) (actor : Option String) (autoAssign : Bool) (j : Journey)
    (next : Option StepAction) :
    Work.Renamed ρ (rename ρ.map) (j.goOn e moves step actor autoAssign next)
      ((j.rename ρ.map).goOn e moves step actor autoAssign next) := by
  cases next with
  | none => exact j.assignOnEntry_renamed e step autoAssign actor
  | some action =>
    cases moves with
    | zero => exact Work.throw_renamed rfl
    | succ fewer =>
      refine Work.bind_renamed (j.leave_renamed e step action (some system) none) fun left => ?_
      exact entered fewer (Nat.lt_succ_self fewer) left.1 (some system) action.autoAssign left.2

theorem enter_renamed (e : Surroundings) (moves : Nat) (step : Step) (actor : Option String)
    (autoAssign : Bool) (j : Journey) :
    Work.Renamed ρ (rename ρ.map) (enter e moves step actor autoAssign j)
      (enter e moves step actor autoAssign (j.rename ρ.map)) := by
  induction moves using Nat.strongRecOn generalizing step actor autoAssign j with
  | _ moves ih =>
    rw [enter_eq, enter_eq]
    refine Work.bind_renamed (perform_renamed _ (Instruction.renameSource_step _) _ j) fun j => ?_
    refine Work.bind_renamed (j.arrive_renamed e step actor) fun arrived => ?_
    exact goOn_renamed ih step actor autoAssign arrived.1 arrived.2

theorem follow_renamed (j : Journey) (e : Surroundings) (moves : Nat) (step : Step)
    (action : StepAction) (actor comments : Option String) :
    Work.Renamed ρ (rename ρ.map) (j.follow e moves step action actor comments)
      ((j.rename ρ.map).follow e moves step action actor comments) :=
  Work.bind_renamed (j.leave_renamed e step action actor comments) fun left =>
    enter_renamed e moves left.1 actor action.autoAssign left.2

end Journey
end Formwork
