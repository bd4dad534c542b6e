import Mathlib.Tactic.Common
import Mathlib.Data.List.Nodup
import Formwork.Proofs.Work
import Formwork.Workflow.Request
/-!
# Where journeys lead

A journey ends at a step of its workflow, with the status of that step or awaiting approval there. It
leaves the version of the state alone: only the answer to a request counts it up.
-/
namespace Formwork

open Calendar

namespace Workflow

variable {w : Workflow} {id : String} {step : Step}

/-! ## The steps of a workflow -/

/-- The workflow has a step of the id. -/
def Has (w : Workflow) (id : String) : Prop := ∃ step, w.step? id = some step

theorem requireStep_eq_ok_iff : w.requireStep id = .ok step ↔ w.step? id = some step := by
  unfold requireStep
  cases w.step? id with
  | none => simp
  | some s => simp

theorem mem_of_step? (h : w.step? id = some step) : step ∈ w.steps := List.mem_of_find?_eq_some h

theorem step?_id (h : w.step? id = some step) : w.step? step.id = some step := by
  have hid : step.id = id := by simpa using List.find?_some h
  rw [hid]
  exact h

theorem nodup_stepIds (w : Workflow) : w.stepIds.Nodup := by
  have hsound := w.sound
  unfold StepGraph.flaw? at hsound
  split at hsound
  · simp at hsound
  · rename_i hnodup
    simpa using hnodup

theorem step?_of_mem (h : step ∈ w.steps) : w.step? step.id = some step := by
  have hsome : (w.step? step.id).isSome = true := by
    rw [StepGraph.step?, List.find?_isSome]
    exact ⟨step, h, by simp⟩
  obtain ⟨found, hfound⟩ := Option.isSome_iff_exists.mp hsome
  have hid : found.id = step.id := by simpa using List.find?_some hfound
  rw [hfound, List.inj_on_of_nodup_map w.nodup_stepIds (mem_of_step? hfound) h hid]

theorem step?_start (w : Workflow) : w.step? w.start.id = some w.start := by
  have hstart : w.start? = some w.start := by simp [start]
  unfold StepGraph.start? at hstart
  split at hstart
  · exact step?_id hstart
  · have hmem : w.start ∈ w.starts := List.mem_of_head? hstart
    exact step?_of_mem (List.mem_filter.mp hmem).1

theorem flaw?_of_mem (h : step ∈ w.steps) : step.flaw? = none := by
  have hsound := w.sound
  unfold StepGraph.flaw? at hsound
  split at hsound
  · simp at hsound
  · simp only [Option.or_eq_none_iff] at hsound
    have hnone := List.findSome?_eq_none_iff.mp hsound.2 step h
    cases hflaw : step.flaw? with
    | none => rfl
    | some flaw => simp [hflaw] at hnone

theorem activeStatus_not_final (h : step ∈ w.steps) : step.activeStatus.isFinal = false := by
  have hflaw := flaw?_of_mem h
  unfold Step.flaw? at hflaw
  split at hflaw
  · simp at hflaw
  · split at hflaw
    · simp at hflaw
    · rename_i hactive
      simpa using hactive

theorem nodup_actionIds (h : step ∈ w.steps) : (step.actions.map (·.id)).Nodup := by
  have hflaw := flaw?_of_mem h
  unfold Step.flaw? at hflaw
  split at hflaw
  · simp at hflaw
  · split at hflaw
    · simp at hflaw
    · split at hflaw
      · simp at hflaw
      · rename_i hnodup
        simpa using hnodup

theorem no_strayFollowUp (h : step ∈ w.steps) :
    step.strayFollowUp? step.onApproved = none ∧ step.strayFollowUp? step.onRejected = none := by
  have hflaw := flaw?_of_mem h
  unfold Step.flaw? at hflaw
  split at hflaw
  · simp at hflaw
  · split at hflaw
    · simp at hflaw
    · split at hflaw
      · simp at hflaw
      · split at hflaw
        · simp at hflaw
        · simp at hflaw
        · simp at hflaw
        · simp at hflaw
        · rename_i happroved hrejected _ _
          exact ⟨happroved, hrejected⟩

theorem followUp?_of_named {named : Option String} {id : String}
    (hstray : step.strayFollowUp? named = none) (hnamed : named = some id) (hid : id ≠ "") :
    ∃ action, step.followUp? named = some action ∧ action.id = id := by
  subst hnamed
  have hfound : (step.action? id).isSome = true := by
    by_contra hnone
    simp [Step.strayFollowUp?, hid, hnone] at hstray
  obtain ⟨action, haction⟩ := Option.isSome_iff_exists.mp hfound
  have hsame : action.id = id := by simpa using List.find?_some haction
  exact ⟨action, by simp [Step.followUp?, Option.filter, hid, haction], hsame⟩

theorem action?_of_mem {action : StepAction} (h : step ∈ w.steps) (haction : action ∈ step.actions) :
    step.action? action.id = some action := by
  have hsome : (step.action? action.id).isSome = true := by
    rw [Step.action?, List.find?_isSome]
    exact ⟨action, haction, by simp⟩
  obtain ⟨found, hfound⟩ := Option.isSome_iff_exists.mp hsome
  have hid : found.id = action.id := by simpa using List.find?_some hfound
  rw [hfound, List.inj_on_of_nodup_map (nodup_actionIds h) (List.mem_of_find?_eq_some hfound)
    haction hid]

end Workflow

namespace SubmissionState

variable {w : Workflow} {s t u : SubmissionState} {ids left : Ids}

/-! ## What is noted of a state -/

/-- A state keeps its version, its step and its status. -/
structure Stays (s t : SubmissionState) : Prop where
  version : t.version = s.version
  step : t.step = s.step
  status : t.status = s.status

theorem Stays.refl (s : SubmissionState) : s.Stays s := ⟨rfl, rfl, rfl⟩

theorem note_returns {kind : EventKind} {time : Stamp} {actor step : Option String}
    {details : Entries Value} (h : (s.note kind time actor step details).Returns ids t left) :
    ∃ e, t = s.add e := by
  simp only [note, Work.bind_returns_iff, Work.pure_returns_iff] at h
  obtain ⟨id, _, -, he, -⟩ := h
  exact ⟨_, he.symm⟩

theorem noteStatus_returns {previous : Status} {time : Stamp} {actor : Option String}
    (h : (s.noteStatus previous time actor).Returns ids t left) :
    t = { s with history := t.history } := by
  unfold noteStatus noteChange at h
  split at h
  · simp only [Work.pure_returns_iff] at h
    rw [← h.1]
  · obtain ⟨e, he⟩ := note_returns h
    rw [he]
    rfl

/-! ## States of a workflow -/

/-- A state keeps its version, and its place in a workflow. -/
structure Leads (w : Workflow) (s t : SubmissionState) : Prop where
  version : t.version = s.version
  has : w.Has s.step → w.Has t.step

theorem Leads.refl (w : Workflow) (s : SubmissionState) : s.Leads w s := ⟨rfl, id⟩

theorem Leads.trans (h : s.Leads w t) (h' : t.Leads w u) : s.Leads w u where
  version := h'.version.trans h.version
  has hs := h'.has (h.has hs)

theorem Leads.of_step (hv : t.version = s.version) (hs : t.step = s.step) : s.Leads w t where
  version := hv
  has h := by
    rw [hs]
    exact h

/-- A state has the status of its step, or awaits approval there. -/
def Rests (w : Workflow) (s : SubmissionState) : Prop :=
  ∃ step, w.step? s.step = some step ∧
    (s.status = Journey.restingStatus step ∨ s.status = .pendingApproval)

theorem Rests.has (h : s.Rests w) : w.Has s.step := by
  obtain ⟨step, hstep, -⟩ := h
  exact ⟨step, hstep⟩

theorem Rests.finish (h : s.Rests w) (final : s.status.isFinal = true) :
    ∃ step, w.step? s.step = some step ∧ step.kind = .finish := by
  obtain ⟨step, hstep, hstatus⟩ := h
  refine ⟨step, hstep, ?_⟩
  have hactive := Workflow.activeStatus_not_final (Workflow.mem_of_step? hstep)
  rcases hstatus with hstatus | hstatus
  · rw [hstatus] at final
    cases hkind : step.kind with
    | finish => rfl
    | start =>
      simp only [Journey.restingStatus, hkind] at final
      cases final
    | task => simp [Journey.restingStatus, hkind, hactive] at final
    | approval => simp [Journey.restingStatus, hkind, hactive] at final
  · rw [hstatus] at final
    cases final

end SubmissionState

namespace Journey

variable {e : Surroundings} {j j' : Journey} {step target : Step} {action : StepAction}
  {next : Option StepAction} {actor comments : Option String} {ids left : Ids}

open SubmissionState

/-! ## The parts of a journey -/

theorem perform_same {source : String} {context : Context} {actions : List Action}
    (h : (j.perform source context actions).Returns ids j' left) :
    j' = { j with instructions := j'.instructions, updates := j'.updates } := by
  induction actions generalizing j ids with
  | nil =>
    simp only [perform, Work.pure_returns_iff] at h
    rw [← h.1]
  | cons a rest ih =>
    simp only [perform, Work.bind_returns_iff, Work.lift_returns_iff] at h
    obtain ⟨update, _, -, h⟩ := h
    split at h
    · have hrest := ih h
      exact hrest
    · rw [Work.bind_returns_iff] at h
      obtain ⟨made, _, -, h⟩ := h
      have hrest := ih h
      exact hrest

theorem perform_returns {source : String} {context : Context} {actions : List Action}
    (h : (j.perform source context actions).Returns ids j' left) : j'.state = j.state := by
  rw [perform_same h]

theorem noteStatus_stays {previous : Status} {time : Stamp}
    (h : (j.noteStatus previous time actor).Returns ids j' left) : j.state.Stays j'.state := by
  simp only [noteStatus, Work.bind_returns_iff, Work.pure_returns_iff] at h
  obtain ⟨state, _, hnoted, rfl, -⟩ := h
  have he := noteStatus_returns hnoted
  rw [he]
  exact ⟨rfl, rfl, rfl⟩

theorem startRound_returns {records : Chain} {time : Stamp}
    (h : (j.startRound records step time actor).Returns ids j' left) :
    j'.state.version = j.state.version ∧ j'.state.step = j.state.step ∧
      j'.state.status = .pendingApproval := by
  simp only [startRound, Work.bind_returns_iff, Work.pure_returns_iff] at h
  obtain ⟨state, _, hnoted, rfl, -⟩ := h
  obtain ⟨event, he⟩ := note_returns hnoted
  rw [he]
  exact ⟨rfl, rfl, rfl⟩

theorem assign_stays {rule : AssignmentRule}
    (h : (j.assign e step rule actor).Returns ids j' left) : j.state.Stays j'.state := by
  unfold assign at h
  obtain ⟨chosen, _, -, h⟩ := Work.bind_returns_iff.mp h
  split at h
  · simp only [Work.pure_returns_iff] at h
    rw [← h.1]
    exact ⟨rfl, rfl, rfl⟩
  · simp only [Work.bind_returns_iff, Work.pure_returns_iff] at h
    obtain ⟨state, _, hnoted, rfl, -⟩ := h
    obtain ⟨event, he⟩ := note_returns hnoted
    rw [he]
    exact ⟨rfl, rfl, rfl⟩

theorem assignOnEntry_stays {autoAssign : Bool}
    (h : (j.assignOnEntry e step autoAssign actor).Returns ids j' left) :
    j.state.Stays j'.state := by
  unfold assignOnEntry at h
  split at h
  · simp only [Work.pure_returns_iff] at h
    rw [← h.1]
    exact .refl j.state
  · split at h
    · exact assign_stays h
    · simp only [Work.pure_returns_iff] at h
      rw [← h.1]
      exact .refl j.state

/-- The records that a step asks for. -/
def asked (j : Journey) (e : Surroundings) (step : Step) : Work Chain :=
  if step.kind = .approval then do
    let config ← Work.lift (e.approvalConfig step)
    config.startChain e.context (j.state.round + 1)
  else pure []

/-- Rest at a step that asks nobody, or start the round of those who are asked. -/
def settle (j : Journey) (e : Surroundings) (step : Step) (actor : Option String)
    (records : Chain) : Work (Journey × Option StepAction) := do
  if records.isEmpty then
    let rested ← (j.withStatus (restingStatus step)).noteStatus j.state.status e.time actor
    pure (rested, if step.kind = .approval then step.followUp? step.onApproved else none)
  else
    let started ← j.startRound records step e.time actor
    pure (← started.noteStatus j.state.status e.time actor, none)

theorem arrive_eq (j : Journey) (e : Surroundings) (step : Step) (actor : Option String) :
    j.arrive e step actor = j.asked e step >>= j.settle e step actor := by
  have hsettle : j.settle e step actor = fun records => j.settle e step actor records := rfl
  rw [hsettle]
  by_cases hk : step.kind = .approval
  · simp only [arrive, asked, settle, hk, ↓reduceIte, bind_assoc]
  · simp only [arrive, asked, settle, hk, ↓reduceIte]

theorem arrive_returns (h : (j.arrive e step actor).Returns ids (j', next) left) :
    j'.state.version = j.state.version ∧ j'.state.step = j.state.step ∧
      (j'.state.status = restingStatus step ∨ j'.state.status = .pendingApproval) := by
  rw [arrive_eq, Work.bind_returns_iff] at h
  obtain ⟨records, _, -, h⟩ := h
  unfold settle at h
  split at h
  · simp only [Work.bind_returns_iff, Work.pure_returns_iff, Prod.mk.injEq] at h
    obtain ⟨rested, _, hnoted, ⟨rfl, -⟩, -⟩ := h
    have hstays := noteStatus_stays hnoted
    exact ⟨hstays.version, hstays.step, .inl hstays.status⟩
  · simp only [Work.bind_returns_iff, Work.pure_returns_iff, Prod.mk.injEq] at h
    obtain ⟨started, _, hstarted, noted, _, hnoted, ⟨rfl, -⟩, -⟩ := h
    obtain ⟨hversion, hstep, hstatus⟩ := startRound_returns hstarted
    have hstays := noteStatus_stays hnoted
    exact ⟨hstays.version.trans hversion, hstays.step.trans hstep,
      .inr (hstays.status.trans hstatus)⟩

theorem leave_returns (h : (j.leave e step action actor comments).Returns ids (target, j') left) :
    e.workflow.step? target.id = some target ∧ j'.state.step = target.id ∧
      j'.state.version = j.state.version := by
  simp only [leave, Work.bind_returns_iff, Work.lift_returns_iff, Work.pure_returns_iff,
    Prod.mk.injEq] at h
  obtain ⟨target', _, ⟨htarget, -⟩, j₁, _, hexit, j₂, _, hauto, state, _, hnoted, ⟨rfl, rfl⟩, -⟩ := h
  obtain ⟨event, he⟩ := note_returns hnoted
  refine ⟨Workflow.step?_id (Workflow.requireStep_eq_ok_iff.mp htarget), ?_, ?_⟩
  · rw [he]
    rfl
  · rw [he, ← perform_returns hexit, ← perform_returns hauto]
    rfl

/-! ## Whole journeys -/

/-- The refusal of a way that goes round. -/
def goesRound (step : Step) : Failure :=
  .refuse .configuration "Skipped approval chains loop through follow-up actions"
    [("step_id", .text step.id)]

/-- What is left of entering a step once the submission has arrived there. -/
def goOn (e : Surroundings) (moves : Nat) (step : Step) (actor : Option String)
    (autoAssign : Bool) (j : Journey) : Option StepAction → Work Journey
  | none => j.assignOnEntry e step autoAssign actor
  | some action =>
    match moves with
    | 0 => throw (goesRound step)
    | moves + 1 => do
      let (target, j) ← j.leave e step action (some system) none
      enter e moves target (some system) action.autoAssign j

theorem enter_eq (e : Surroundings) (moves : Nat) (step : Step) (actor : Option String)
    (autoAssign : Bool) (j : Journey) :
    enter e moves step actor autoAssign j = (do
      let j ← j.perform s!"step:{step.id}" e.context step.onEnter
      let (j, next) ← j.arrive e step actor
      j.goOn e moves step actor autoAssign next) := by
  cases moves with
  | zero =>
    unfold enter
    refine bind_congr fun _ => bind_congr fun ⟨_, next⟩ => ?_
    cases next <;> rfl
  | succ moves =>
    unfold enter
    refine bind_congr fun _ => bind_congr fun ⟨_, next⟩ => ?_
    cases next <;> rfl

/-- What is entered is arrived at; then the submission stays, or a move is spent on leaving. -/
theorem enter_cases {moves : Nat} {autoAssign : Bool}
    (h : (enter e moves step actor autoAssign j).Returns ids j' left) :
    ∃ j₁ j₂ next ids₁ ids₂,
      (j.perform s!"step:{step.id}" e.context step.onEnter).Returns ids j₁ ids₁ ∧
      (j₁.arrive e step actor).Returns ids₁ (j₂, next) ids₂ ∧
      ((next = none ∧ (j₂.assignOnEntry e step autoAssign actor).Returns ids₂ j' left) ∨
        ∃ action target j₃ ids₃ fewer, next = some action ∧ moves = fewer + 1 ∧
          (j₂.leave e step action (some system) none).Returns ids₂ (target, j₃) ids₃ ∧
          (enter e fewer target (some system) action.autoAssign j₃).Returns ids₃ j' left) := by
  rw [enter_eq] at h
  simp only [Work.bind_returns_iff] at h
  obtain ⟨j₁, ids₁, hperformed, ⟨j₂, next⟩, ids₂, harrived, h⟩ := h
  refine ⟨j₁, j₂, next, ids₁, ids₂, hperformed, harrived, ?_⟩
  cases next with
  | none => exact .inl ⟨rfl, h⟩
  | some action =>
    cases moves with
    | zero => simp [goOn] at h
    | succ fewer =>
      simp only [goOn, Work.bind_returns_iff] at h
      obtain ⟨⟨target, j₃⟩, ids₃, hleft, hentered⟩ := h
      exact .inr ⟨action, target, j₃, ids₃, fewer, rfl, rfl, hleft, hentered⟩

theorem enter_returns {moves : Nat} {autoAssign : Bool}
    (h : (enter e moves step actor autoAssign j).Returns ids j' left)
    (onStep : e.workflow.step? step.id = some step) (here : j.state.step = step.id) :
    j'.state.version = j.state.version ∧ j'.state.Rests e.workflow := by
  induction moves using Nat.strongRecOn generalizing step actor autoAssign j ids with
  | ind moves ih =>
    obtain ⟨j₁, j₂, next, _, _, hperformed, harrived, hgone⟩ := enter_cases h
    obtain ⟨hversion, hstep, hstatus⟩ := arrive_returns harrived
    rw [perform_returns hperformed] at hversion hstep
    rcases hgone with ⟨-, hassigned⟩ | ⟨action, target, j₃, _, fewer, -, rfl, hleft, hentered⟩
    · have hstays := assignOnEntry_stays hassigned
      refine ⟨hstays.version.trans hversion, step, ?_, ?_⟩
      · rw [hstays.step, hstep, here]
        exact onStep
      · rw [hstays.status]
        exact hstatus
    · obtain ⟨htarget, hthere, hversion'⟩ := leave_returns hleft
      obtain ⟨hlater, hend⟩ := ih fewer (Nat.lt_succ_self fewer) hentered htarget hthere
      exact ⟨hlater.trans (hversion'.trans hversion), hend⟩

theorem follow_returns {moves : Nat}
    (h : (j.follow e moves step action actor comments).Returns ids j' left) :
    j'.state.version = j.state.version ∧ j'.state.Rests e.workflow := by
  simp only [follow, Work.bind_returns_iff] at h
  obtain ⟨⟨target, j₁⟩, _, hleft, h⟩ := h
  obtain ⟨htarget, hthere, hversion⟩ := leave_returns hleft
  obtain ⟨hlater, hend⟩ := enter_returns h htarget hthere
  exact ⟨hlater.trans hversion, hend⟩

theorem follow_leads {moves : Nat}
    (h : (j.follow e moves step action actor comments).Returns ids j' left) :
    j.state.Leads e.workflow j'.state where
  version := (follow_returns h).1
  has _ := (follow_returns h).2.has

theorem transition_eq_ok {t : Transition} {previous : Option String}
    (h : j.transition e previous = .ok t) : t.state = j.state := by
  unfold transition at h
  rw [Work.except_bind_eq_ok_iff] at h
  obtain ⟨step, -, h⟩ := h
  simp only [pure, Except.pure, Except.ok.injEq] at h
  rw [← h]

theorem transition_of_has (h : e.workflow.Has j.state.step) (previous : Option String) :
    ∃ t, j.transition e previous = .ok t ∧ t.state = j.state := by
  obtain ⟨step, hstep⟩ := h
  have hreturned : ∃ t, j.transition e previous = .ok t := by
    unfold transition
    rw [Workflow.requireStep_eq_ok_iff.mpr hstep]
    exact ⟨_, rfl⟩
  obtain ⟨t, ht⟩ := hreturned
  exact ⟨t, ht, transition_eq_ok ht⟩

end Journey
end Formwork
