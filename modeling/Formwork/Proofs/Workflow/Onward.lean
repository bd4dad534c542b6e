import Formwork.Proofs.Workflow.Replay
import Formwork.Proofs.Workflow.Walk
/-!
# How a submission moves on

A step that is entered keeps the submission, or passes it on where the walk from there leads. Each
move is counted down, so with enough moves a walk that comes to rest is gone to its end, and one
that never does uses them all up.
-/
namespace Formwork

open Calendar Document Work

/-! ## How many actions were executed -/

namespace SubmissionState

variable {s t : SubmissionState}

/-- How many moves from step to step the history tells of. -/
def moved (s : SubmissionState) : Nat := (HistoryEvent.moves s.history).length

theorem Notes.moved {kind : EventKind} {details : Entries Value} (h : s.Notes kind details t) :
    t.moved = s.moved + if kind = .actionExecuted then 1 else 0 := by
  obtain ⟨event, rfl, -, rfl⟩ := h
  unfold SubmissionState.moved HistoryEvent.moves
  rw [add, HistoryEvent.changes_append, List.length_append]
  by_cases hkind : event.kind = .actionExecuted <;> simp [HistoryEvent.changes, hkind]

theorem NotesChange.moved {previous : Status} (h : s.NotesChange previous t) :
    t.moved = s.moved := by
  rcases h with ⟨-, rfl⟩ | ⟨-, hnoted⟩
  · rfl
  · exact hnoted.moved

theorem Rested.moved {step : Step} (h : s.Rested step t) : t.moved = s.moved := by
  unfold Rested at h
  rw [h.moved]
  rfl

theorem Started.moved {records : Chain} (h : s.Started records t) : t.moved = s.moved := by
  obtain ⟨u, hnoted, hchange⟩ := h
  rw [hchange.moved, hnoted.moved]
  rfl

theorem Assigned.moved (h : s.Assigned t) : t.moved = s.moved := by
  obtain ⟨assignee, rfl | ⟨details, hnoted⟩⟩ := h
  · rfl
  · exact hnoted.moved

theorem Left.moved {step target : Step} {action : StepAction} (h : s.Left step action target t) :
    t.moved = s.moved + 1 := by
  obtain ⟨comments, hnoted⟩ := h
  exact hnoted.moved

theorem Decided.moved {outcome : ApprovalOutcome} {kind : EventKind} (h : s.Decided outcome kind t)
    (hkind : kind ≠ .actionExecuted) : t.moved = s.moved := by
  obtain ⟨details, u, hnoted, hchange⟩ := h
  rw [hchange.moved, hnoted.moved, if_neg hkind]
  rfl

theorem Escalated.moved {time : Stamp} {escalations : List Escalation}
    (h : Escalated time escalations s t) : t.moved = s.moved := by
  induction h with
  | done => rfl
  | stopped _ => rfl
  | next _ _ decided _ ih => rw [ih, decided.moved (by simp)]

end SubmissionState

open SubmissionState

namespace Surroundings

variable {e : Surroundings} {step target : Step} {action : StepAction}

/-! ## Steps that can be entered and left -/

/-- Every chain of the workflow is configured, its conditions can be evaluated and those whom it asks
can be named; it can be told whom the rules of the workflow choose, and what its actions ask for and
set. -/
structure Unhindered (e : Surroundings) : Prop where
  configured : ∀ step ∈ e.workflow.steps, step.kind = .approval →
    ∃ config, e.approvalConfig step = .ok config
  evaluates : ∀ step ∈ e.workflow.steps, step.kind = .approval →
    ∀ config, e.approvalConfig step = .ok config →
    (∀ group, config.skipWhen = some group → ∃ b, group.holds e.context = .ok b) ∧
    ∀ level ∈ config.levels, ∃ asked, level.askedIn e.context = .ok asked
  assigns : ∀ step ∈ e.workflow.steps, ∀ rule, step.assignment = some rule →
    ∃ chosen, rule.assign e.load e.context = .ok chosen
  renders : ∀ step ∈ e.workflow.steps,
    ∀ a ∈ step.onEnter ++ step.onExit ++ step.actions.flatMap (·.autoActions),
      a.Answers e.context

theorem Unhindered.startsChain (h : e.Unhindered) (onStep : step ∈ e.workflow.steps)
    (hkind : step.kind = .approval) : Journey.StartsChain (fun _ => True) e step where
  configured := lift_succeeds (h.configured step onStep hkind)
  required config hconfig := by
    apply lift_succeeds
    unfold ApprovalConfig.isRequired
    split
    · exact ⟨false, rfl⟩
    · cases hskip : config.skipWhen with
      | none => exact ⟨true, rfl⟩
      | some group =>
        obtain ⟨b, hb⟩ := (h.evaluates step onStep hkind config hconfig).1 group hskip
        refine ⟨!b, ?_⟩
        change (group.holds e.context >>= fun b => pure !b) = _
        rw [hb]
        rfl
  asks config hconfig level hlevel :=
    lift_succeeds ((h.evaluates step onStep hkind config hconfig).2 level hlevel)

theorem Unhindered.leaves (h : e.Unhindered) (onStep : step ∈ e.workflow.steps)
    (offered : action ∈ step.actions) (j : Journey) (actor comments : Option String) :
    (j.leave e step action actor comments).Succeeds := by
  obtain ⟨target, htarget⟩ := Workflow.has_target onStep offered
  apply Journey.leave_avoids
  · exact lift_succeeds ⟨target, Workflow.requireStep_eq_ok_iff.mpr htarget⟩
  · intro a ha
    exact (h.renders step onStep a (by simp [ha])).avoids
  · intro a ha
    apply (h.renders step onStep a _).avoids
    exact List.mem_append_right _ (List.mem_flatMap.mpr ⟨action, offered, ha⟩)

end Surroundings

namespace Journey

variable {e : Surroundings} {j j' : Journey} {step target : Step} {action : StepAction}
  {next : Option StepAction} {actor comments : Option String} {ids left : Ids}

/-- The submission moves on from where it arrives exactly if the step does not keep it. -/
theorem arrive_next (h : (j.arrive e step actor).Returns ids (j', next) left)
    (action : StepAction) : next = some action ↔ e.MovesOn step action := by
  rw [arrive_eq, bind_returns_iff] at h
  obtain ⟨records, between, hasked, h⟩ := h
  by_cases hkind : step.kind = .approval
  · simp only [asked, hkind, ↓reduceIte, bind_returns_iff, lift_returns_iff] at hasked
    obtain ⟨config, _, ⟨hconfig, rfl⟩, hrecords⟩ := hasked
    cases records with
    | nil =>
      simp only [settle, hkind, List.isEmpty_nil, ↓reduceIte, bind_returns_iff, pure_returns_iff,
        Prod.mk.injEq] at h
      obtain ⟨_, _, -, ⟨-, rfl⟩, -⟩ := h
      exact ⟨fun hfollow => ⟨hkind, ⟨config, _, _, _, hconfig, hrecords⟩, hfollow⟩,
        fun hmoves => hmoves.followUp⟩
    | cons r rest =>
      simp only [settle, List.isEmpty_cons, Bool.false_eq_true, ↓reduceIte, bind_returns_iff,
        pure_returns_iff, Prod.mk.injEq] at h
      obtain ⟨_, _, -, _, _, -, ⟨-, rfl⟩, -⟩ := h
      constructor
      · intro hnone
        cases hnone
      · intro hmoves
        cases hmoves.asksNobody.records_eq_nil hconfig hrecords
  · simp only [asked, hkind, ↓reduceIte, pure_returns_iff] at hasked
    obtain ⟨rfl, rfl⟩ := hasked
    simp only [settle, hkind, List.isEmpty_nil, ↓reduceIte, bind_returns_iff, pure_returns_iff,
      Prod.mk.injEq] at h
    obtain ⟨_, _, -, ⟨-, rfl⟩, -⟩ := h
    constructor
    · intro hnone
      cases hnone
    · intro hmoves
      exact absurd hmoves.kind hkind

theorem Arrived.moved {s t : SubmissionState} (h : Arrived e step s t next) :
    t.moved = s.moved := by
  cases h with
  | rests rested => exact rested.moved
  | awaits _ _ _ started => exact started.moved
  | passes rested _ => exact rested.moved

theorem leave_target {there : Step}
    (h : (j.leave e step action actor comments).Returns ids (there, j') left)
    (found : e.workflow.step? action.target = some target) : target = there := by
  simp only [leave, bind_returns_iff, lift_returns_iff, pure_returns_iff, Prod.mk.injEq] at h
  obtain ⟨target', _, ⟨htarget, -⟩, _, _, -, _, _, -, _, _, -, ⟨rfl, -⟩, -⟩ := h
  rw [Workflow.requireStep_eq_ok_iff, found] at htarget
  exact Option.some.inj htarget

/-- A step that can be entered is arrived at, and then it is settled how to go on. -/
theorem enter_arrives (unhindered : e.Unhindered) (onStep : step ∈ e.workflow.steps) (moves : Nat)
    (actor : Option String) (autoAssign : Bool) (j : Journey) (ids : Ids) :
    ∃ j' next left, j'.state.step = j.state.step ∧ j'.state.moved = j.state.moved ∧
      (∀ action, next = some action ↔ e.MovesOn step action) ∧
      (enter e moves step actor autoAssign j).outcome ids =
        (goOn e moves step actor autoAssign j' next).outcome left := by
  have hperforms : (j.perform s!"step:{step.id}" e.context step.onEnter).Succeeds :=
    perform_avoids _ (fun a ha => (unhindered.renders step onStep a (by simp [ha])).avoids) j
  obtain ⟨j₁, between, hperformed⟩ := hperforms.returns ids
  have harrives : (j₁.arrive e step actor).Succeeds := arrive_avoids (unhindered.startsChain onStep)
  obtain ⟨⟨j₂, next⟩, left, harrived⟩ := harrives.returns between
  refine ⟨j₂, next, left, ?_, ?_, arrive_next harrived, ?_⟩
  · rw [(arrive_returns harrived).2.1, perform_returns hperformed]
  · rw [(arrive_arrived harrived).moved, perform_returns hperformed]
  · rw [enter_eq, hperformed.outcome_bind, harrived.outcome_bind]

section Enter

variable (unhindered : e.Unhindered) (onStep : step ∈ e.workflow.steps)

include unhindered onStep

theorem enter_stays (rests : e.Rests step) (moves : Nat) (actor : Option String)
    (autoAssign : Bool) (j : Journey) (ids : Ids) :
    ∃ j' left, (enter e moves step actor autoAssign j).Returns ids j' left ∧
      j'.state.step = j.state.step ∧ j'.state.moved = j.state.moved := by
  obtain ⟨j₁, next, between, hstep, hmoved, hnext, hentered⟩ :=
    enter_arrives unhindered onStep moves actor autoAssign j ids
  have hnone : next = none := by
    rw [Option.eq_none_iff_forall_ne_some]
    exact fun action hsome => rests action ((hnext action).mp hsome)
  subst hnone
  have hassigns : (j₁.assignOnEntry e step autoAssign actor).Succeeds :=
    assignOnEntry_avoids _ fun rule hrule => lift_succeeds (unhindered.assigns step onStep rule hrule)
  obtain ⟨j₂, left, hassigned⟩ := hassigns.returns between
  refine ⟨j₂, left, hentered.trans hassigned, ?_, ?_⟩
  · rw [(assignOnEntry_stays hassigned).step, hstep]
  · rw [(assignOnEntry_assigned hassigned).moved, hmoved]

/-- With a move left, a submission that moves on enters the next step with one move less. -/
theorem enter_movesOn (movesOn : e.MovesOn step action)
    (found : e.workflow.step? action.target = some target) (moves : Nat) (actor : Option String)
    (autoAssign : Bool) (j : Journey) (ids : Ids) :
    ∃ j' left, j'.state.step = target.id ∧ j'.state.moved = j.state.moved + 1 ∧
      (enter e (moves + 1) step actor autoAssign j).outcome ids =
        (enter e moves target (some system) action.autoAssign j').outcome left := by
  obtain ⟨j₁, next, between, -, hmoved, hnext, hentered⟩ :=
    enter_arrives unhindered onStep (moves + 1) actor autoAssign j ids
  obtain rfl := (hnext action).mpr movesOn
  have hleaves := unhindered.leaves onStep (Workflow.mem_of_followUp? movesOn.followUp) j₁
    (some system) none
  obtain ⟨⟨target', j₂⟩, left, hleft⟩ := hleaves.returns between
  obtain rfl := leave_target hleft found
  refine ⟨j₂, left, (leave_returns hleft).2.1, ?_, hentered.trans (hleft.outcome_bind _)⟩
  rw [(leave_left hleft).2.moved, hmoved]

theorem enter_spent (movesOn : e.MovesOn step action) (actor : Option String) (autoAssign : Bool)
    (j : Journey) (ids : Ids) : (enter e 0 step actor autoAssign j).Fails ids (goesRound step) := by
  obtain ⟨_, next, between, -, -, hnext, hentered⟩ :=
    enter_arrives unhindered onStep 0 actor autoAssign j ids
  obtain rfl := (hnext action).mpr movesOn
  rw [Fails, hentered]
  rfl

end Enter

/-- Where the walk comes to rest within the moves that are left, the submission does. -/
theorem enter_rests (unhindered : e.Unhindered) {passed : List Step} {rest : Step}
    (walk : e.Walk step passed rest) (rests : e.Rests rest) (onStep : step ∈ e.workflow.steps)
    {moves : Nat} (enough : passed.length ≤ moves) (actor : Option String) (autoAssign : Bool)
    (j : Journey) (here : j.state.step = step.id) (ids : Ids) :
    ∃ j' left, (enter e moves step actor autoAssign j).Returns ids j' left ∧
      j'.state.step = rest.id ∧ j'.state.moved = j.state.moved + passed.length := by
  induction walk generalizing moves actor autoAssign j ids with
  | @here step =>
    obtain ⟨j', left, hentered, hstep, hmoved⟩ :=
      enter_stays unhindered onStep rests moves actor autoAssign j ids
    exact ⟨j', left, hentered, hstep.trans here, hmoved⟩
  | @on step target rest action passed movesOn found walk ih =>
    obtain ⟨moves, rfl⟩ : ∃ n, moves = n + 1 := by
      cases moves with
      | zero => simp at enough
      | succ n => exact ⟨n, rfl⟩
    obtain ⟨j₁, between, hthere, hmoved, hentered⟩ :=
      enter_movesOn unhindered onStep movesOn found moves actor autoAssign j ids
    have hmore : passed.length ≤ moves := by simpa using enough
    obtain ⟨j', left, hrested, hstep, hcount⟩ := ih rests (Workflow.mem_of_step? found) hmore
      (some system) action.autoAssign j₁ hthere between
    refine ⟨j', left, hentered.trans hrested, hstep, ?_⟩
    rw [hcount, hmoved, List.length_cons]
    omega

/-- Where the walk never comes to rest, all moves that are left are made and the next is refused. -/
theorem enter_goesRound (unhindered : e.Unhindered) (endless : e.Endless step)
    (onStep : step ∈ e.workflow.steps) (moves : Nat) (actor : Option String) (autoAssign : Bool)
    (j : Journey) (ids : Ids) :
    ∃ passed last, e.Walk step passed last ∧ passed.length = moves ∧
      (enter e moves step actor autoAssign j).Fails ids (goesRound last) := by
  induction moves generalizing step actor autoAssign j ids with
  | zero =>
    obtain ⟨action, movesOn⟩ := endless.movesOn
    exact ⟨[], step, .here, rfl, enter_spent unhindered onStep movesOn actor autoAssign j ids⟩
  | succ moves ih =>
    obtain ⟨action, movesOn⟩ := endless.movesOn
    obtain ⟨target, found⟩ := movesOn.has_target onStep
    obtain ⟨j₁, between, -, -, hentered⟩ :=
      enter_movesOn unhindered onStep movesOn found moves actor autoAssign j ids
    obtain ⟨passed, last, walk, hlength, hfails⟩ := ih (endless.on movesOn found)
      (Workflow.mem_of_step? found) (some system) action.autoAssign j₁ between
    refine ⟨step :: passed, last, .on movesOn found walk, by rw [List.length_cons, hlength], ?_⟩
    rw [Fails, hentered]
    exact hfails

end Journey

end Formwork
