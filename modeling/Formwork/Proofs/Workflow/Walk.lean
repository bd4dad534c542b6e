import Mathlib.Tactic.Common
import Mathlib.Data.List.Perm.Subperm
import Formwork.Proofs.Approval.Start
import Formwork.Proofs.Workflow.Found
/-!
# Walks over steps that ask nobody

From a step whose chain asks nobody, a submission moves on through the action that follows an
approval. Where it moves on to depends on the step alone, so a walk from step to step that comes to
rest passes no step twice, and is shorter than the workflow has steps.
-/
namespace Formwork

namespace Surroundings

variable {e : Surroundings} {step last target : Step} {action : StepAction} {passed : List Step}

theorem approvalConfig_eq_ok_iff {config : ApprovalConfig} :
    e.approvalConfig step = .ok config ↔ step.approval.or e.defaultApproval = some config := by
  unfold approvalConfig
  cases step.approval.or e.defaultApproval with
  | none => simp
  | some c => simp

/-- A round that is started at the step has no records. -/
def AsksNobody (e : Surroundings) (step : Step) : Prop :=
  ∃ config round ids left, e.approvalConfig step = .ok config ∧
    (config.startChain e.context round).Returns ids [] left

theorem AsksNobody.records_eq_nil (h : e.AsksNobody step) {config : ApprovalConfig} {round : Int}
    {ids left : Ids} {records : Chain} (hconfig : e.approvalConfig step = .ok config)
    (hrecords : (config.startChain e.context round).Returns ids records left) : records = [] := by
  obtain ⟨config', _, _, _, hconfig', hnil⟩ := h
  rw [hconfig', Except.ok.injEq] at hconfig
  subst hconfig
  exact (config'.startChain_eq_nil_iff hrecords).mpr ((config'.startChain_eq_nil_iff hnil).mp rfl)

/-! ## From step to step -/

/-- A submission moves on from an approval step that asks nobody, if an action follows its chain. -/
structure MovesOn (e : Surroundings) (step : Step) (action : StepAction) : Prop where
  kind : step.kind = .approval
  asksNobody : e.AsksNobody step
  followUp : step.followUp? step.onApproved = some action

/-- A submission that enters the step stays there. -/
def Rests (e : Surroundings) (step : Step) : Prop := ∀ action, ¬ e.MovesOn step action

/-- The way from a step to another one over the steps that are passed. -/
inductive Walk (e : Surroundings) : Step → List Step → Step → Prop
  | here {step : Step} : Walk e step [] step
  | on {step target last : Step} {action : StepAction} {passed : List Step}
      (moves : e.MovesOn step action) (found : e.workflow.step? action.target = some target)
      (walk : Walk e target passed last) : Walk e step (step :: passed) last

/-- However far one walks, the submission does not rest. -/
def Endless (e : Surroundings) (step : Step) : Prop :=
  ∀ passed last, e.Walk step passed last → ¬ e.Rests last

theorem MovesOn.unique {other : StepAction} (h : e.MovesOn step action)
    (h' : e.MovesOn step other) : action = other := by
  have hsame := h.followUp
  rw [h'.followUp, Option.some.injEq] at hsame
  exact hsame.symm

theorem MovesOn.has_target (h : e.MovesOn step action) (onStep : step ∈ e.workflow.steps) :
    e.workflow.Has action.target :=
  Workflow.has_target onStep (Workflow.mem_of_followUp? h.followUp)

theorem Endless.movesOn (h : e.Endless step) : ∃ action, e.MovesOn step action := by
  by_contra hrests
  exact h [] step .here fun action hmoves => hrests ⟨action, hmoves⟩

theorem Endless.on (h : e.Endless step) (moves : e.MovesOn step action)
    (found : e.workflow.step? action.target = some target) : e.Endless target :=
  fun _ _ walk => h _ _ (.on moves found walk)

/-! ## Walks that come to rest -/

namespace Walk

theorem mem (walk : e.Walk step passed last) (onStep : step ∈ e.workflow.steps) :
    ∀ s ∈ last :: passed, s ∈ e.workflow.steps := by
  induction walk with
  | here => simpa using onStep
  | on _ found _ ih =>
    have hrest := ih (Workflow.mem_of_step? found)
    simp only [List.forall_mem_cons] at hrest ⊢
    exact ⟨hrest.1, onStep, hrest.2⟩

theorem unique (walk : e.Walk step passed last) (rests : e.Rests last) {passed' : List Step}
    {last' : Step} (walk' : e.Walk step passed' last') (rests' : e.Rests last') :
    passed = passed' ∧ last = last' := by
  induction walk generalizing passed' with
  | here =>
    cases walk' with
    | here => exact ⟨rfl, rfl⟩
    | on moves _ _ => exact absurd moves (rests _)
  | on moves found _ ih =>
    cases walk' with
    | here => exact absurd moves (rests' _)
    | on moves' found' walk' =>
      obtain rfl := moves.unique moves'
      rw [found, Option.some.injEq] at found'
      subst found'
      obtain ⟨rfl, hlast⟩ := ih rests walk'
      exact ⟨rfl, hlast⟩

theorem from_passed (walk : e.Walk step passed last) {s : Step} (hs : s ∈ passed) :
    ∃ before after, passed = before ++ s :: after ∧ e.Walk s (s :: after) last := by
  induction walk with
  | here => cases hs
  | @on step _ _ _ passed moves found walk ih =>
    rcases List.mem_cons.mp hs with rfl | hs
    · exact ⟨[], passed, rfl, .on moves found walk⟩
    · obtain ⟨before, after, rfl, hafter⟩ := ih hs
      exact ⟨step :: before, after, rfl, hafter⟩

/-- No step is passed twice: the ways to rest from both times would be one, and one is longer. -/
theorem nodup (walk : e.Walk step passed last) (rests : e.Rests last) : (last :: passed).Nodup := by
  induction walk with
  | here => simp
  | @on step _ last _ passed moves found walk ih =>
    have hnodup := List.nodup_cons.mp (ih rests)
    have hrest : last ≠ step := by
      rintro rfl
      exact rests _ moves
    have hagain : step ∉ passed := by
      intro hs
      obtain ⟨before, after, hpassed, hafter⟩ := walk.from_passed hs
      have hsame := (unique (.on moves found walk) rests hafter rests).1
      have hlength := congrArg List.length hpassed
      simp only [List.cons.injEq, true_and] at hsame
      simp only [List.length_append, List.length_cons, hsame] at hlength
      omega
    rw [List.nodup_cons, List.nodup_cons, List.mem_cons, not_or]
    exact ⟨⟨hrest, hnodup.1⟩, hagain, hnodup.2⟩

theorem length_lt (walk : e.Walk step passed last) (rests : e.Rests last)
    (onStep : step ∈ e.workflow.steps) : passed.length < e.workflow.steps.length :=
  (List.subperm_of_subset (walk.nodup rests) (walk.mem onStep)).length_le

end Walk

end Surroundings

end Formwork
