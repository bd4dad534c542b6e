import Mathlib.Logic.Relation
import Formwork.Template.Review
import Formwork.Proofs.Workflow.Found
/-!
# Steps that can be reached

A step can be reached if a path of actions leads to it from the first one. A review finds these
steps by visiting each of them once. Every action leads to a step, so whatever waits to be visited
is found, and each visit either lists further targets or leaves fewer steps waiting.
-/
namespace Formwork

namespace StepGraph

variable {g : StepGraph} {start id next : String} {ids waiting : List String} {step : Step}

/-- An action of the one step leads to the other. -/
def Leads (g : StepGraph) (id next : String) : Prop :=
  ∃ step, g.step? id = some step ∧ ∃ action ∈ step.actions, action.target = next

/-- A finite path of actions leads from the one step to the other. -/
abbrev Connects (g : StepGraph) : String → String → Prop := Relation.ReflTransGen g.Leads

/-- Every action leads to a step. -/
def Closed (g : StepGraph) : Prop :=
  ∀ step ∈ g.steps, ∀ action ∈ step.actions, ∃ target, g.step? action.target = some target

/-- The ids on the way of a visit: all can be reached, and those that do not wait have been
visited, so that wherever they lead is among the ids. -/
structure Visiting (g : StepGraph) (start : String) (ids waiting : List String) : Prop where
  started : start ∈ ids
  steps : ∀ id ∈ ids, ∃ step, g.step? id = some step
  connected : ∀ id ∈ ids, g.Connects start id
  listed : waiting ⊆ ids
  visited : ∀ id ∈ ids, id ∉ waiting → ∀ next, g.Leads id next → next ∈ ids

theorem Visiting.of_start (h : g.step? start = some step) : g.Visiting start [start] [start] where
  started := List.mem_singleton_self start
  steps id hid := by
    rw [List.mem_singleton.mp hid]
    exact ⟨step, h⟩
  connected id hid := by
    rw [List.mem_singleton.mp hid]
  listed := List.Subset.refl _
  visited id hid hwaits := absurd hid hwaits

theorem Visiting.visit_step (h : g.Visiting start ids (id :: waiting))
    (closed : g.Closed) (hstep : g.step? id = some step) :
    g.Visiting start (ids ++ step.targetsBeyond ids)
      ((step.targetsBeyond ids).reverse ++ waiting) where
  started := List.mem_append_left _ h.started
  steps next hnext := by
    rcases List.mem_append.mp hnext with hold | hnew
    · exact h.steps next hold
    · obtain ⟨⟨action, haction, rfl⟩, -⟩ := Step.mem_targetsBeyond.mp hnew
      exact closed step (List.mem_of_find?_eq_some hstep) action haction
  connected next hnext := by
    rcases List.mem_append.mp hnext with hold | hnew
    · exact h.connected next hold
    · obtain ⟨hleads, -⟩ := Step.mem_targetsBeyond.mp hnew
      exact (h.connected id (h.listed List.mem_cons_self)).tail ⟨step, hstep, hleads⟩
  listed next hnext := by
    rcases List.mem_append.mp hnext with hnew | hwaits
    · exact List.mem_append_right _ (List.mem_reverse.mp hnew)
    · exact List.mem_append_left _ (h.listed (List.mem_cons_of_mem _ hwaits))
  visited seen hseen hwaits next hleads := by
    rw [List.mem_append, not_or, List.mem_reverse] at hwaits
    have hold : seen ∈ ids := (List.mem_append.mp hseen).resolve_right hwaits.1
    by_cases hhere : seen = id
    · obtain ⟨found, hfound, htarget⟩ := hleads
      rw [hhere, hstep, Option.some.injEq] at hfound
      subst hfound
      by_cases hknown : next ∈ ids
      · exact List.mem_append_left _ hknown
      · exact List.mem_append_right _ (Step.mem_targetsBeyond.mpr ⟨htarget, hknown⟩)
    · have hnone : seen ∉ id :: waiting := by simp [hhere, hwaits.2]
      exact List.mem_append_left _ (h.visited seen hold hnone next hleads)

theorem Visiting.visit_ok (closed : g.Closed) (h : g.Visiting start ids waiting) :
    ∃ found, g.visit ids waiting = .ok found ∧ g.Visiting start found [] := by
  fun_induction g.visit ids waiting with
  | case1 ids => exact ⟨ids, rfl, h⟩
  | case2 ids id rest hnone =>
    obtain ⟨step, hstep⟩ := h.steps id (h.listed List.mem_cons_self)
    rw [hnone] at hstep
    cases hstep
  | case3 ids id rest step hstep ih => exact ih (h.visit_step closed hstep)

theorem Visiting.mem_iff (h : g.Visiting start ids []) : id ∈ ids ↔ g.Connects start id := by
  refine ⟨h.connected id, fun hconnects => ?_⟩
  induction hconnects with
  | refl => exact h.started
  | tail _ hleads ih => exact h.visited _ ih List.not_mem_nil _ hleads

theorem Connects.mem_of_closed (h : g.Connects start id) (started : start ∈ ids)
    (closed : ∀ step ∈ g.steps, step.id ∈ ids → ∀ action ∈ step.actions, action.target ∈ ids) :
    id ∈ ids := by
  induction h with
  | refl => exact started
  | @tail last _ _ hleads ih =>
    obtain ⟨step, hstep, action, haction, rfl⟩ := hleads
    obtain rfl : step.id = last := by simpa using List.find?_some hstep
    exact closed step (List.mem_of_find?_eq_some hstep) ih action haction

end StepGraph

namespace Workflow

theorem closed (w : Workflow) : w.Closed := fun _ hstep _ haction => has_target hstep haction

/-- The visit comes to an end, with the steps to which a path leads from the first one. -/
theorem exists_reachable (w : Workflow) :
    ∃ ids, w.reachable = .ok ids ∧ ∀ id, id ∈ ids ↔ w.Connects w.start.id id := by
  obtain ⟨ids, hids, hvisited⟩ :=
    (StepGraph.Visiting.of_start w.step?_start).visit_ok w.closed
  exact ⟨ids, hids, fun _ => hvisited.mem_iff⟩

end Workflow

end Formwork
