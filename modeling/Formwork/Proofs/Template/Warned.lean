import Formwork.Proofs.Template.Found
import Formwork.Proofs.Workflow.Trodden
/-!
# Steps of which a review warns

A review warns of the steps to which no path of actions leads, and of a workflow none of whose ends
can be reached. Both warnings hold of everything that a submission ever does.
-/
namespace Formwork

namespace FormTemplate

variable {t : FormTemplate} {w : Workflow} {r : Review}

theorem unreachable_mem_warnings_iff (inWorkflow : t.workflow = some w) (h : t.review = .ok r)
    (id : String) :
    .unreachable id ∈ r.warnings ↔ id ∈ w.stepIds ∧ ¬ w.Connects w.start.id id := by
  rw [(mem_review_iff h).2]
  constructor
  · rintro ⟨hfinds, -⟩
    cases hfinds with
    | unreachable inWorkflow' listed apart =>
      obtain rfl : w = _ := Option.some.inj (inWorkflow.symm.trans inWorkflow')
      exact ⟨List.mem_map.mpr ⟨_, listed, rfl⟩, apart⟩
  · rintro ⟨hid, apart⟩
    obtain ⟨s, hs, rfl⟩ := List.mem_map.mp hid
    exact ⟨.unreachable inWorkflow hs apart, rfl⟩

theorem noReachableEnd_mem_warnings_iff (inWorkflow : t.workflow = some w) (h : t.review = .ok r) :
    .noReachableEnd ∈ r.warnings ↔
      ∀ s ∈ w.steps, s.kind = .finish → ¬ w.Connects w.start.id s.id := by
  rw [(mem_review_iff h).2]
  constructor
  · rintro ⟨hfinds, -⟩
    cases hfinds with
    | noEnd inWorkflow' apart =>
      obtain rfl : w = _ := Option.some.inj (inWorkflow.symm.trans inWorkflow')
      exact apart
  · exact fun apart => ⟨.noEnd inWorkflow apart, rfl⟩

/-- The review finds exactly the steps to which a path of actions leads from the first one, and a
submission is only ever on these, whatever is carried out on it. So it is never on a step of which
the review warns, and never on an end if the review warns that none can be reached. -/
theorem reachable_exact (inWorkflow : t.workflow = some w) :
    (∃ ids, w.reachable = .ok ids ∧ (∀ id, id ∈ ids ↔ w.Connects w.start.id id) ∧
      ∀ s, w.Reachable s → s.step ∈ ids ∧ ∀ id, s.WasOn id → id ∈ ids) ∧
    ∀ r, t.review = .ok r →
      (∀ id, .unreachable id ∈ r.warnings ↔ id ∈ w.stepIds ∧ ¬ w.Connects w.start.id id) ∧
      (∀ id, .unreachable id ∈ r.warnings → ∀ s, w.Reachable s → ¬ s.WasOn id) ∧
      (.noReachableEnd ∈ r.warnings → ∀ s, w.Reachable s → ∀ id, s.WasOn id →
        ∀ step, w.step? id = some step → step.kind ≠ .finish) := by
  constructor
  · obtain ⟨ids, hids, hconnects⟩ := w.exists_reachable
    refine ⟨ids, hids, hconnects, fun s reached => ⟨?_, fun id wasOn => ?_⟩⟩
    · exact (hconnects s.step).mpr (reached.connects (.inl rfl))
    · exact (hconnects id).mpr (reached.connects wasOn)
  · intro r h
    have hwarns := unreachable_mem_warnings_iff inWorkflow h
    refine ⟨hwarns, ?_, ?_⟩
    · intro id hid s reached wasOn
      exact ((hwarns id).mp hid).2 (reached.connects wasOn)
    · intro hnone s reached id wasOn step hstep hkind
      have apart := (noReachableEnd_mem_warnings_iff inWorkflow h).mp hnone step
        (Workflow.mem_of_step? hstep) hkind
      rw [Workflow.id_of_step? hstep] at apart
      exact apart (reached.connects wasOn)

end FormTemplate

/-! A release whose form has an end to which no action leads. -/
namespace Attic

def attic : Step :=
  { Release.work with id := "attic", kind := .finish, finalStatus := some .completed }

def workflow : Workflow where
  steps := [Release.review, Release.work, attic]
  startId := some "review"
  sound := by decide

def template : FormTemplate := { id := "release", workflow := some workflow }

theorem not_connects : ¬ workflow.Connects workflow.start.id attic.id := by
  intro h
  have hmem : attic.id ∈ ["review", "work"] :=
    StepGraph.Connects.mem_of_closed h (by decide) (by decide)
  revert hmem
  decide

def started : Option SubmissionState :=
  (Surroundings.start ⟨workflow, .ofNow Release.noon, {}, none⟩ (Release.submission none)).answer? {}
    |>.map (·.state)

theorem reached : ∃ s, workflow.Reachable s := by
  have hsome : started.isSome = true := by decide +kernel
  obtain ⟨s, hs⟩ := Option.isSome_iff_exists.mp hsome
  obtain ⟨t, ht, rfl⟩ := Option.map_eq_some_iff.mp hs
  obtain ⟨_, ht⟩ := Work.answer?_eq_some ht
  exact ⟨t.state, .started rfl ht⟩

end Attic

namespace FormTemplate

/-- The review warns of the attic and of the missing end, and a submission that was started is on
neither. -/
theorem reachable_exact_attic : ∃ r s, Attic.template.review = .ok r ∧ Attic.workflow.Reachable s ∧
    .unreachable "attic" ∈ r.warnings ∧ .noReachableEnd ∈ r.warnings ∧ ¬ s.WasOn "attic" := by
  have inWorkflow : Attic.template.workflow = some Attic.workflow := rfl
  obtain ⟨r, hr⟩ := exists_review (t := Attic.template) (by simp [Attic.template])
  obtain ⟨s, reached⟩ := Attic.reached
  obtain ⟨hwarns, hentered, -⟩ := (reachable_exact inWorkflow).2 r hr
  have hattic : .unreachable "attic" ∈ r.warnings :=
    (hwarns "attic").mpr ⟨by decide, Attic.not_connects⟩
  have hend : .noReachableEnd ∈ r.warnings := by
    rw [noReachableEnd_mem_warnings_iff inWorkflow hr]
    intro step hstep hkind
    have hall : ∀ step ∈ Attic.workflow.steps, step.kind = .finish → step.id = "attic" := by decide
    rw [hall step hstep hkind]
    exact Attic.not_connects
  exact ⟨r, s, hr, reached, hattic, hend, hentered "attic" hattic s reached⟩

end FormTemplate
end Formwork
