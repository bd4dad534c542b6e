import Formwork.Lifecycle.Form
import Formwork.Proofs.Template.Found
import Formwork.Proofs.Workflow.Finished
/-!
# References to unknown fields

A condition about a field that the form does not declare is treated as one about an unknown field: it
does not hold, whichever way it asks. A review warns of every such condition that it reads. It does
not read the conditions of the levels of approval, nor what the template's own approval asks, so a
review without such a warning says nothing of these.
-/
namespace Formwork

open Calendar

/-! ## Conditions on known fields -/

theorem Condition.isKnown_contextFor_eq_false_iff {t : FormTemplate} {s : Submission}
    {settings : Settings} {host : Host} {now : Instant} {locale : Option String} {c : Condition} :
    c.isKnown (t.contextFor s settings host now locale) = false ↔
      c.source = .field ∧ Value.headOfPath c.field ∉ t.fieldIds := by
  simp [isKnown, FormTemplate.contextFor, Context.knows]

/-- Every condition of the group is one about something known. -/
def Group.Known (g : Group) (context : Context) : Prop :=
  ∀ c ∈ g.node.conditions, c.isKnown context = true

namespace FormTemplate

variable {t : FormTemplate} {r : Review} {s : Submission} {settings : Settings} {host : Host}
  {now : Instant} {locale : Option String}

/-- Conditions that are evaluated and that a review does not read. -/
inductive Overlooks (t : FormTemplate) : Group → Prop
  | level {w : Workflow} {step : Step} {config : ApprovalConfig} {l : ApprovalLevel} {g : Group}
      (inWorkflow : t.workflow = some w) (listed : step ∈ w.steps)
      (own : step.approval = some config) (asked : l ∈ config.levels)
      (condition : l.condition = some g) : Overlooks t g
  | defaultSkip {config : ApprovalConfig} {g : Group} (shared : t.approval = some config)
      (skips : config.skipWhen = some g) : Overlooks t g
  | defaultLevel {config : ApprovalConfig} {l : ApprovalLevel} {g : Group}
      (shared : t.approval = some config) (asked : l ∈ config.levels)
      (condition : l.condition = some g) : Overlooks t g

/-- The conditions that are evaluated for submissions of a template. Those of rules for assignment
are not among them: steps and actions run such rules unasked, and no operation on a submission runs
the list of them that a template has. -/
def Evaluates (t : FormTemplate) (g : Group) : Prop := (∃ path, t.Reads g path) ∨ t.Overlooks g

theorem unknownReference_mem_warnings_iff (h : t.review = .ok r) (s : Submission)
    (settings : Settings) (host : Host) (now : Instant) (locale : Option String)
    (name path : String) :
    .unknownReference name path ∈ r.warnings ↔
      ∃ g, t.Reads g path ∧ ∃ c ∈ g.node.conditions, Value.headOfPath c.field = name ∧
        c.isKnown (t.contextFor s settings host now locale) = false := by
  rw [(mem_review_iff h).2]
  simp only [Condition.isKnown_contextFor_eq_false_iff]
  constructor
  · rintro ⟨hfinds, -⟩
    cases hfinds with
    | reference reads mentioned stray =>
      obtain ⟨c, hc, hsource, rfl⟩ := Group.mem_fieldNames_iff.mp mentioned
      exact ⟨_, reads, c, hc, rfl, hsource, stray⟩
  · rintro ⟨g, reads, c, hc, rfl, hsource, stray⟩
    exact ⟨.reference reads (Group.mem_fieldNames_iff.mpr ⟨c, hc, hsource, rfl⟩) stray, rfl⟩

/-- A review warns of exactly the conditions about unknown fields among those that it reads, each
under its path. So there is no such warning just where all of these are about known fields, and all
that are evaluated are so just where those that the review overlooks are so as well. -/
theorem warns_of_unknown_iff (h : t.review = .ok r) (s : Submission) (settings : Settings)
    (host : Host) (now : Instant) (locale : Option String) :
    (∀ name path, .unknownReference name path ∈ r.warnings ↔
      ∃ g, t.Reads g path ∧ ∃ c ∈ g.node.conditions, Value.headOfPath c.field = name ∧
        c.isKnown (t.contextFor s settings host now locale) = false) ∧
    ((∀ g, t.Evaluates g → g.Known (t.contextFor s settings host now locale)) ↔
      (∀ name path, .unknownReference name path ∉ r.warnings) ∧
        ∀ g, t.Overlooks g → g.Known (t.contextFor s settings host now locale)) := by
  have hwarns := unknownReference_mem_warnings_iff h s settings host now locale
  refine ⟨hwarns, ?_, ?_⟩
  · intro known
    refine ⟨fun name path hmem => ?_, fun g overlooks => known g (.inr overlooks)⟩
    obtain ⟨g, reads, c, hc, -, hunknown⟩ := (hwarns name path).mp hmem
    rw [known g (.inl ⟨path, reads⟩) c hc] at hunknown
    cases hunknown
  · rintro ⟨hnone, known⟩ g (⟨path, reads⟩ | overlooks)
    · intro c hc
      by_contra hunknown
      rw [Bool.not_eq_true] at hunknown
      exact hnone _ path ((hwarns _ path).mpr ⟨g, reads, c, hc, rfl, hunknown⟩)
    · exact known g overlooks

end FormTemplate

/-! An order that Ann has to sign if it is a large one. The condition of her level misspells the field
that it is about, and a second form has a rule with the same condition. -/
namespace Order

def asks : Condition := { field := "ammount", operator := .greaterThan, value := .int 1000 }

def large : Group := { nodes := [.leaf asks] }

def sign : Step :=
  { Release.review with
    id := "sign", actions := [{ Release.action with id := "file", target := "filed" }],
    approval := some { levels := [{ approvers := ["ann"], condition := some large }] },
    onApproved := some "file" }

def filed : Step :=
  { Release.work with id := "filed", kind := .finish, finalStatus := some .completed }

def workflow : Workflow where
  steps := [sign, filed]
  startId := some "sign"
  sound := by decide

def template : FormTemplate :=
  { id := "order", fields := [{ id := "amount" }], workflow := some workflow }

def withRule : FormTemplate :=
  { template with fieldRules := [{ id := "large", name := none, conditions := large, actions := [],
                                   active := true }] }

theorem not_reads (g : Group) (path : String) : ¬ template.Reads g path := by
  intro reads
  cases reads with
  | fieldRule listed => cases listed
  | formRule listed _ => cases listed
  | @field n f _ listed required =>
    have hnone : ∀ f ∈ template.fields, f.demands.requiredWhen.isNone = true := by decide
    have hf := hnone f (List.mem_of_getElem? listed)
    rw [required] at hf
    cases hf
  | businessRule listed _ => cases listed
  | @skip w step _ inWorkflow listed skips =>
    have hnone : ∀ step ∈ workflow.steps, (step.approval.bind (·.skipWhen)).isNone = true := by
      decide
    obtain rfl := Option.some.inj inWorkflow
    have hstep := hnone step listed
    rw [skips] at hstep
    cases hstep
  | @guard w step action _ inWorkflow listed offered guards =>
    have hnone : ∀ step ∈ workflow.steps, ∀ action ∈ step.actions, action.guard.isNone = true := by
      decide
    obtain rfl := Option.some.inj inWorkflow
    have hstep := hnone step listed action offered
    rw [guards] at hstep
    cases hstep

end Order

namespace FormTemplate

open Release (noon submission)

/-- The review warns of the misspelt field in the rule. -/
theorem warns_of_unknown_iff_order : ∃ r, Order.withRule.review = .ok r ∧
    .unknownReference "ammount" "conditional_rules[0].conditions" ∈ r.warnings := by
  obtain ⟨r, hr⟩ := exists_review (t := Order.withRule) (by simp [Order.withRule, Order.template])
  have hpath : s!"conditional_rules[{(0 : Nat)}].conditions" = "conditional_rules[0].conditions" := by
    decide
  have reads : Order.withRule.Reads Order.large s!"conditional_rules[{(0 : Nat)}].conditions" :=
    .fieldRule (t := Order.withRule) (n := 0) rfl
  rw [hpath] at reads
  refine ⟨r, hr, ((warns_of_unknown_iff hr (submission none) {} {} noon none).1 _ _).mpr ?_⟩
  exact ⟨Order.large, reads, Order.asks, List.mem_singleton_self _, by decide, by decide⟩

/-- The review says nothing of the misspelt field in the level of approval. -/
theorem not_warns_of_all_unknown : ¬ ∀ (t : FormTemplate) (r : Review) (s : Submission)
    (settings : Settings) (host : Host) (now : Instant) (locale : Option String),
    t.flaw? = none → t.review = .ok r → (∀ name path, .unknownReference name path ∉ r.warnings) →
      ∀ g, t.Evaluates g → g.Known (t.contextFor s settings host now locale) := by
  intro hall
  obtain ⟨r, hr⟩ := exists_review (t := Order.template) (by simp [Order.template])
  have hnone : ∀ name path, .unknownReference name path ∉ r.warnings := by
    intro name path hmem
    rw [(mem_review_iff hr).2] at hmem
    cases hmem.1 with
    | reference reads _ _ => exact Order.not_reads _ _ reads
  have hlevel : Order.template.Evaluates Order.large :=
    .inr (.level rfl (List.mem_cons_self (a := Order.sign)) rfl (List.mem_singleton_self _) rfl)
  have approved : ∀ step ∈ Order.workflow.steps, step.kind = .approval → ¬ step.approval.isNone := by
    decide
  have accepted : Order.template.flaw? = none := by
    simpa [flaw?, idFlaw?, approvalFlaw?, idLists, repeated, Order.template, fieldIds, distinct,
      ascending] using approved
  have hknown := hall Order.template r (submission none) {} {} noon none accepted hr hnone
    Order.large hlevel Order.asks (List.mem_singleton_self _)
  revert hknown
  decide

end FormTemplate
end Formwork
