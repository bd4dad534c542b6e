import Formwork.Proofs.Condition.ReadSet
import Formwork.Proofs.Template.Connected
import Formwork.Proofs.Validation.Wording
/-!
# What a review finds

A review goes through a template part by part. Each issue that it finds has a cause in one of the
parts, and each cause that there is in the parts it goes through is found.
-/
namespace Formwork

namespace FormTemplate

variable {t : FormTemplate} {r : Review} {i : Issue} {issues : List Issue} {path : String}

/-! ## Causes -/

/-- The conditions that a review reads, each with the path under which it stands. -/
inductive Reads (t : FormTemplate) : Group → String → Prop
  | fieldRule {n : Nat} {rule : FieldRule} (listed : t.fieldRules[n]? = some rule) :
      Reads t rule.conditions s!"conditional_rules[{n}].conditions"
  | formRule {n : Nat} {rule : FormRule} {g : Group} (listed : t.formRules[n]? = some rule)
      (applies : rule.appliesWhen = some g) : Reads t g s!"validation_rules[{n}].applies_when"
  | field {n : Nat} {f : Field} {g : Group} (listed : t.fields[n]? = some f)
      (required : f.demands.requiredWhen = some g) :
      Reads t g s!"fields[{n}].validation.required_when"
  | businessRule {n : Nat} {rule : BusinessRule} {g : Group}
      (listed : t.businessRules[n]? = some rule) (conditions : rule.conditions = some g) :
      Reads t g s!"business_rules[{n}].conditions"
  | skip {w : Workflow} {s : Step} {g : Group} (inWorkflow : t.workflow = some w)
      (listed : s ∈ w.steps) (skips : s.approval.bind (·.skipWhen) = some g) :
      Reads t g (s!"workflow.steps[{s.id}]" ++ ".approval")
  | guard {w : Workflow} {s : Step} {a : StepAction} {g : Group} (inWorkflow : t.workflow = some w)
      (listed : s ∈ w.steps) (offered : a ∈ s.actions) (guards : a.guard = some g) :
      Reads t g (s!"workflow.steps[{s.id}]" ++ s!".actions[{a.id}].guard")

/-- What gives cause for an issue. -/
inductive Finds (t : FormTemplate) : Issue → Prop
  | reference {g : Group} {path name : String} (reads : t.Reads g path)
      (mentioned : name ∈ g.fieldNames) (stray : name ∉ t.fieldIds) :
      Finds t (.unknownReference name path)
  | target {n k : Nat} {rule : FieldRule} {a : FieldAction} (listed : t.fieldRules[n]? = some rule)
      (acts : rule.actions[k]? = some a) (stray : a.target ∉ t.fieldIds) :
      Finds t (.unknownTarget a.target s!"conditional_rules[{n}].actions[{k}]")
  | field {n : Nat} {rule : FormRule} {id : String} (listed : t.formRules[n]? = some rule)
      (about : id ∈ rule.fields) (stray : id ∉ t.fieldIds) :
      Finds t (.unknownField id s!"validation_rules[{n}].field_ids")
  | problem {n : Nat} {rule : BusinessRule} {problems : List String} {problem : String}
      (listed : t.businessRules[n]? = some rule) (advised : rule.problems = .ok problems)
      (mentioned : problem ∈ problems) : Finds t (.ruleProblem problem s!"business_rules[{n}]")
  | unreachable {w : Workflow} {s : Step} (inWorkflow : t.workflow = some w) (listed : s ∈ w.steps)
      (apart : ¬ w.Connects w.start.id s.id) : Finds t (.unreachable s.id)
  | noEnd {w : Workflow} (inWorkflow : t.workflow = some w)
      (apart : ∀ s ∈ w.steps, s.kind = .finish → ¬ w.Connects w.start.id s.id) :
      Finds t .noReachableEnd

/-! ## Part by part -/

theorem mem_strayReferences {group : Option Group} : i ∈ t.strayReferences group path ↔
    ∃ g, group = some g ∧ ∃ name ∈ g.fieldNames, name ∉ t.fieldIds ∧
      i = .unknownReference name path := by
  cases group with
  | none => simp [strayReferences]
  | some g =>
    simp only [strayReferences, List.mem_map, List.mem_filter, Option.some.injEq,
      exists_eq_left', and_assoc]
    constructor
    · rintro ⟨name, hname, hstray, rfl⟩
      exact ⟨name, hname, by simpa using hstray, rfl⟩
    · rintro ⟨name, hname, hstray, rfl⟩
      exact ⟨name, hname, by simpa using hstray, rfl⟩

theorem finds_of_mem_strayReferences {group : Option Group}
    (reads : ∀ g, group = some g → t.Reads g path) (h : i ∈ t.strayReferences group path) :
    t.Finds i := by
  obtain ⟨g, hg, name, hname, hstray, rfl⟩ := mem_strayReferences.mp h
  exact .reference (reads g hg) hname hstray

theorem finds_of_mem_fieldRuleIssues {n : Nat} {rule : FieldRule}
    (listed : t.fieldRules[n]? = some rule) (h : i ∈ t.fieldRuleIssues n rule) : t.Finds i := by
  rw [fieldRuleIssues, List.mem_append] at h
  rcases h with hstray | htarget
  · refine finds_of_mem_strayReferences (fun g hg => ?_) hstray
    obtain rfl := Option.some.inj hg
    exact .fieldRule listed
  · simp only [List.mem_map, List.mem_filter, Prod.exists, List.mem_zipIdx_iff_getElem?] at htarget
    obtain ⟨a, k, ⟨ha, hstray⟩, rfl⟩ := htarget
    exact .target listed ha (by simpa using hstray)

theorem finds_of_mem_formRuleIssues {n : Nat} {rule : FormRule}
    (listed : t.formRules[n]? = some rule) (h : i ∈ t.formRuleIssues n rule) : t.Finds i := by
  rw [formRuleIssues, List.mem_append] at h
  rcases h with hstray | hfield
  · exact finds_of_mem_strayReferences (fun g hg => .formRule listed hg) hstray
  · simp only [List.mem_map, List.mem_filter] at hfield
    obtain ⟨id, ⟨hid, hstray⟩, rfl⟩ := hfield
    exact .field listed hid (by simpa using hstray)

/-- Business rules are advised on one after another, each under its place in the list. -/
theorem mem_businessRuleIssues {n : Nat} {rules : List BusinessRule}
    (h : t.businessRuleIssues n rules = .ok issues) : i ∈ issues ↔
    ∃ k rule, rules[k]? = some rule ∧
      (i ∈ t.strayReferences rule.conditions s!"business_rules[{n + k}].conditions" ∨
        ∃ problems, rule.problems = .ok problems ∧
          ∃ p ∈ problems, i = .ruleProblem p s!"business_rules[{n + k}]") := by
  induction rules generalizing n issues with
  | nil =>
    cases h
    simp
  | cons rule rest ih =>
    simp only [businessRuleIssues, Work.except_bind_eq_ok_iff] at h
    obtain ⟨problems, hproblems, later, hlater, h⟩ := h
    cases h
    rw [List.mem_append, List.mem_append, ih hlater]
    constructor
    · rintro ((hstray | hproblem) | ⟨k, other, hother, hfound⟩)
      · exact ⟨0, rule, rfl, .inl hstray⟩
      · obtain ⟨p, hp, rfl⟩ := List.mem_map.mp hproblem
        exact ⟨0, rule, rfl, .inr ⟨problems, hproblems, p, hp, rfl⟩⟩
      · refine ⟨k + 1, other, by simpa using hother, ?_⟩
        rwa [show n + (k + 1) = n + 1 + k by omega]
    · rintro ⟨_ | k, other, hother, hfound⟩
      · obtain rfl : rule = other := by simpa using hother
        rcases hfound with hstray | ⟨same, hsame, p, hp, rfl⟩
        · exact .inl (.inl hstray)
        · rw [hproblems, Except.ok.injEq] at hsame
          subst hsame
          exact .inl (.inr (List.mem_map.mpr ⟨p, hp, rfl⟩))
      · refine .inr ⟨k, other, by simpa using hother, ?_⟩
        rwa [show n + 1 + k = n + (k + 1) by omega]

theorem mem_stepIssues {ids : List String} {s : Step} : i ∈ t.stepIssues ids s ↔
    (s.id ∉ ids ∧ i = .unreachable s.id) ∨
      i ∈ t.strayReferences (s.approval.bind (·.skipWhen))
        (s!"workflow.steps[{s.id}]" ++ ".approval") ∨
      ∃ a ∈ s.actions, i ∈ t.strayReferences a.guard
        (s!"workflow.steps[{s.id}]" ++ s!".actions[{a.id}].guard") := by
  by_cases hid : s.id ∈ ids <;> simp [stepIssues, hid]

/-- The issues of a workflow are those of its steps, and perhaps that none of them is an end. -/
theorem workflowIssues_eq_ok {w : Workflow} (inWorkflow : t.workflow = some w)
    (h : t.workflowIssues = .ok issues) : ∃ ids, (∀ id, id ∈ ids ↔ w.Connects w.start.id id) ∧
      (i ∈ issues ↔ (∃ s ∈ w.steps, i ∈ t.stepIssues ids s) ∨
        ((∀ s ∈ w.steps, s.kind = .finish → s.id ∉ ids) ∧ i = .noReachableEnd)) := by
  obtain ⟨ids, hids, hconnects⟩ := w.exists_reachable
  simp only [workflowIssues, inWorkflow, hids, Work.except_ok_bind, pure, Except.pure,
    Except.ok.injEq] at h
  subst h
  refine ⟨ids, hconnects, ?_⟩
  rw [List.mem_append, List.mem_flatMap]
  refine or_congr_right ?_
  split
  · rename_i hend
    simp only [List.any_eq_true, Bool.and_eq_true, decide_eq_true_eq, List.contains_iff_mem] at hend
    obtain ⟨s, hs, hkind, hreached⟩ := hend
    simp only [List.not_mem_nil, false_iff, not_and]
    exact fun hnone => absurd hreached (hnone s hs hkind)
  · rename_i hend
    simp only [List.any_eq_true, Bool.and_eq_true, decide_eq_true_eq, List.contains_iff_mem,
      not_exists, not_and] at hend
    simp only [List.mem_singleton, iff_and_self]
    exact fun _ => hend

theorem workflowIssues_of_none (hnone : t.workflow = none) (h : t.workflowIssues = .ok issues) :
    issues = [] := by
  rw [workflowIssues, hnone] at h
  cases h
  rfl

theorem finds_of_mem_workflowIssues (h : t.workflowIssues = .ok issues) (hi : i ∈ issues) :
    t.Finds i := by
  cases hworkflow : t.workflow with
  | none =>
    rw [workflowIssues_of_none hworkflow h] at hi
    cases hi
  | some w =>
    obtain ⟨ids, hids, hmem⟩ := workflowIssues_eq_ok hworkflow h
    rcases hmem.mp hi with ⟨s, hs, hi⟩ | ⟨hnone, rfl⟩
    · rcases mem_stepIssues.mp hi with ⟨hstep, rfl⟩ | hskip | ⟨a, ha, hguard⟩
      · exact .unreachable hworkflow hs fun hconnects => hstep ((hids s.id).mpr hconnects)
      · exact finds_of_mem_strayReferences (fun g hg => .skip hworkflow hs hg) hskip
      · exact finds_of_mem_strayReferences (fun g hg => .guard hworkflow hs ha hg) hguard
    · exact .noEnd hworkflow fun s hs hkind hconnects => hnone s hs hkind ((hids s.id).mpr hconnects)

/-! ## Whole reviews -/

theorem issues_eq_ok (h : t.issues = .ok issues) : ∃ business workflow,
    t.businessRuleIssues 0 t.businessRules = .ok business ∧ t.workflowIssues = .ok workflow ∧
      (i ∈ issues ↔
        (∃ (n : Nat) (rule : FieldRule), t.fieldRules[n]? = some rule ∧
          i ∈ t.fieldRuleIssues n rule) ∨
        (∃ (n : Nat) (rule : FormRule), t.formRules[n]? = some rule ∧
          i ∈ t.formRuleIssues n rule) ∨
        (∃ (n : Nat) (f : Field), t.fields[n]? = some f ∧
          i ∈ t.strayReferences f.demands.requiredWhen
            s!"fields[{n}].validation.required_when") ∨
        i ∈ business ∨ i ∈ workflow) := by
  simp only [FormTemplate.issues, Work.except_bind_eq_ok_iff] at h
  obtain ⟨business, hbusiness, workflow, hworkflow, h⟩ := h
  cases h
  refine ⟨business, workflow, hbusiness, hworkflow, ?_⟩
  simp only [List.mem_append, List.mem_flatMap, Prod.exists, List.mem_zipIdx_iff_getElem?, or_assoc]
  simp only [@exists_comm Nat]

theorem finds_of_mem_issues (h : t.issues = .ok issues) (hi : i ∈ issues) : t.Finds i := by
  obtain ⟨business, workflow, hbusiness, hworkflow, hmem⟩ := issues_eq_ok (i := i) h
  rcases hmem.mp hi with ⟨n, rule, hrule, hi⟩ | ⟨n, rule, hrule, hi⟩ | ⟨n, f, hf, hi⟩ | hi | hi
  · exact finds_of_mem_fieldRuleIssues hrule hi
  · exact finds_of_mem_formRuleIssues hrule hi
  · exact finds_of_mem_strayReferences (fun g hg => .field hf hg) hi
  · obtain ⟨n, rule, hrule, hstray | ⟨problems, hproblems, p, hp, rfl⟩⟩ :=
      (mem_businessRuleIssues hbusiness).mp hi
    · rw [Nat.zero_add] at hstray
      exact finds_of_mem_strayReferences (fun g hg => .businessRule hrule hg) hstray
    · rw [Nat.zero_add]
      exact .problem hrule hproblems hp
  · exact finds_of_mem_workflowIssues hworkflow hi

theorem mem_issues_of_reads {g : Group} {name : String} (h : t.issues = .ok issues)
    (reads : t.Reads g path) (mentioned : name ∈ g.fieldNames) (stray : name ∉ t.fieldIds) :
    .unknownReference name path ∈ issues := by
  obtain ⟨business, workflow, hbusiness, hworkflow, hmem⟩ := issues_eq_ok h
  have hstray : ∀ {group : Option Group} {path : String}, group = some g →
      .unknownReference name path ∈ t.strayReferences group path := fun hg =>
    mem_strayReferences.mpr ⟨g, hg, name, mentioned, stray, rfl⟩
  rw [hmem]
  cases reads with
  | fieldRule listed => exact .inl ⟨_, _, listed, List.mem_append_left _ (hstray rfl)⟩
  | formRule listed applies =>
    exact .inr (.inl ⟨_, _, listed, List.mem_append_left _ (hstray applies)⟩)
  | field listed required => exact .inr (.inr (.inl ⟨_, _, listed, hstray required⟩))
  | @businessRule n rule _ listed conditions =>
    refine .inr (.inr (.inr (.inl ?_)))
    rw [mem_businessRuleIssues hbusiness]
    refine ⟨n, rule, listed, .inl ?_⟩
    rw [Nat.zero_add]
    exact hstray conditions
  | @skip w s _ inWorkflow listed skips =>
    obtain ⟨ids, -, hissues⟩ := workflowIssues_eq_ok inWorkflow hworkflow
    refine .inr (.inr (.inr (.inr (hissues.mpr (.inl ⟨s, listed, ?_⟩)))))
    exact mem_stepIssues.mpr (.inr (.inl (hstray skips)))
  | @guard w s a _ inWorkflow listed offered guards =>
    obtain ⟨ids, -, hissues⟩ := workflowIssues_eq_ok inWorkflow hworkflow
    refine .inr (.inr (.inr (.inr (hissues.mpr (.inl ⟨s, listed, ?_⟩)))))
    exact mem_stepIssues.mpr (.inr (.inr ⟨a, offered, hstray guards⟩))

theorem mem_issues_iff (h : t.issues = .ok issues) : i ∈ issues ↔ t.Finds i := by
  refine ⟨finds_of_mem_issues h, fun hfinds => ?_⟩
  cases hfinds with
  | reference reads mentioned stray => exact mem_issues_of_reads h reads mentioned stray
  | @target n k rule a listed acts stray =>
    obtain ⟨_, _, -, -, hmem⟩ := issues_eq_ok h
    refine hmem.mpr (.inl ⟨n, rule, listed, List.mem_append_right _ ?_⟩)
    simp only [List.mem_map, List.mem_filter, Prod.exists, List.mem_zipIdx_iff_getElem?]
    exact ⟨a, k, ⟨acts, by simpa using stray⟩, rfl⟩
  | @field n rule id listed about stray =>
    obtain ⟨_, _, -, -, hmem⟩ := issues_eq_ok h
    refine hmem.mpr (.inr (.inl ⟨n, rule, listed, List.mem_append_right _ ?_⟩))
    exact List.mem_map.mpr ⟨id, List.mem_filter.mpr ⟨about, by simpa using stray⟩, rfl⟩
  | @problem n rule problems problem listed advised mentioned =>
    obtain ⟨business, _, hbusiness, -, hmem⟩ := issues_eq_ok h
    refine hmem.mpr (.inr (.inr (.inr (.inl ?_))))
    rw [mem_businessRuleIssues hbusiness]
    refine ⟨n, rule, listed, .inr ⟨problems, advised, problem, mentioned, ?_⟩⟩
    rw [Nat.zero_add]
  | @unreachable w s inWorkflow listed apart =>
    obtain ⟨_, workflow, -, hworkflow, hmem⟩ := issues_eq_ok h
    obtain ⟨ids, hids, hissues⟩ := workflowIssues_eq_ok inWorkflow hworkflow
    refine hmem.mpr (.inr (.inr (.inr (.inr (hissues.mpr (.inl ⟨s, listed, ?_⟩))))))
    exact mem_stepIssues.mpr (.inl ⟨fun hid => apart ((hids s.id).mp hid), rfl⟩)
  | noEnd inWorkflow apart =>
    obtain ⟨_, workflow, -, hworkflow, hmem⟩ := issues_eq_ok h
    obtain ⟨ids, hids, hissues⟩ := workflowIssues_eq_ok inWorkflow hworkflow
    refine hmem.mpr (.inr (.inr (.inr (.inr (hissues.mpr (.inr ⟨?_, rfl⟩))))))
    exact fun s hs hkind hid => apart s hs hkind ((hids s.id).mp hid)

theorem exists_workflowIssues : ∃ issues, t.workflowIssues = .ok issues := by
  cases hw : t.workflow with
  | none => exact ⟨[], by rw [workflowIssues, hw]; rfl⟩
  | some w =>
    obtain ⟨ids, hids, -⟩ := w.exists_reachable
    simp only [workflowIssues, hw, hids, Work.except_ok_bind]
    exact ⟨_, rfl⟩

theorem businessRuleIssues_failsBy (n : Nat) (rules : List BusinessRule) :
    FailsBy (t.businessRuleIssues n rules) fun f => ∃ rule ∈ rules, rule.problems = .error f := by
  induction rules generalizing n with
  | nil => exact .never [] fun f => by simp
  | cons rule rest ih =>
    have hproblems : FailsBy rule.problems fun f => rule.problems = .error f := .of_iff fun _ => .rfl
    exact (hproblems.bind fun problems _ => (ih (n + 1)).bind_ok fun later _ =>
      ⟨_, rfl⟩).congr fun f => by simp

theorem review_failsBy :
    FailsBy t.review fun f => ∃ rule ∈ t.businessRules, rule.problems = .error f := by
  have hissues : FailsBy t.issues fun f => ∃ rule ∈ t.businessRules, rule.problems = .error f := by
    refine (businessRuleIssues_failsBy 0 t.businessRules).bind_ok fun business _ => ?_
    obtain ⟨workflow, hworkflow⟩ := t.exists_workflowIssues
    rw [hworkflow]
    exact ⟨_, rfl⟩
  exact hissues.bind_ok fun issues _ => ⟨_, rfl⟩

theorem exists_review (h : ∀ rule ∈ t.businessRules, ∃ problems, rule.problems = .ok problems) :
    ∃ r, t.review = .ok r := by
  refine review_failsBy.exists_ok_iff.mpr ?_
  rintro f ⟨rule, member, hfails⟩
  obtain ⟨problems, hproblems⟩ := h rule member
  rw [hfails] at hproblems
  cases hproblems

/-- A review is made of the issues: errors are those with which a template cannot be used. -/
theorem mem_review_iff (h : t.review = .ok r) :
    (i ∈ r.errors ↔ t.Finds i ∧ i.isError = true) ∧
      (i ∈ r.warnings ↔ t.Finds i ∧ i.isError = false) := by
  simp only [review, Work.except_bind_eq_ok_iff] at h
  obtain ⟨issues, hissues, h⟩ := h
  cases h
  simp [mem_issues_iff hissues]

end FormTemplate
end Formwork
