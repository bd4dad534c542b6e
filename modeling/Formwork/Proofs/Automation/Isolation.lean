import Formwork.Proofs.Automation.Acting
/-!
# Which rules run

The rules that run are chosen before the first one acts, so what becomes of actions decides nothing
about them: every rule that is chosen has its result, up to the first that lets none run after it. An
action that fails ends its own rule, and the result of that rule says so.
-/
namespace Formwork

/-! ## The choice -/

namespace BusinessRule

variable {trigger : Trigger} {event : TriggerEvent} {context : Context}
  {rules : List BusinessRule} {r : BusinessRule}

/-- The event is one for which the rule waits: it changes one of the fields that the rule watches, if
it watches any, or leads from and to one of the statuses that it names, if it names any. -/
def Heeds (r : BusinessRule) (event : TriggerEvent) : Prop :=
  (r.trigger = .onFieldChange → r.watchFields = [] ∨ ∃ f ∈ r.watchFields, event.field = some f) ∧
  (r.trigger = .onStatusChange →
    (r.fromStatuses = [] ∨ ∃ s ∈ r.fromStatuses, event.oldStatus = some s) ∧
    (r.toStatuses = [] ∨ ∃ s ∈ r.toStatuses, event.newStatus = some s))

theorem admitsStatus_iff {statuses : List Status} {status : Option Status} :
    admitsStatus statuses status = true ↔
      statuses = [] ∨ ∃ s ∈ statuses, status = some s := by
  cases status <;> simp [admitsStatus]

theorem awaits_iff : r.awaits event = true ↔ r.Heeds event := by
  unfold awaits Heeds
  cases r.trigger with
  | onSubmit => simp
  | onFieldChange => cases event.field <;> simp
  | onStatusChange => simp [admitsStatus_iff]
  | scheduled => simp

theorem called_iff : called trigger event context r = true ↔
    r.active = true ∧ r.trigger = trigger ∧ r.Heeds event ∧
      Group.holds? r.conditions context = .ok true := by
  rw [called, Work.affirmed_iff, runs, ← awaits_iff]
  split
  · rename_i h
    simp only [Bool.and_eq_true, decide_eq_true_eq] at h
    simp [h]
  · rename_i h
    simp only [Bool.and_eq_true, decide_eq_true_eq] at h
    simp only [Except.ok.injEq, Bool.false_eq_true, false_iff]
    exact fun hall => h ⟨⟨hall.1, hall.2.1⟩, hall.2.2.1⟩

/-- It can be told of each rule whether it runs, if its conditions have an answer where they are
asked for. -/
theorem runs_answered (h : r.active = true → r.trigger = trigger → r.Heeds event →
    ∃ b, Group.holds? r.conditions context = .ok b) : ∃ b, r.runs trigger event context = .ok b := by
  unfold runs
  split
  · rename_i hcalled
    simp only [Bool.and_eq_true, decide_eq_true_eq] at hcalled
    exact h hcalled.1.1 hcalled.1.2 (awaits_iff.mp hcalled.2)
  · exact ⟨false, rfl⟩

/-- The order in which chosen rules run: by descending priority, and those of one priority in the
order in which they were. -/
structure RunOrder (chosen order : List BusinessRule) : Prop where
  perm : order.Perm chosen
  descending : order.Pairwise fun a b => b.priority ≤ a.priority
  stable : ∀ p : Int, order.filter (·.priority = p) = chosen.filter (·.priority = p)

theorem mergeSort_runOrder (chosen : List BusinessRule) :
    RunOrder chosen (chosen.mergeSort fun a b => decide (b.priority ≤ a.priority)) := by
  have htrans : ∀ a b c : BusinessRule, decide (b.priority ≤ a.priority) = true →
      decide (c.priority ≤ b.priority) = true → decide (c.priority ≤ a.priority) = true := by
    simp only [decide_eq_true_eq]
    omega
  have htotal : ∀ a b : BusinessRule,
      (decide (b.priority ≤ a.priority) || decide (a.priority ≤ b.priority)) = true := by
    simp only [Bool.or_eq_true, decide_eq_true_eq]
    omega
  have hperm := List.mergeSort_perm chosen fun a b => decide (b.priority ≤ a.priority)
  refine ⟨hperm, ?descending, fun p => ?stable⟩
  case descending => simpa using List.pairwise_mergeSort htrans htotal chosen
  case stable =>
    -- rules of one priority are in order already, so sorting leaves them in their places
    have hsame : (chosen.filter (·.priority = p)).Pairwise
        fun a b => decide (b.priority ≤ a.priority) = true := by
      refine List.pairwise_of_forall_mem_list fun a ha b hb => ?_
      simp only [List.mem_filter, decide_eq_true_eq] at ha hb
      simp [ha.2, hb.2]
    have hsub := (List.sublist_mergeSort htrans htotal hsame List.filter_sublist).filter
      fun r : BusinessRule => decide (r.priority = p)
    rw [List.filter_filter] at hsub
    simp only [Bool.and_self] at hsub
    exact (hsub.eq_of_length (hperm.filter _).length_eq.symm).symm

end BusinessRule

/-! ## What is told of the rules that run -/

namespace Stage

variable {s s' : Stage} {settings : Settings} {rule : BusinessRule} {a : Action}
  {o : ActionOutcome} {ids left : Ids}

/-- An outcome of an action of a rule: what it came to on some stage, or that it failed there. -/
inductive OutcomeOf (settings : Settings) (rule : BusinessRule) (a : Action) :
    ActionOutcome → Prop
  | returned {s : Stage} {ids left : Ids} {o : ActionOutcome}
      (returned : (s.act settings rule a).Returns ids o left) : OutcomeOf settings rule a o
  | failed {s : Stage} {ids : Ids} {failure : Failure}
      (fails : (s.act settings rule a).Fails ids failure) :
      OutcomeOf settings rule a (.failed a failure)

namespace Works

variable {actions : List Action} {done : List ActionOutcome}

theorem outcomes (h : Works settings rule s actions done s') :
    ∃ ran unrun, actions = ran ++ unrun ∧
      List.Forall₂ (OutcomeOf settings rule) ran done ∧
      ((∀ o ∈ done, o.success = true) → unrun = []) := by
  induction h with
  | done => exact ⟨[], [], rfl, .nil, fun _ => rfl⟩
  | @acted _ _ a _ _ _ _ _ returned _ ih =>
    obtain ⟨ran, unrun, rfl, hran, hall⟩ := ih
    exact ⟨a :: ran, unrun, rfl, .cons (.returned returned) hran,
      fun successes => hall (List.forall_mem_cons.mp successes).2⟩
  | @failed _ a rest _ _ fails =>
    refine ⟨[a], rest, rfl, .cons (.failed fails) .nil, fun successes => ?_⟩
    cases successes _ List.mem_cons_self

theorem early (h : Works settings rule s actions done s') :
    ∀ o ∈ done.dropLast, o.success = true := by
  induction h with
  | done => simp
  | @acted _ _ _ _ _ later _ _ returned _ ih =>
    cases later with
    | nil => simp
    | cons next later =>
      rw [List.dropLast_cons_cons]
      exact List.forall_mem_cons.mpr ⟨(act_success returned).1, ih⟩
  | failed _ => simp

theorem told (h : Works settings rule s actions done s') :
    ∀ o ∈ done, o.success = false → o.error.isSome = true := by
  induction h with
  | done => simp
  | acted returned _ ih =>
    refine List.forall_mem_cons.mpr ⟨fun hfailed => ?_, ih⟩
    rw [(act_success returned).1] at hfailed
    cases hfailed
  | failed _ => simp [ActionOutcome.failed]

end Works
end Stage

namespace RuleResult

variable {settings : Settings} {trigger : Trigger} {rule : BusinessRule}
  {outcomes : List ActionOutcome}

theorem of_success_iff (rule : BusinessRule) (trigger : Trigger)
    (told : ∀ o ∈ outcomes, o.success = false → o.error.isSome = true) :
    (of rule trigger outcomes).success = true ↔ ∀ o ∈ outcomes, o.success = true := by
  unfold of
  cases hfound : outcomes.find? fun o => !o.success with
  | none => simpa using hfound
  | some o =>
    have hfailed : o.success = false := by simpa using List.find?_some hfound
    have hmem := List.mem_of_find?_eq_some hfound
    obtain ⟨text, htext⟩ := Option.isSome_iff_exists.mp (told o hmem hfailed)
    simp only [Option.bind_some, htext, Option.isNone_some, Bool.false_eq_true, false_iff]
    intro hall
    rw [hall o hmem] at hfailed
    cases hfailed

/-- What a result tells of its rule: the outcomes of a first part of its actions, of which all but
the last have succeeded. If that one has failed, so has the rule, and none of its actions was tried
behind it; else all of them have been carried out. -/
structure Records (settings : Settings) (trigger : Trigger) (rule : BusinessRule)
    (result : RuleResult) : Prop where
  id : result.rule = rule.id
  cause : result.trigger = trigger
  outcomes : ∃ ran unrun, rule.actions = ran ++ unrun ∧
    List.Forall₂ (Stage.OutcomeOf settings rule) ran result.actions ∧
    (result.success = true → unrun = [])
  early : ∀ o ∈ result.actions.dropLast, o.success = true
  success : result.success = false ↔
    ∃ o, result.actions.getLast? = some o ∧ o.success = false

theorem of_records {s s' : Stage} (h : Stage.Works settings rule s rule.actions outcomes s') :
    Records settings trigger rule (of rule trigger outcomes) := by
  have hsuccess := of_success_iff rule trigger h.told
  refine ⟨rfl, rfl, ?outcomes, h.early, ?success⟩
  case outcomes =>
    obtain ⟨ran, unrun, hactions, hran, hall⟩ := h.outcomes
    exact ⟨ran, unrun, hactions, hran, fun success => hall (hsuccess.mp success)⟩
  case success =>
    rw [← Bool.not_eq_true, hsuccess]
    change ¬ (∀ o ∈ outcomes, o.success = true) ↔ ∃ o, outcomes.getLast? = some o ∧ o.success = false
    have hearly := h.early
    rcases List.eq_nil_or_concat outcomes with rfl | ⟨init, o, rfl⟩
    · simp
    · rw [List.concat_eq_append, List.dropLast_concat] at hearly
      rw [List.concat_eq_append, List.getLast?_concat, List.forall_mem_append,
        List.forall_mem_singleton, and_iff_right hearly, Bool.not_eq_true]
      simp

theorem map_rule_eq {running : List BusinessRule} {results : List RuleResult}
    (h : List.Forall₂ (Records settings trigger) running results) :
    results.map (·.rule) = running.map (·.id) := by
  induction h with
  | nil => rfl
  | cons hfirst _ ih => rw [List.map_cons, List.map_cons, hfirst.id, ih]

theorem Records.fails {result : RuleResult} (h : Records settings trigger rule result)
    {o : ActionOutcome} (ho : o ∈ result.actions) (failed : o.success = false) :
    result.success = false ∧ result.actions.getLast? = some o := by
  have hlast : result.actions.getLast? = some o := by
    have hearly := h.early
    rcases List.eq_nil_or_concat result.actions with hnil | ⟨init, last, hconcat⟩
    · rw [hnil] at ho
      cases ho
    · rw [hconcat, List.concat_eq_append] at ho hearly ⊢
      rw [List.dropLast_concat] at hearly
      rw [List.getLast?_concat]
      rcases List.mem_append.mp ho with hinit | ho
      · rw [hearly o hinit] at failed
        cases failed
      · rw [List.mem_singleton.mp ho]
  exact ⟨h.success.mpr ⟨o, hlast, failed⟩, hlast⟩

theorem fails_within {running : List BusinessRule} {results : List RuleResult}
    (h : List.Forall₂ (Records settings trigger) running results) :
    ∀ result ∈ results, ∀ o ∈ result.actions, o.success = false →
      result.success = false ∧ result.actions.getLast? = some o := by
  induction h with
  | nil => simp
  | cons hfirst _ ih =>
    exact List.forall_mem_cons.mpr ⟨fun _ ho failed => hfirst.fails ho failed, ih⟩

end RuleResult

theorem Stage.Runs.records {settings : Settings} {trigger : Trigger} {s s' : Stage}
    {running : List BusinessRule} {results : List RuleResult}
    (h : Runs settings trigger s running results s') :
    List.Forall₂ (RuleResult.Records settings trigger) running results := by
  induction h with
  | done => exact .nil
  | ran works _ ih => exact .cons (RuleResult.of_records works) ih

namespace BusinessRule

theorem evaluate_of_select {rules selected : List BusinessRule} {trigger : Trigger}
    {event : TriggerEvent} {stage : Stage}
    (h : select rules trigger event stage.context = .ok selected) (settings : Settings) :
    evaluate rules trigger event settings stage =
      ExceptT.lift (Stage.runAll settings trigger selected stage) := by
  rw [evaluate, h, Work.lift_ok_bind]

/-- Which rules run does not depend on what fails. If the conditions of the rules that an event calls
for have answers, there is a result of each rule that is called for and whose conditions hold in the
context that is given, in the order in which they run, up to the first that lets none run after it.
They run one after another, each on the stage that the one before it left, and each result tells of
its rule what became of it. -/
theorem evaluate_isolates {rules : List BusinessRule} {trigger : Trigger} {event : TriggerEvent}
    {stage : Stage}
    (answered : ∀ r ∈ rules, r.active = true → r.trigger = trigger → r.Heeds event →
      ∃ b, Group.holds? r.conditions stage.context = .ok b)
    (settings : Settings) (ids : Ids) :
    ∃ results left order,
      (evaluate rules trigger event settings stage).Returns ids results left ∧
      (∀ r, called trigger event stage.context r = true ↔
        r.active = true ∧ r.trigger = trigger ∧ r.Heeds event ∧
          Group.holds? r.conditions stage.context = .ok true) ∧
      RunOrder (rules.filter (called trigger event stage.context)) order ∧
      results.map (·.rule) = (upToStop order).map (·.id) ∧
      (∃ last, Stage.Runs settings trigger stage (upToStop order) results last) ∧
      List.Forall₂ (RuleResult.Records settings trigger) (upToStop order) results := by
  have hselected := select_eq_ok_iff.mpr ⟨fun r hr => runs_answered (answered r hr), rfl⟩
  have hreturned : ∃ results left,
      (evaluate rules trigger event settings stage).Returns ids results left := by
    rw [evaluate_of_select hselected settings]
    exact ⟨_, _, Work.state_returns_iff.mpr rfl⟩
  obtain ⟨results, left, hreturned⟩ := hreturned
  obtain ⟨selected, last, hselected', hruns⟩ := evaluate_runs hreturned
  rw [hselected, Except.ok.injEq] at hselected'
  subst hselected'
  exact ⟨results, left, _, hreturned, fun _ => called_iff, mergeSort_runOrder _,
    RuleResult.map_rule_eq hruns.records, ⟨last, hruns⟩, hruns.records⟩

end BusinessRule

/-! Two rules on a form that is in no workflow: the first to run wants to complete it and fails, the
other one takes a note. -/
namespace Mishap

def rule (id : String) (priority : Int) (deeds : List Deed) : BusinessRule :=
  { id := id, name := none, trigger := .scheduled, conditions := none,
    actions := deeds.map fun deed => ⟨none, deed⟩, priority := priority, active := true,
    stops := false, watchFields := [], fromStatuses := [], toStatuses := [] }

def rules : List BusinessRule :=
  [rule "complete" 1 [.changeStatus .completed, .setField "stage" (.text "completed")],
    rule "note" 0 [.setField "stage" (.text "noted")]]

def stage : Stage := { context := .ofNow ⟨43200000000, Calendar.halfDay_lt_microCount⟩ }

def pass : Work (List RuleResult) :=
  BusinessRule.evaluate rules .scheduled { trigger := .scheduled } {} stage

theorem select_eq : BusinessRule.select rules .scheduled { trigger := .scheduled } stage.context =
    .ok rules :=
  congrArg Except.ok (List.mergeSort_of_pairwise (by decide))

theorem pass_eq : (pass.answer? {}).map (·.map fun r => (r.rule, r.success, r.actions.length)) =
    some [("complete", false, 1), ("note", true, 1)] := by
  rw [pass, BusinessRule.evaluate_of_select select_eq]
  decide +kernel

end Mishap

namespace BusinessRule

/-- The note is taken, whatever became of the rule before it. -/
theorem evaluate_isolates_mishap : ∃ results left order,
    Mishap.pass.Returns {} results left ∧
    results.map (fun r => (r.rule, r.success, r.actions.length)) =
      [("complete", false, 1), ("note", true, 1)] ∧
    RunOrder (Mishap.rules.filter
      (called .scheduled { trigger := .scheduled } Mishap.stage.context)) order ∧
    List.Forall₂ (RuleResult.Records {} .scheduled) (upToStop order) results := by
  have answered : ∀ r ∈ Mishap.rules, r.active = true → r.trigger = .scheduled →
      r.Heeds { trigger := .scheduled } →
      ∃ b, Group.holds? r.conditions Mishap.stage.context = .ok b := by
    simp [Mishap.rules, Mishap.rule, Group.holds?]
  obtain ⟨results, left, order, hreturned, -, horder, -, -, hrecords⟩ :=
    evaluate_isolates answered {} {}
  obtain ⟨found, hfound, hparts⟩ := Option.map_eq_some_iff.mp Mishap.pass_eq
  obtain ⟨_, hfound⟩ := Work.answer?_eq_some hfound
  obtain ⟨rfl, -⟩ := hreturned.unique hfound
  exact ⟨results, left, order, hreturned, hparts, horder, hrecords⟩

end BusinessRule
end Formwork
