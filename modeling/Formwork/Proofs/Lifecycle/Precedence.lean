import Formwork.Lifecycle.Submit
import Formwork.Proofs.Field.Incremental
import Formwork.Proofs.Workflow.Errands
/-!
# Which update counts

Updates are collected in several places while a form is handed in: from the defaults and the
conditional rules of the form, from the errands along the way of its workflow, and from the business
rules. Each place merges what it collects, and the answer merges what the places hand on. All of it
comes to one list of updates that are carried out one after another, of which the last one counts.
-/
namespace Formwork

open Calendar

/-! ## Merging -/

namespace Updates

/-- What it is to merge maps that are given, or are missing: a group of them can be merged first,
what is missing or empty does not matter, a map by itself stays as it is, and a property has the
value of the last map that has one for it. -/
structure MergeLaws : Prop where
  regroup : ∀ before group after : List (Option Updates),
    mergeGiven (before ++ some (mergeGiven group) :: after) =
      mergeGiven (before ++ group ++ after)
  missing : ∀ before after : List (Option Updates),
    mergeGiven (before ++ none :: after) = mergeGiven (before ++ after)
  empty : ∀ before after : List (Option Updates),
    mergeGiven (before ++ some [] :: after) = mergeGiven (before ++ after)
  alone : ∀ m : Updates, m.Proper → mergeGiven [some m] = m
  last : ∀ (maps : List (Option Updates)) (field property : String) (v : Value),
    (∀ m, some m ∈ maps → m.Proper) → ((mergeGiven maps).get? field property = some v ↔
      ∃ before m after, maps = before ++ some m :: after ∧ m.get? field property = some v ∧
        ∀ later, some later ∈ after → later.get? field property = none)

theorem mergeLaws : MergeLaws where
  regroup := mergeGiven_regroup
  missing := mergeGiven_none
  empty before after := by
    have hregrouped := mergeGiven_regroup before [] after
    rwa [List.append_nil] at hregrouped
  alone _ := mergeAll_singleton
  last _ _ _ _ := mergeGiven_eq_some_iff

/-- The map is what merging the maps of each of the updates comes to. -/
def Collects (m : Updates) (us : List Update) : Prop := m = mergeAll (us.map single)

theorem Collects.eq_ofList {m : Updates} {us : List Update} (h : m.Collects us) : m = ofList us :=
  h.trans (ofList_eq_mergeAll us).symm

theorem ofList_collects (us : List Update) : (ofList us).Collects us := ofList_eq_mergeAll us

theorem mergeAll_collects {maps : List Updates} {lists : List (List Update)}
    (h : List.Forall₂ Collects maps lists) : (mergeAll maps).Collects lists.flatten := by
  have hmaps : maps = lists.map ofList := by
    induction h with
    | nil => rfl
    | cons hhead _ ih => rw [List.map_cons, ← ih, hhead.eq_ofList]
  rw [hmaps, mergeAll_ofList]
  exact ofList_collects _

theorem Collects.last {m : Updates} {us : List Update} (h : m.Collects us)
    (field property : String) :
    (∀ v, m.get? field property = some v ↔
      ∃ before u after, us = before ++ u :: after ∧ u.Sets field property ∧ u.value = v ∧
        ∀ later ∈ after, ¬ later.Sets field property) ∧
    ((m.get? field property).isSome = true ↔ ∃ u ∈ us, u.Sets field property) := by
  rw [h.eq_ofList]
  exact ⟨fun _ => get?_ofList_eq_some_iff, get?_ofList_isSome_iff⟩

end Updates

/-! ## Where updates are collected -/

/-- The updates of those conditional rules that apply in a context. -/
def FieldRule.updatesOf (rules : List FieldRule) (c : Context) : List Update :=
  (rules.filter (·.matched c)).flatMap (·.updates c)

theorem applyRules_collects {rules : List FieldRule} {c : Context} {effects : RuleEffects}
    (h : applyRules rules c = .ok effects) :
    effects.updates = FieldRule.updatesOf rules c ∧ effects.merged.Collects effects.updates := by
  have hall := FieldRule.applyRules_returns_iff.mp ⟨effects, h⟩
  have happlying := FieldRule.applying_eq_ok_iff.mpr ⟨hall, rfl⟩
  rw [applyRules, happlying] at h
  have heffects := Except.ok.inj h
  rw [← heffects]
  exact ⟨rfl, Updates.ofList_collects _⟩

/-- The updates of a rule's result, in their order. -/
def RuleResult.changes (r : RuleResult) : List Update := r.actions.filterMap (·.update)

theorem RuleResult.updates_collects (r : RuleResult) : r.updates.Collects r.changes :=
  Updates.ofList_collects _

namespace FormTemplate

variable {t : FormTemplate} {c : Context} {effects : RuleEffects}

/-- What a form sets by itself in a context: its defaults, and then what its conditional rules set
with these filled in. -/
def ownUpdates (t : FormTemplate) (c : Context) : List Update :=
  let defaults := defaultUpdates t.fields c
  defaults ++ FieldRule.updatesOf t.fieldRules
    (c.withData (Entries.ofList (defaults.map fun u => (u.field, u.value))))

theorem evaluateForm_collects (h : t.evaluateForm c = .ok effects) :
    effects.updates = t.ownUpdates c ∧ effects.merged.Collects effects.updates := by
  simp only [evaluateForm, Work.except_bind_eq_ok_iff] at h
  obtain ⟨applied, happlied, h⟩ := h
  simp only [pure, Except.pure, Except.ok.injEq] at h
  subst h
  obtain ⟨hupdates, hcollects⟩ := applyRules_collects happlied
  refine ⟨by rw [ownUpdates, hupdates], ?_⟩
  have hparts := Updates.mergeAll_collects
    (.cons (Updates.ofList_collects (defaultUpdates t.fields c)) (.cons hcollects .nil))
  simpa using hparts

/-- What the errands at a start of the form's workflow set: nothing without a workflow, and else what
those along the hops set of which the transition tells. -/
inductive StartSets (t : FormTemplate) (c : Context) : Option Transition → List Update → Prop
  | none (still : t.workflow = none) : StartSets t c none []
  | some {w : Workflow} {started : Transition} {hops : List Hop} (moves : t.workflow = some w)
      (tells : started.Tells w [] [] hops) : StartSets t c (some started)
        ((w.start.entering :: hops.flatMap Hop.errands).flatMap (·.updates c))

theorem startWorkflow?_collects {s : Submission} {load : Load} {ids left : Ids}
    {started : Option Transition} (h : (t.startWorkflow? s c load).Returns ids started left) :
    ∃ lists, List.Forall₂ Updates.Collects (started.map (·.updates)).toList lists ∧
      t.StartSets c started lists.flatten := by
  unfold startWorkflow? at h
  split at h
  · rename_i hworkflow
    obtain ⟨rfl, -⟩ := Work.pure_returns_iff.mp h
    exact ⟨[], .nil, .none hworkflow⟩
  · rename_i w hworkflow
    simp only [Work.bind_returns_iff, Work.pure_returns_iff] at h
    obtain ⟨transition, _, hstarted, rfl, -⟩ := h
    obtain ⟨hops, haccounts⟩ := Surroundings.start_accounts hstarted
    have hsets : t.StartSets c (some transition) _ := .some hworkflow haccounts.recounted
    exact ⟨[_], .cons haccounts.updates .nil, by simpa using hsets⟩

theorem submit_collects {s : Submission} {settings : Settings} {load : Load} {host : Host}
    {now : Instant} {locale : Option String} {ids left : Ids} {o : SubmitOutcome}
    (h : (t.submit s settings load host now locale).Returns ids o left)
    (accepted : o.accepted = true) :
    ∃ started,
      t.StartSets { t.contextFor s settings host now locale with data := o.data } o.transition
        started ∧
      o.updates.Collects (t.ownUpdates (t.contextFor s settings host now locale) ++ started ++
        o.results.flatMap (·.changes)) := by
  simp only [submit, Work.bind_returns_iff, Work.lift_returns_iff] at h
  obtain ⟨_, _, -, effects, _, ⟨heffects, -⟩, findings, _, -, h⟩ := h
  split at h
  · simp only [Work.bind_returns_iff, Work.pure_returns_iff] at h
    obtain ⟨started, _, hstarted, results, _, -, rfl, -⟩ := h
    obtain ⟨hown, hmerged⟩ := evaluateForm_collects heffects
    obtain ⟨lists, hlists, hsets⟩ := startWorkflow?_collects hstarted
    have hresults : List.Forall₂ Updates.Collects (results.map (·.updates))
        (results.map (·.changes)) := by
      rw [List.forall₂_map_left_iff, List.forall₂_map_right_iff, List.forall₂_same]
      exact fun r _ => r.updates_collects
    have hall := Updates.mergeAll_collects (.cons hmerged (List.rel_append hlists hresults))
    refine ⟨lists.flatten, hsets, ?_⟩
    rw [List.flatten_cons, List.flatten_append, ← List.append_assoc, hown] at hall
    exact hall
  · obtain ⟨rfl, -⟩ := Work.pure_returns_iff.mp h
    cases accepted

end FormTemplate

theorem Workflow.Serves.collects {w : Workflow} {c : Context} {s : Submission}
    {call : Option Operation} {before : List HistoryEvent} {t : Transition}
    (served : w.Serves c s call before t) : ∃ told hops, t.Tells w before told hops ∧
      t.updates.Collects ((w.opening call ++ hops.flatMap Hop.errands).flatMap (·.updates c)) := by
  cases served with
  | started inWorkflow inContext returned =>
    subst inWorkflow inContext
    obtain ⟨hops, haccounts⟩ := Surroundings.start_accounts returned
    exact ⟨[], hops, haccounts.recounted, haccounts.updates⟩
  | performed inWorkflow inContext onSubmission onState returned =>
    subst inWorkflow inContext onSubmission
    obtain ⟨told, hops, -, haccounts⟩ := WorkflowRequest.perform_accounts returned onState
    exact ⟨told, hops, haccounts.recounted, haccounts.updates⟩

namespace FormTemplate

/-- The update that was carried out last counts. To merge maps is to let the last of them count, in
whatever groups they are merged; and conditional rules, forms, calls of a workflow and results of
business rules each collect their updates in the order in which they are carried out. So a form that
is accepted has for a property of a field the value of the last update that sets it, where its
defaults come first, then its conditional rules in their order, then the errands at the start of its
workflow, and then its business rules; and it has one if and only if there is such an update. -/
theorem last_update_wins :
    Updates.MergeLaws ∧
    (∀ rules c effects, applyRules rules c = .ok effects →
      effects.updates = FieldRule.updatesOf rules c ∧ effects.merged.Collects effects.updates) ∧
    (∀ (t : FormTemplate) c effects, t.evaluateForm c = .ok effects →
      effects.updates = t.ownUpdates c ∧ effects.merged.Collects effects.updates) ∧
    (∀ (w : Workflow) c s call before (transition : Transition),
      w.Serves c s call before transition →
      ∃ told hops, transition.Tells w before told hops ∧ transition.updates.Collects
        ((w.opening call ++ hops.flatMap Hop.errands).flatMap (·.updates c))) ∧
    (∀ r : RuleResult, r.updates.Collects r.changes) ∧
    ∀ (t : FormTemplate) s settings load host now locale ids left (o : SubmitOutcome),
      (t.submit s settings load host now locale).Returns ids o left → o.accepted = true →
      ∃ started executed,
        t.StartSets { t.contextFor s settings host now locale with data := o.data } o.transition
          started ∧
        executed = t.ownUpdates (t.contextFor s settings host now locale) ++ started ++
          o.results.flatMap (·.changes) ∧
        ∀ field property,
          (∀ v, o.updates.get? field property = some v ↔
            ∃ before u after, executed = before ++ u :: after ∧ u.Sets field property ∧
              u.value = v ∧ ∀ later ∈ after, ¬ later.Sets field property) ∧
          ((o.updates.get? field property).isSome = true ↔
            ∃ u ∈ executed, u.Sets field property) := by
  refine ⟨Updates.mergeLaws, fun _ _ _ => applyRules_collects,
    fun _ _ _ => evaluateForm_collects, fun _ _ _ _ _ _ served => served.collects,
    RuleResult.updates_collects, ?_⟩
  intro t s settings load host now locale ids left o returned accepted
  obtain ⟨started, hsets, hcollects⟩ := submit_collects returned accepted
  exact ⟨started, _, hsets, rfl, hcollects.last⟩

end FormTemplate

/-! A parcel whose stage is set by a default, by a conditional rule, on entry into its workflow and
by a business rule. -/
namespace Parcel

open Release (noon)

def intake : Step :=
  { Release.work with id := "intake", kind := .start, onEnter := [Loan.stage "taken"] }

def workflow : Workflow where
  steps := [intake]
  startId := none
  sound := by decide

def template : FormTemplate :=
  { id := "parcel", fields := [{ id := "stage", defaultValue := .text "new" }],
    fieldRules := [{ id := "check", name := none, conditions := {}, active := true,
                     actions := [{ kind := .setValue, target := "stage",
                                   value := .text "checked" }] }],
    workflow := some workflow,
    businessRules := [{ id := "file", name := none, trigger := .onSubmit, conditions := none,
                        actions := [Loan.stage "filed"], priority := 0, active := true,
                        stops := false, watchFields := [], fromStatuses := [], toStatuses := [] }] }

def submit : Work SubmitOutcome := template.submit (Release.submission none) {} {} {} noon none

theorem submit_eq : (submit.answer? {}).map (fun o =>
      (o.accepted, (o.updates.get? "stage" "value").bind Loan.text?)) =
    some (true, some "filed") := by
  decide +kernel

end Parcel

namespace FormTemplate

/-- The parcel is filed by the update that was carried out last. -/
theorem last_update_wins_parcel : ∃ o left before u after,
    Parcel.submit.Returns {} o left ∧ o.accepted = true ∧
    (∃ started, Parcel.template.ownUpdates
        (Parcel.template.contextFor (Release.submission none) {} {} Release.noon none) ++ started ++
      o.results.flatMap (·.changes) = before ++ u :: after) ∧
    u.Sets "stage" "value" ∧ Loan.text? u.value = some "filed" ∧
    ∀ later ∈ after, ¬ later.Sets "stage" "value" := by
  obtain ⟨o, hanswer, hparts⟩ := Option.map_eq_some_iff.mp Parcel.submit_eq
  obtain ⟨left, hreturned⟩ := Work.answer?_eq_some hanswer
  simp only [Prod.mk.injEq] at hparts
  obtain ⟨v, hv, htext⟩ := Option.bind_eq_some_iff.mp hparts.2
  obtain ⟨-, -, -, -, -, hsubmit⟩ := last_update_wins
  obtain ⟨started, _, -, rfl, hlast⟩ := hsubmit _ _ _ _ _ _ _ _ _ o hreturned hparts.1
  obtain ⟨before, u, after, hsplit, hsets, rfl, hlater⟩ := ((hlast "stage" "value").1 v).mp hv
  exact ⟨o, left, before, u, after, hreturned, hparts.1, ⟨started, hsplit⟩, hsets, htext, hlater⟩

end FormTemplate
end Formwork
