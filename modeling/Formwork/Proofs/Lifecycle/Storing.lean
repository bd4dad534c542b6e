import Formwork.Proofs.Lifecycle.Precedence
/-!
# What a form stores

A form that is handed in keeps what was answered. Defaults only fill what is empty, so an answer is
replaced only where a conditional rule says so. What is stored is what was checked, and it is what the
workflow starts with; a form that is not accepted starts nothing.
-/
namespace Formwork

open Calendar

/-! ## Values laid over answers -/

namespace Updates

variable {m : Updates} {data : Entries Value} {field : String}

/-- The values that are set, each for its field. -/
def values (m : Updates) : Entries Value :=
  m.filterMap fun (field, properties) =>
    (Entries.get? Property.value.name properties).map (field, ·)

theorem applyTo_eq_overlay (m : Updates) (data : Entries Value) :
    m.applyTo data = data.overlay m.values := by
  induction m generalizing data with
  | nil => rfl
  | cons e rest ih =>
    obtain ⟨f, properties⟩ := e
    cases hvalue : Entries.get? Property.value.name properties with
    | none =>
      have hrest : applyTo ((f, properties) :: rest) data = applyTo rest data := by
        simp only [applyTo, List.foldl_cons, hvalue]
      rw [hrest, ih]
      simp [values, hvalue]
    | some v =>
      have hrest : applyTo ((f, properties) :: rest) data = applyTo rest (data.insert f v) := by
        simp only [applyTo, List.foldl_cons, hvalue]
      rw [hrest, ih]
      simp [values, hvalue, Entries.overlay]

theorem mem_names_of_values (h : field ∈ m.values.names) : field ∈ Entries.names m := by
  obtain ⟨e, he, rfl⟩ := List.mem_map.mp h
  obtain ⟨⟨f, properties⟩, hmem, hvalue⟩ := List.mem_filterMap.mp he
  obtain ⟨v, -, rfl⟩ := Option.map_eq_some_iff.mp hvalue
  exact List.mem_map.mpr ⟨_, hmem, rfl⟩

/-- Of a map in which no field comes twice, the values can be looked up one by one. -/
theorem values_spec (field : String) (h : (Entries.names m).Nodup) :
    m.values.names.Nodup ∧ m.values.get? field = m.get? field Property.value.name := by
  induction m with
  | nil => exact ⟨List.nodup_nil, rfl⟩
  | cons e rest ih =>
    obtain ⟨f, properties⟩ := e
    obtain ⟨hf, hrest⟩ := List.nodup_cons.mp h
    obtain ⟨hnodup, hget⟩ := ih hrest
    have hnew : f ∉ (values rest).names := fun hmem => hf (mem_names_of_values hmem)
    have hlookup : get? ((f, properties) :: rest) field Property.value.name =
        if f = field then Entries.get? Property.value.name properties
        else get? rest field Property.value.name := by
      by_cases hfield : f = field <;> simp [get?, Entries.get?, hfield]
    rw [hlookup]
    cases hvalue : Entries.get? Property.value.name properties with
    | none =>
      have hvalues : values ((f, properties) :: rest) = values rest := by simp [values, hvalue]
      rw [hvalues]
      refine ⟨hnodup, ?_⟩
      split
      · rename_i hfield
        rw [← hfield]
        exact Entries.get?_eq_none_iff.mpr hnew
      · exact hget
    | some v =>
      have hvalues : values ((f, properties) :: rest) = (f, v) :: values rest := by
        simp [values, hvalue]
      rw [hvalues]
      refine ⟨List.nodup_cons.mpr ⟨hnew, hnodup⟩, ?_⟩
      rw [Entries.get?, hget]

theorem get?_applyTo (h : m.Proper) (data : Entries Value) (field : String) :
    (m.applyTo data).get? field =
      (m.get? field Property.value.name).or (data.get? field) := by
  obtain ⟨hnodup, hget⟩ := values_spec field h.fields
  rw [applyTo_eq_overlay, Entries.get?_overlay hnodup, hget]

end Updates

/-! ## What sets a value -/

theorem mem_defaultUpdates {fields : List Field} {c : Context} {u : Update}
    (h : u ∈ defaultUpdates fields c) : ((c.data.get? u.field).getD .null).isEmpty = true := by
  obtain ⟨f, -, hu⟩ := List.mem_filterMap.mp h
  dsimp only at hu
  split at hu
  · cases hu
  · cases hu
  · rename_i hempty _
    split at hu
    · cases hu
    · cases hu
      exact hempty

/-- The rule has an action that sets or clears the value of the field. -/
def FieldRule.SetsValue (r : FieldRule) (field : String) : Prop :=
  ∃ a ∈ r.actions, a.target = field ∧ (a.kind = .setValue ∨ a.kind = .clearValue)

theorem FieldRule.setsValue_of_mem_updates {r : FieldRule} {c : Context} {u : Update}
    {field : String} (h : u ∈ r.updates c) (sets : u.Sets field Property.value.name) :
    r.SetsValue field := by
  obtain ⟨a, ha, rfl⟩ := List.mem_map.mp h
  obtain ⟨hfield, hproperty⟩ := sets
  refine ⟨a, ha, ?_⟩
  cases hkind : a.kind <;>
    simp_all [FieldAction.update, Property.name]

namespace FormTemplate

variable {t : FormTemplate} {c : Context} {effects : RuleEffects} {s : Submission}
  {settings : Settings} {load : Load} {host : Host} {now : Instant} {locale : Option String}
  {ids left : Ids} {o : SubmitOutcome} {field : String} {v : Value}

/-- The context with the defaults of the form filled in. -/
def filledContext (t : FormTemplate) (c : Context) : Context :=
  c.withData (Entries.ofList ((defaultUpdates t.fields c).map fun u => (u.field, u.value)))

/-- A field for which something was answered has another value only where a rule applies that sets
or clears it. -/
theorem exists_rule_of_replaced (h : t.evaluateForm c = .ok effects)
    (answered : c.data.get? field = some v) (nonempty : v.isEmpty = false)
    (replaced : (effects.merged.applyTo c.data).get? field ≠ some v) :
    ∃ r ∈ t.fieldRules, r.active = true ∧ r.conditions.holds (t.filledContext c) = .ok true ∧
      r.SetsValue field := by
  obtain ⟨hown, hcollects⟩ := evaluateForm_collects h
  have hproper : effects.merged.Proper := by
    rw [hcollects.eq_ofList]
    exact Updates.ofList_proper _
  rw [Updates.get?_applyTo hproper, answered] at replaced
  have hset : (effects.merged.get? field Property.value.name).isSome = true := by
    cases hget : effects.merged.get? field Property.value.name with
    | none => exact absurd (by rw [hget]; rfl) replaced
    | some _ => rfl
  obtain ⟨u, hu, hsets⟩ := (hcollects.last field Property.value.name).2.mp hset
  rw [hown, ownUpdates, List.mem_append] at hu
  rcases hu with hdefault | hrule
  · have hempty := mem_defaultUpdates hdefault
    rw [hsets.1, answered, Option.getD_some, nonempty] at hempty
    cases hempty
  · obtain ⟨r, hr, hu⟩ := List.mem_flatMap.mp hrule
    obtain ⟨hmem, hmatched⟩ := List.mem_filter.mp hr
    have happlies := FieldRule.matched_iff.mp hmatched
    unfold FieldRule.applies at happlies
    split at happlies
    · rename_i hactive
      exact ⟨r, hmem, hactive, happlies, FieldRule.setsValue_of_mem_updates hu hsets⟩
    · cases happlies

/-- What handing in a form comes to. It is checked with what it stores; if that is accepted, its
workflow starts with the same, and else nothing happens. -/
theorem submit_cases (h : (t.submit s settings load host now locale).Returns ids o left) :
    ∃ effects, t.evaluateForm (t.contextFor s settings host now locale) = .ok effects ∧
      o.data = effects.merged.applyTo s.data ∧
      Validation.checkForm { settings := settings } ⟨t.fields, o.data, effects.merged,
        { t.contextFor s settings host now locale with data := o.data }⟩ t.formRules =
          .ok o.findings ∧
      o.accepted = o.findings.valid ∧
      (o.accepted = true → ∃ between, (t.startWorkflow? { s with data := o.data, state := none }
        { t.contextFor s settings host now locale with data := o.data } load).Returns ids.skip
          o.transition between) ∧
      (o.accepted = false → o.transition = none ∧ o.results = []) := by
  have hbegins : ∀ between, Work.beginPass.Returns ids () between → between = ids.skip := by
    intro between hbegun
    cases hbegun
    rfl
  simp only [submit, Work.bind_returns_iff, Work.lift_returns_iff] at h
  obtain ⟨_, _, hbegun, effects, _, ⟨heffects, rfl⟩, findings, _, ⟨hfindings, rfl⟩, h⟩ := h
  obtain rfl := hbegins _ hbegun
  refine ⟨effects, heffects, ?_⟩
  split at h
  · rename_i hvalid
    simp only [Work.bind_returns_iff, Work.pure_returns_iff] at h
    obtain ⟨started, between, hstarted, results, _, -, rfl, -⟩ := h
    refine ⟨rfl, hfindings, hvalid.symm, fun _ => ⟨between, hstarted⟩, fun hrejected => ?_⟩
    cases hrejected
  · rename_i hvalid
    obtain ⟨rfl, -⟩ := Work.pure_returns_iff.mp h
    refine ⟨rfl, hfindings, ?_, fun haccepted => ?_, fun _ => ⟨rfl, rfl⟩⟩
    · simpa using hvalid
    · cases haccepted

theorem startWorkflow?_returns {c : Context} {started : Option Transition}
    (h : (t.startWorkflow? s c load).Returns ids started left) :
    (t.workflow = none → started = none) ∧ ∀ w, t.workflow = some w → ∃ transition,
      started = some transition ∧
        (Surroundings.start ⟨w, c, load, t.approval⟩ s).Returns ids transition left := by
  unfold startWorkflow? at h
  split at h
  · rename_i hworkflow
    obtain ⟨rfl, -⟩ := Work.pure_returns_iff.mp h
    refine ⟨fun _ => rfl, fun w hw => ?_⟩
    rw [hworkflow] at hw
    cases hw
  · rename_i w hworkflow
    simp only [Work.bind_returns_iff, Work.pure_returns_iff] at h
    obtain ⟨transition, _, hstarted, rfl, rfl⟩ := h
    refine ⟨fun hnone => ?_, fun w' hw => ?_⟩
    · rw [hworkflow] at hnone
      cases hnone
    · obtain rfl : w = w' := Option.some.inj (hworkflow.symm.trans hw)
      exact ⟨transition, rfl, hstarted⟩

theorem Findings.valid_of_checkForm {v : Validation} {form : FilledForm} {rules : List FormRule}
    {findings : Findings} (h : v.checkForm form rules = .ok findings) :
    findings.valid = findings.errors.isEmpty := by
  simp only [Validation.checkForm, Work.except_bind_eq_ok_iff] at h
  obtain ⟨_, -, _, -, h⟩ := h
  cases h
  rfl

/-- What a form stores when it is handed in: the answers, overlaid with the values that its defaults
and its conditional rules set. An answer is replaced only by a rule. The form is accepted if what is
stored passes the check, and then its workflow starts with what is stored; else nothing happens. -/
theorem submit_stores (h : (t.submit s settings load host now locale).Returns ids o left) :
    ∃ effects c, c = { t.contextFor s settings host now locale with data := o.data } ∧
      t.evaluateForm (t.contextFor s settings host now locale) = .ok effects ∧
      o.data = s.data.overlay effects.merged.values ∧
      (∀ field, o.data.get? field =
        (effects.merged.get? field Property.value.name).or (s.data.get? field)) ∧
      (∀ field v, s.data.get? field = some v → v.isEmpty = false → o.data.get? field ≠ some v →
        ∃ r ∈ t.fieldRules, r.active = true ∧
          r.conditions.holds (t.filledContext (t.contextFor s settings host now locale)) = .ok true ∧
          r.SetsValue field) ∧
      Validation.checkForm { settings := settings } ⟨t.fields, o.data, effects.merged, c⟩
        t.formRules = .ok o.findings ∧
      (o.accepted = true ↔ o.findings.errors = []) ∧
      (o.accepted = true → (t.workflow = none → o.transition = none) ∧
        ∀ w, t.workflow = some w → ∃ started between, o.transition = some started ∧
          (Surroundings.start ⟨w, c, load, t.approval⟩
            { s with data := o.data, state := none }).Returns ids.skip started between) ∧
      (o.accepted = false → o.transition = none ∧ o.results = []) := by
  obtain ⟨effects, heffects, hdata, hfindings, haccepted, hstarts, hrejected⟩ := submit_cases h
  have hproper : effects.merged.Proper := by
    rw [(evaluateForm_collects heffects).2.eq_ofList]
    exact Updates.ofList_proper _
  refine ⟨effects, _, rfl, heffects, ?overlaid, ?valued, ?replaced, hfindings, ?accepted, ?starts,
    hrejected⟩
  case overlaid => rw [hdata, Updates.applyTo_eq_overlay]
  case valued =>
    intro field
    rw [hdata, Updates.get?_applyTo hproper]
  case replaced =>
    intro field v answered nonempty replaced
    rw [hdata] at replaced
    exact exists_rule_of_replaced heffects answered nonempty replaced
  case accepted =>
    rw [haccepted, Findings.valid_of_checkForm hfindings, List.isEmpty_iff]
  case starts =>
    intro accepted
    obtain ⟨between, hstarted⟩ := hstarts accepted
    obtain ⟨hnone, hsome⟩ := startWorkflow?_returns hstarted
    refine ⟨hnone, fun w hw => ?_⟩
    obtain ⟨started, htransition, hreturned⟩ := hsome w hw
    exact ⟨started, between, htransition, hreturned⟩

end FormTemplate
/-! A parcel for which a stage was named, which the conditional rule of its form replaces. -/
namespace Parcel

def named : Submission := { Release.submission none with data := [("stage", .text "held")] }

def submitNamed : Work SubmitOutcome := template.submit named {} {} {} Release.noon none

theorem submitNamed_eq : (submitNamed.answer? {}).map (fun o =>
      (o.accepted, o.transition.isSome, (o.data.get? "stage").bind Loan.text?)) =
    some (true, true, some "checked") := by
  decide +kernel

end Parcel

namespace FormTemplate

/-- The stage of the parcel is stored as the rule sets it, and its workflow starts with that. -/
theorem submit_stores_parcel : ∃ o left, Parcel.submitNamed.Returns {} o left ∧
    (o.data.get? "stage").bind Loan.text? = some "checked" ∧ o.findings.errors = [] ∧
    (∃ r ∈ Parcel.template.fieldRules, r.SetsValue "stage") ∧
    ∃ started, o.transition = some started := by
  obtain ⟨o, ho, hparts⟩ := Option.map_eq_some_iff.mp Parcel.submitNamed_eq
  obtain ⟨left, returned⟩ := Work.answer?_eq_some ho
  simp only [Prod.mk.injEq] at hparts
  obtain ⟨haccepted, -, hstage⟩ := hparts
  obtain ⟨effects, c, -, -, -, -, hreplaced, -, hvalid, hstarts, -⟩ := submit_stores returned
  have hmoved : o.data.get? "stage" ≠ some (.text "held") := by
    intro hheld
    rw [hheld] at hstage
    exact absurd (Option.some.inj hstage) (by decide)
  obtain ⟨r, hr, -, -, hsets⟩ := hreplaced "stage" (.text "held") rfl rfl hmoved
  obtain ⟨started, -, hstarted, -⟩ := (hstarts haccepted).2 Parcel.workflow rfl
  exact ⟨o, left, returned, hstage, hvalid.mp haccepted, ⟨r, hr, hsets⟩, started, hstarted⟩

end FormTemplate
end Formwork
