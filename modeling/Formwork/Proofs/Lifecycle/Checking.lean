import Formwork.Lifecycle.Submit
import Formwork.Proofs.Lifecycle.Reading
/-!
# Forms and the status

A form reads the status of its submission in the conditions of its rules, and where it says when an
answer is required. Without such a condition, what is filled in and what is complained about are the
same at every status.
-/
namespace Formwork

/-! ## Filling in -/

def FieldRule.readsStatus (r : FieldRule) : Bool := r.active && r.conditions.readsStatus

section Rules

variable (context : Context) (status : Option Status)

theorem defaultUpdates_setStatus (fields : List Field) :
    defaultUpdates fields (context.setStatus status) = defaultUpdates fields context := rfl

theorem FieldRule.applying_setStatus {rules : List FieldRule}
    (h : rules.any FieldRule.readsStatus = false) :
    FieldRule.applying (context.setStatus status) rules = FieldRule.applying context rules := by
  induction rules with
  | nil => rfl
  | cons r rest ih =>
    simp only [List.any_cons, Bool.or_eq_false_iff] at h
    have happlies : r.applies (context.setStatus status) = r.applies context := by
      unfold applies
      by_cases hactive : r.active = true
      · have hreads : r.conditions.readsStatus = false := by simpa [readsStatus, hactive] using h.1
        simp only [r.conditions.holds_setStatus context status hreads]
      · simp only [hactive]
        rfl
    simp only [applying, happlies, ih h.2]

theorem applyRules_setStatus {rules : List FieldRule}
    (h : rules.any FieldRule.readsStatus = false) :
    applyRules rules (context.setStatus status) = applyRules rules context := by
  have hupdates (r : FieldRule) :
      r.updates (context.setStatus status) = r.updates context := rfl
  simp only [applyRules, FieldRule.applying_setStatus context status h, hupdates]

end Rules

/-! ## Answers -/

theorem Validator.builtIn_setStatus {name : String} {validator : Validator}
    (h : Validator.builtIn.get? name = some validator) (value : Value) (context : Context)
    (status : Option Status) :
    validator value (context.setStatus status) = validator value context := by
  simp only [builtIn, Entries.get?] at h
  repeat' split at h
  all_goals cases h
  all_goals rfl

def Field.readsStatus (f : Field) : Bool :=
  f.demands.required && f.demands.requiredWhen.any Group.readsStatus

namespace Validation

variable (v : Validation) (context : Context) (status : Option Status)

theorem complainIf_setStatus (reason : Bool) (f : Field) (c : Complaint) (ground : Ground) :
    v.complainIf reason f c (context.setStatus status) ground =
      v.complainIf reason f c context ground := rfl

theorem uploadErrors_setStatus (f : Field) (values : List Value) :
    v.uploadErrors f (context.setStatus status) values = v.uploadErrors f context values := by
  have hfile (es : Entries Value) : v.fileErrors f es (context.setStatus status) =
      v.fileErrors f es context := rfl
  fun_induction v.uploadErrors f context values with
  | case1 => rfl
  | case2 es rest ih => simp only [uploadErrors, hfile, ih]
  | case3 value rest hfile ih => simpa only [uploadErrors] using ih

theorem kindErrors_setStatus (f : Field) (value : Value) :
    v.kindErrors f value (context.setStatus status) = v.kindErrors f value context := by
  have hnumber (x : Float) : v.numberErrors f x (context.setStatus status) =
      v.numberErrors f x context := rfl
  have hlength : v.lengthErrors f value (context.setStatus status) =
      v.lengthErrors f value context := rfl
  have hinstant : value.instant? (context.setStatus status).host.clock =
      value.instant? context.host.clock := rfl
  simp only [kindErrors, hnumber, hlength, hinstant, complainIf_setStatus, uploadErrors_setStatus]

theorem patternErrors_setStatus (f : Field) (value : Value) :
    v.patternErrors f value (context.setStatus status) = v.patternErrors f value context := by
  have hshown (pattern : String) : showsPattern (context.setStatus status).host value pattern =
      showsPattern context.host value pattern := rfl
  simp only [patternErrors, hshown, complainIf_setStatus]

theorem isRequired_setStatus {f : Field} (h : f.readsStatus = false) (override : Option Bool) :
    isRequired f (context.setStatus status) override = isRequired f context override := by
  unfold isRequired
  by_cases hrequired : f.demands.required = true
  · have hreads : f.demands.requiredWhen.any Group.readsStatus = false := by
      simpa [Field.readsStatus, hrequired] using h
    simp only [Group.holds?_setStatus context status hreads]
  · simp only [hrequired]
    rfl

section BuiltIn

variable {v} (hbuiltIn : v.validators = Validator.builtIn)
include hbuiltIn

theorem customErrors_setStatus (f : Field) (name : String) (value : Value) (ground : Ground) :
    v.customErrors f name value (context.setStatus status) ground =
      v.customErrors f name value context ground := by
  unfold customErrors
  cases hknown : v.validators.get? name with
  | none => rfl
  | some validator =>
    rw [hbuiltIn] at hknown
    simp only [Validator.builtIn_setStatus hknown, complainIf_setStatus]

theorem fieldErrors_setStatus {f : Field} (h : f.readsStatus = false) (value : Value)
    (override : Option Bool) :
    v.fieldErrors f value (context.setStatus status) override =
      v.fieldErrors f value context override := by
  simp only [fieldErrors, isRequired_setStatus context status h, complainIf_setStatus,
    kindErrors_setStatus, patternErrors_setStatus, customErrors_setStatus context status hbuiltIn]

end BuiltIn
end Validation

/-! ## Forms -/

def FormRule.readsStatus (r : FormRule) : Bool := r.appliesWhen.any Group.readsStatus

namespace FilledForm

/-- The same form, filled in at another status. -/
def setStatus (form : FilledForm) (status : Option Status) : FilledForm :=
  { form with context := form.context.setStatus status }

variable (form : FilledForm) (status : Option Status)

@[simp] theorem context_setStatus :
    (form.setStatus status).context = form.context.setStatus status := rfl

@[simp] theorem updates_setStatus : (form.setStatus status).updates = form.updates := rfl

@[simp] theorem answer_setStatus (id : String) :
    (form.setStatus status).answer id = form.answer id := rfl

@[simp] theorem isHidden_setStatus (id : String) :
    (form.setStatus status).isHidden id = form.isHidden id := rfl

@[simp] theorem fieldOf_setStatus (id : String) :
    (form.setStatus status).fieldOf id = form.fieldOf id := rfl

end FilledForm

namespace Validation

variable {v : Validation} (form : FilledForm) (status : Option Status)

theorem comparisonErrors_setStatus (r : FormRule) :
    v.comparisonErrors r (form.setStatus status) = v.comparisonErrors r form := by
  have hholds (field : String) (operator : Operator) (value : Value) :
      Condition.holds { field := field, operator := operator, value := value }
        (form.context.setStatus status) =
      Condition.holds { field := field, operator := operator, value := value } form.context :=
    Condition.holds_setStatus form.context status rfl
  simp only [comparisonErrors, FilledForm.isHidden_setStatus, FilledForm.answer_setStatus,
    FilledForm.fieldOf_setStatus, FilledForm.context_setStatus, hholds, complainIf_setStatus]

section BuiltIn

variable (hbuiltIn : v.validators = Validator.builtIn)
include hbuiltIn

theorem shownErrors_setStatus {fields : List Field} (h : fields.any Field.readsStatus = false) :
    v.shownErrors (form.setStatus status) fields = v.shownErrors form fields := by
  induction fields with
  | nil => rfl
  | cons f rest ih =>
    simp only [List.any_cons, Bool.or_eq_false_iff] at h
    simp only [shownErrors, FilledForm.isHidden_setStatus, FilledForm.answer_setStatus,
      FilledForm.updates_setStatus, FilledForm.context_setStatus,
      fieldErrors_setStatus form.context status hbuiltIn h.1, ih h.2]

theorem ruleFieldErrors_setStatus (r : FormRule) (id : String) :
    v.ruleFieldErrors r (form.setStatus status) id = v.ruleFieldErrors r form id := by
  have hbound (f : Field) (value : Value) (ground : Ground) :
      v.boundErrors r f value (form.context.setStatus status) ground =
        v.boundErrors r f value form.context ground := rfl
  have hshown (value : Value) (pattern : String) :
      showsPattern (form.context.setStatus status).host value pattern =
        showsPattern form.context.host value pattern := rfl
  simp only [ruleFieldErrors, FilledForm.isHidden_setStatus, FilledForm.answer_setStatus,
    FilledForm.fieldOf_setStatus, FilledForm.context_setStatus, complainIf_setStatus, hbound,
    hshown, customErrors_setStatus form.context status hbuiltIn]

theorem eachFieldErrors_setStatus (r : FormRule) (ids : List String) :
    v.eachFieldErrors r (form.setStatus status) ids = v.eachFieldErrors r form ids := by
  induction ids with
  | nil => rfl
  | cons id rest ih =>
    simp only [eachFieldErrors, ruleFieldErrors_setStatus form status hbuiltIn, ih]

theorem allRuleErrors_setStatus {rules : List FormRule}
    (h : rules.any FormRule.readsStatus = false) :
    v.allRuleErrors (form.setStatus status) rules = v.allRuleErrors form rules := by
  induction rules with
  | nil => rfl
  | cons r rest ih =>
    simp only [List.any_cons, Bool.or_eq_false_iff] at h
    have hrule : v.ruleErrors r (form.setStatus status) = v.ruleErrors r form := by
      simp only [ruleErrors, FilledForm.context_setStatus,
        Group.holds?_setStatus form.context status h.1, comparisonErrors_setStatus,
        eachFieldErrors_setStatus form status hbuiltIn]
    simp only [allRuleErrors, hrule, ih h.2]

theorem checkForm_setStatus {rules : List FormRule}
    (hfields : form.fields.any Field.readsStatus = false)
    (hrules : rules.any FormRule.readsStatus = false) :
    v.checkForm (form.setStatus status) rules = v.checkForm form rules := by
  let read : FilledForm := { form with context := { form.context with data := form.data } }
  have hshown : v.shownErrors (read.setStatus status) form.fields = v.shownErrors read form.fields :=
    shownErrors_setStatus read status hbuiltIn hfields
  have hbyRules : v.allRuleErrors (read.setStatus status) rules = v.allRuleErrors read rules :=
    allRuleErrors_setStatus read status hbuiltIn hrules
  change (do
      let fields ← v.shownErrors (read.setStatus status) form.fields
      let byRules ← v.allRuleErrors (read.setStatus status) rules
      pure (Findings.ofErrors (fields ++ byRules))) = _
  rw [hshown, hbyRules]
  rfl

end BuiltIn
end Validation

/-! ## Templates -/

namespace FormTemplate

/-- Whether what is filled in, asked or complained about depends on the status. -/
def formReadsStatus (t : FormTemplate) : Bool :=
  t.fieldRules.any FieldRule.readsStatus || t.fields.any Field.readsStatus ||
    t.formRules.any FormRule.readsStatus

variable {t : FormTemplate} (h : t.formReadsStatus = false) (context : Context)
  (status : Option Status)
include h

theorem evaluateForm_setStatus :
    t.evaluateForm (context.setStatus status) = t.evaluateForm context := by
  simp only [formReadsStatus, Bool.or_eq_false_iff] at h
  have hfilled (upper : Entries Value) : (context.setStatus status).withData upper =
      (context.withData upper).setStatus status := rfl
  simp only [evaluateForm, defaultUpdates_setStatus, hfilled, applyRules_setStatus _ status h.1.1]

theorem checkForm_setStatus (settings : Settings) (data : Entries Value) (updates : Updates) :
    Validation.checkForm { settings := settings }
        ⟨t.fields, data, updates, context.setStatus status⟩ t.formRules =
      Validation.checkForm { settings := settings } ⟨t.fields, data, updates, context⟩
        t.formRules := by
  simp only [formReadsStatus, Bool.or_eq_false_iff] at h
  exact Validation.checkForm_setStatus ⟨t.fields, data, updates, context⟩ status rfl h.1.2 h.2

end FormTemplate
end Formwork
