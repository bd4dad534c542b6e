import Mathlib.Data.List.Nodup
import Formwork.Proofs.Field.Merging
import Formwork.Proofs.Validation.Form
/-!
# Hiding a field

A form passes over what is hidden in three places: the field itself, a rule that compares it with
another one, and each rule that demands something of it. So with a field hidden the findings are
those with the field shown, without the errors of the field and of the rules that compare it, and
none of the others is touched.
-/
namespace Formwork

open Document

/-! ## What a check complains of -/

/-- Every error that a check comes to is of a sort. -/
def Tells (x : Except Failure (List FieldError)) (sort : FieldError → Prop) : Prop :=
  ∀ es, x = .ok es → ∀ e ∈ es, sort e

namespace Tells

variable {x y : Except Failure (List FieldError)} {sort sort' : FieldError → Prop}

theorem mono (h : Tells x sort) (himp : ∀ e, sort e → sort' e) : Tells x sort' :=
  fun es hes e he => himp e (h es hes e he)

theorem ok_nil : Tells (.ok []) sort := by
  intro es hes e he
  cases hes
  cases he

theorem bind {α : Type} {first : Except Failure α} {next : α → Except Failure (List FieldError)}
    (h : ∀ a, first = .ok a → Tells (next a) sort) : Tells (first >>= next) sort := by
  intro es hes
  obtain ⟨a, ha, hnext⟩ := Work.except_bind_eq_ok_iff.mp hes
  exact h a ha es hnext

theorem followed {next : List FieldError → Except Failure (List FieldError)} (hx : Tells x sort)
    (hnext : ∀ first, (∀ e ∈ first, sort e) → Tells (next first) sort) :
    Tells (x >>= next) sort :=
  .bind fun first hfirst => hnext first (hx first hfirst)

theorem pure_append {first later : List FieldError} (hfirst : ∀ e ∈ first, sort e)
    (hlater : ∀ e ∈ later, sort e) : Tells (pure (first ++ later)) sort := by
  intro es hes e he
  cases hes
  exact (List.mem_append.mp he).elim (hfirst e) (hlater e)

theorem append (hx : Tells x sort) (hy : Tells y sort) :
    Tells (do pure ((← x) ++ (← y))) sort :=
  hx.followed fun _ hfirst => hy.followed fun _ hlater => pure_append hfirst hlater

theorem ite {p : Prop} [Decidable p] (hx : p → Tells x sort) (hy : ¬ p → Tells y sort) :
    Tells (if p then x else y) sort := by
  split
  · rename_i hp
    exact hx hp
  · rename_i hp
    exact hy hp

theorem each {α : Type} (all : List α → Except Failure (List FieldError))
    {one : α → Except Failure (List FieldError)} (hnil : all [] = .ok [])
    (hcons : ∀ a rest, all (a :: rest) = (do pure ((← one a) ++ (← all rest)))) {l : List α}
    (hone : ∀ a ∈ l, Tells (one a) sort) : Tells (all l) sort := by
  induction l with
  | nil =>
    rw [hnil]
    exact ok_nil
  | cons a rest ih =>
    rw [hcons]
    exact (hone a List.mem_cons_self).append (ih fun b hb => hone b (List.mem_cons_of_mem a hb))

end Tells

/-- The error is of a field, and of a rule or of none. -/
def FieldError.IsOf (e : FieldError) (field : String) (rule : Option String) : Prop :=
  e.field = field ∧ e.rule = rule

@[simp] theorem FilledForm.fieldOf_id (form : FilledForm) (id : String) :
    (form.fieldOf id).id = id := by
  unfold fieldOf
  cases hfound : form.fields.reverse.find? fun f => f.id == id with
  | none => rfl
  | some f => simpa using List.find?_some hfound

namespace Validation

variable (v : Validation)

theorem complainIf_tells (reason : Bool) (f : Field) (c : Complaint) (context : Context)
    (ground : Ground) :
    Tells (v.complainIf reason f c context ground) (·.IsOf f.id ground.rule) := by
  unfold complainIf
  refine .ite (fun _ => ?_) fun _ => .ok_nil
  refine .bind fun made hmade => ?_
  have hof : made.IsOf f.id ground.rule := by
    unfold Field.complain at hmade
    dsimp only at hmade
    split at hmade
    all_goals
      obtain ⟨message, -, hcomplaint⟩ := Work.except_bind_eq_ok_iff.mp hmade
      cases hcomplaint
      exact ⟨rfl, rfl⟩
  intro es hes e he
  cases hes
  rwa [List.mem_singleton.mp he]

section Answers

variable (f : Field) (context : Context)

theorem complainIf_limit_tells (reason : Bool) (f : Field) (c : Complaint) (context : Context)
    (limit : Option Value) :
    Tells (v.complainIf reason f c context { limit := limit }) (·.IsOf f.id none) :=
  v.complainIf_tells reason f c context { limit := limit }

theorem limitErrors_tells {α : Type} (declared : Option α) (missed : α → Bool) (c : Complaint)
    (write : α → Value) :
    Tells (v.limitErrors f context declared missed c write) (·.IsOf f.id none) := by
  cases declared with
  | none => exact .ok_nil
  | some limit => exact v.complainIf_limit_tells (missed limit) f c context (some (write limit))

theorem numberErrors_tells (x : Float) :
    Tells (v.numberErrors f x context) (·.IsOf f.id none) := by
  rw [numberErrors_eq]
  exact .append (v.limitErrors_tells f context _ _ _ _) (v.limitErrors_tells f context _ _ _ _)

theorem lengthErrors_tells (value : Value) :
    Tells (v.lengthErrors f value context) (·.IsOf f.id none) := by
  cases value with
  | text s =>
    rw [lengthErrors_text]
    exact .append (v.limitErrors_tells f context _ _ _ _) (v.limitErrors_tells f context _ _ _ _)
  | null | bool | int | float | list | map => exact .ok_nil

theorem uploadErrors_tells (values : List Value) :
    Tells (v.uploadErrors f context values) (·.IsOf f.id none) := by
  induction values with
  | nil => exact .ok_nil
  | cons value rest ih =>
    cases value with
    | map es =>
      have hfile : Tells (v.fileErrors f es context) (·.IsOf f.id none) := .bind fun name _ =>
        .append (v.complainIf_limit_tells _ f _ context _) (v.complainIf_limit_tells _ f _ context _)
      exact hfile.append ih
    | null | bool | int | float | text | list => exact ih

theorem kindErrors_tells (value : Value) :
    Tells (v.kindErrors f value context) (·.IsOf f.id none) := by
  unfold kindErrors
  refine .ite (fun _ => .bind fun number _ => ?_) fun _ => .ite (fun _ => ?_) fun _ =>
    .ite (fun _ => ?_) fun _ => .ite (fun _ => .bind fun instant _ => ?_) fun _ => ?_
  · cases number with
    | none => exact v.complainIf_limit_tells _ f _ context _
    | some x => exact v.numberErrors_tells f context x
  · exact v.uploadErrors_tells f context value.options
  · exact v.complainIf_limit_tells _ f _ context _
  · exact v.complainIf_limit_tells _ f _ context _
  · refine (v.lengthErrors_tells f context value).followed fun length hlength => ?_
    have hafter (form : List FieldError) (hform : ∀ e ∈ form, e.IsOf f.id none) :
        Tells (pure (length ++ form)) (·.IsOf f.id none) := .pure_append hlength hform
    dsimp only
    split
    · exact .bind fun found _ => (v.complainIf_limit_tells _ f _ context _).followed hafter
    · exact .bind fun found _ => (v.complainIf_limit_tells _ f _ context _).followed hafter
    · exact Tells.ok_nil.followed hafter

theorem patternErrors_tells (value : Value) :
    Tells (v.patternErrors f value context) (·.IsOf f.id none) := by
  unfold patternErrors
  split
  · exact .ok_nil
  · exact .bind fun shown _ => v.complainIf_tells _ f _ context _

theorem customErrors_tells (name : String) (value : Value) (ground : Ground) :
    Tells (v.customErrors f name value context ground) (·.IsOf f.id ground.rule) := by
  unfold customErrors
  split
  · exact .ok_nil
  · exact .bind fun passes _ => v.complainIf_tells _ f _ context ground

theorem fieldErrors_tells (value : Value) (override : Option Bool) :
    Tells (v.fieldErrors f value context override) (·.IsOf f.id none) := by
  unfold fieldErrors
  refine .ite (fun _ => .ok_nil) fun _ => .ite (fun _ => .bind fun asked _ =>
    v.complainIf_limit_tells _ f _ context _) fun _ => ?_
  refine (v.kindErrors_tells f context value).followed fun kind hkind =>
    (v.patternErrors_tells f context value).followed fun pattern hpattern => ?_
  have hboth (e : FieldError) (he : e ∈ kind ++ pattern) : e.IsOf f.id none :=
    (List.mem_append.mp he).elim (hkind e) (hpattern e)
  have hafter (custom : List FieldError) (hcustom : ∀ e ∈ custom, e.IsOf f.id none) :
      Tells (pure (kind ++ pattern ++ custom)) (·.IsOf f.id none) := .pure_append hboth hcustom
  dsimp only
  split
  · exact Tells.ok_nil.followed hafter
  · exact (v.customErrors_tells f context _ value {}).followed hafter

end Answers

section Rules

variable (r : FormRule) (form : FilledForm)

theorem boundErrors_tells (f : Field) (value : Value) (context : Context) (ground : Ground) :
    Tells (v.boundErrors r f value context ground) (·.IsOf f.id ground.rule) := by
  unfold boundErrors
  refine .bind fun number _ => .bind fun limit _ => ?_
  split
  · exact v.complainIf_tells _ f _ context _
  · exact .ite (fun _ => v.complainIf_tells _ f _ context _) fun _ =>
      v.complainIf_tells _ f _ context _
  · exact .ok_nil

/-- A rule that compares two fields complains of one of them, and only if both are shown. -/
theorem comparisonErrors_tells : Tells (v.comparisonErrors r form) fun e =>
    e.rule = some r.id ∧ e.field ∈ r.fields ∧ form.isHidden e.field = false := by
  unfold comparisonErrors
  split
  · rename_i first second operator hfields _
    refine .ite (fun _ => .ok_nil) fun hshown => .ite (fun _ => .ok_nil) fun _ =>
      .bind fun holds _ => (v.complainIf_tells _ (form.fieldOf first) _ form.context _).mono ?_
    rintro e ⟨hfield, hrule⟩
    rw [Bool.not_eq_true, Bool.or_eq_false_iff] at hshown
    rw [form.fieldOf_id] at hfield
    rw [hfield, hfields]
    exact ⟨hrule, List.mem_cons_self, hshown.1⟩
  · exact .ok_nil

theorem comparisonErrors_of_hidden {id : String} (hid : id ∈ r.fields)
    (h : form.isHidden id = true) : v.comparisonErrors r form = .ok [] := by
  unfold comparisonErrors
  split
  · rename_i first second operator hfields _
    rw [if_pos]
    rw [hfields] at hid
    rcases List.mem_cons.mp hid with rfl | hid
    · rw [h, Bool.true_or]
    · rw [← List.mem_singleton.mp hid, h, Bool.or_true]
  · rfl

theorem ruleFieldErrors_of_hidden {id : String} (h : form.isHidden id = true) :
    v.ruleFieldErrors r form id = .ok [] := by
  unfold ruleFieldErrors
  rw [if_pos h]

theorem ruleFieldErrors_tells (id : String) :
    Tells (v.ruleFieldErrors r form id) (·.IsOf id (some r.id)) := by
  have hid : (form.fieldOf id).id = id := form.fieldOf_id id
  unfold ruleFieldErrors
  dsimp only
  generalize form.fieldOf id = f at hid ⊢
  subst hid
  refine .ite (fun _ => .ok_nil) fun _ => .ite (fun _ => v.complainIf_tells _ f _ form.context _)
    fun _ => .ite (fun _ => .ok_nil) fun _ => ?_
  split
  · exact v.boundErrors_tells r f _ form.context _
  · exact v.boundErrors_tells r f _ form.context _
  · exact .bind fun shown _ => v.complainIf_tells _ f _ form.context _
  · exact .bind fun found _ => v.complainIf_tells _ f _ form.context _
  · exact v.customErrors_tells f form.context _ _ _
  · exact .ok_nil
  · exact .ok_nil

theorem ruleErrors_tells : Tells (v.ruleErrors r form) (form.isHidden ·.field = false) := by
  unfold ruleErrors
  refine .bind fun applies _ => .ite (fun _ => .ite (fun _ => ?_) fun _ => ?_) fun _ => .ok_nil
  · exact (v.comparisonErrors_tells r form).mono fun e he => he.2.2
  · refine .each (v.eachFieldErrors r form) rfl (fun _ _ => rfl) fun id _ => ?_
    by_cases hhidden : form.isHidden id = true
    · rw [v.ruleFieldErrors_of_hidden r form hhidden]
      exact .ok_nil
    · refine (v.ruleFieldErrors_tells r form id).mono fun e he => ?_
      rw [he.1]
      simpa using hhidden

theorem allRuleErrors_tells (rules : List FormRule) :
    Tells (v.allRuleErrors form rules) (form.isHidden ·.field = false) :=
  .each (v.allRuleErrors form) rfl (fun _ _ => rfl) fun r _ => v.ruleErrors_tells r form

end Rules

end Validation

/-! ## Two checks, one of which passes over more -/

/-- Whatever errors the first check comes to, the second one comes to those that are kept, in their
order. -/
def Keeps (kept : FieldError → Bool) (x y : Except Failure (List FieldError)) : Prop :=
  ∀ es, x = .ok es → y = .ok (es.filter kept)

namespace Keeps

variable {kept : FieldError → Bool} {x y x' y' : Except Failure (List FieldError)}

theorem same (h : Tells x (kept · = true)) : Keeps kept x x := by
  intro es hes
  rw [hes, List.filter_eq_self.mpr (h es hes)]

theorem passed (h : Tells x (kept · = false)) : Keeps kept x (.ok []) := by
  intro es hes
  have hnone : es.filter kept = [] :=
    List.filter_eq_nil_iff.mpr fun e he => by simp [h es hes e he]
  rw [hnone]

theorem bind {α : Type} {first : Except Failure α}
    {next next' : α → Except Failure (List FieldError)} (h : ∀ a, Keeps kept (next a) (next' a)) :
    Keeps kept (first >>= next) (first >>= next') := by
  intro es hes
  obtain ⟨a, rfl, hnext⟩ := Work.except_bind_eq_ok_iff.mp hes
  exact h a es hnext

theorem append (hx : Keeps kept x x') (hy : Keeps kept y y') :
    Keeps kept (do pure ((← x) ++ (← y))) (do pure ((← x') ++ (← y'))) := by
  intro es hes
  obtain ⟨first, hfirst, hrest⟩ := Work.except_bind_eq_ok_iff.mp hes
  obtain ⟨later, hlater, hmade⟩ := Work.except_bind_eq_ok_iff.mp hrest
  cases hmade
  rw [hx first hfirst, hy later hlater, List.filter_append]
  rfl

theorem each {α : Type} (all all' : List α → Except Failure (List FieldError))
    {one one' : α → Except Failure (List FieldError)} (hnil : all [] = .ok [])
    (hnil' : all' [] = .ok [])
    (hcons : ∀ a rest, all (a :: rest) = (do pure ((← one a) ++ (← all rest))))
    (hcons' : ∀ a rest, all' (a :: rest) = (do pure ((← one' a) ++ (← all' rest)))) {l : List α}
    (hone : ∀ a ∈ l, Keeps kept (one a) (one' a)) : Keeps kept (all l) (all' l) := by
  induction l with
  | nil =>
    rw [hnil, hnil']
    exact same .ok_nil
  | cons a rest ih =>
    rw [hcons, hcons']
    exact (hone a List.mem_cons_self).append (ih fun b hb => hone b (List.mem_cons_of_mem a hb))

end Keeps

/-! ## A field shown and hidden -/

/-- The rule compares a field with another one. -/
def FormRule.Compares (r : FormRule) (id : String) : Prop := r.kind = .crossField ∧ id ∈ r.fields

instance (r : FormRule) (id : String) : Decidable (r.Compares id) :=
  inferInstanceAs (Decidable (_ ∧ _))

/-- The error is neither of a field nor of a rule that compares it. -/
def FieldError.isApartFrom (e : FieldError) (id : String) (rules : List FormRule) : Bool :=
  decide (e.field ≠ id ∧ ∀ r ∈ rules, r.Compares id → e.rule ≠ some r.id)

namespace FilledForm

/-- The form with a field shown, or hidden, by the updates. -/
def withShown (form : FilledForm) (id : String) (shown : Bool) : FilledForm :=
  { form with updates := form.updates.set ⟨id, .visible, .bool shown, none⟩ }

variable (form : FilledForm) (id : String) (shown : Bool)

theorem decision_withShown (field : String) (property : Property) :
    (form.withShown id shown).updates.decision field property =
      if id = field ∧ property = .visible then some shown
      else form.updates.decision field property := by
  have hget : (form.withShown id shown).updates.get? field property.name =
      if id = field ∧ property = .visible then some (.bool shown)
      else form.updates.get? field property.name := by
    unfold withShown Updates.set
    rw [Updates.get?_add (by simp [Entries.names])]
    by_cases hid : id = field
    · cases property <;> simp [hid, Entries.get?, Property.name]
    · simp [hid]
  unfold Updates.decision
  rw [hget]
  by_cases h : id = field ∧ property = .visible
  · simp [h, Value.truthy]
  · simp [h]

theorem required_withShown (field : String) :
    (form.withShown id shown).updates.decision field .required =
      form.updates.decision field .required := by
  rw [decision_withShown]
  simp

variable {id}

theorem isHidden_withShown_of_ne {field : String} (h : field ≠ id) :
    (form.withShown id shown).isHidden field = form.isHidden field := by
  unfold isHidden
  refine List.any_congr rfl fun f => ?_
  by_cases hf : f.id = field
  · have hdecision : (form.withShown id shown).updates.decision f.id .visible =
        form.updates.decision f.id .visible := by
      rw [decision_withShown, if_neg]
      rintro ⟨rfl, -⟩
      exact h hf.symm
    unfold Field.isHidden
    rw [hdecision]
  · rw [beq_false_of_ne hf, Bool.false_and, Bool.false_and]

theorem isHidden_withShown_false {f : Field} (h : f ∈ form.fields) :
    (form.withShown f.id false).isHidden f.id = true := by
  refine List.any_eq_true.mpr ⟨f, h, ?_⟩
  simp [Field.isHidden, decision_withShown]

end FilledForm

section Apart

variable {e : FieldError} {r : FormRule} {rules : List FormRule} {id : String}

theorem FieldError.isApartFrom_own (h : e.field = id) : e.isApartFrom id rules = false := by
  simp [isApartFrom, h]

theorem FieldError.isApartFrom_compared (hr : r ∈ rules) (hcompares : r.Compares id)
    (h : e.rule = some r.id) : e.isApartFrom id rules = false := by
  refine decide_eq_false ?_
  rintro ⟨-, hrules⟩
  exact hrules r hr hcompares h

theorem FieldError.isApartFrom_field (hfield : e.field ≠ id) (hrule : e.rule = none) :
    e.isApartFrom id rules = true := by
  refine decide_eq_true ⟨hfield, fun r _ _ => ?_⟩
  rw [hrule]
  exact nofun

theorem FieldError.isApartFrom_rule (hrules : (rules.map (·.id)).Nodup) (hr : r ∈ rules)
    (hcompares : ¬ r.Compares id) (hfield : e.field ≠ id) (hrule : e.rule = some r.id) :
    e.isApartFrom id rules = true := by
  refine decide_eq_true ⟨hfield, fun r' hr' hcompares' hrule' => hcompares ?_⟩
  have hid : r'.id = r.id := by
    rw [hrule] at hrule'
    exact (Option.some.inj hrule').symm
  rwa [← List.inj_on_of_nodup_map hrules hr' hr hid]

end Apart

namespace Validation

section Fields

variable (v : Validation) {form : FilledForm} {rules : List FormRule} {f : Field}

/-- The check of a field, if it is shown. -/
def shownFieldErrors (form : FilledForm) (g : Field) : Except Failure (List FieldError) :=
  if form.isHidden g.id then pure []
  else v.fieldErrors g (form.answer g.id) form.context (form.updates.decision g.id .required)

theorem shownErrors_cons (form : FilledForm) (g : Field) (rest : List Field) :
    v.shownErrors form (g :: rest) = (do
      pure ((← v.shownFieldErrors form g) ++ (← v.shownErrors form rest))) := by
  rw [shownErrors, shownFieldErrors]
  dsimp only
  split <;> rfl

theorem shownErrors_tells (form : FilledForm) (fields : List Field) :
    Tells (v.shownErrors form fields) (form.isHidden ·.field = false) := by
  refine .each (v.shownErrors form) rfl (v.shownErrors_cons form) fun g _ => ?_
  refine .ite (fun _ => .ok_nil) fun hshown => (v.fieldErrors_tells g _ _ _).mono fun e he => ?_
  rw [he.1]
  simpa using hshown

theorem shownFieldErrors_keeps (hf : f ∈ form.fields) (g : Field) :
    Keeps (·.isApartFrom f.id rules) (v.shownFieldErrors (form.withShown f.id true) g)
      (v.shownFieldErrors (form.withShown f.id false) g) := by
  unfold shownFieldErrors
  by_cases hg : g.id = f.id
  · have hhidden : (form.withShown f.id false).isHidden g.id = true := by
      rw [hg]
      exact form.isHidden_withShown_false hf
    rw [if_pos hhidden]
    refine .passed (.ite (fun _ => .ok_nil) fun _ => ?_)
    exact (v.fieldErrors_tells g _ _ _).mono fun e he =>
      FieldError.isApartFrom_own (he.1.trans hg)
  · rw [form.isHidden_withShown_of_ne _ hg, form.isHidden_withShown_of_ne _ hg,
      form.required_withShown, form.required_withShown]
    refine .same (.ite (fun _ => .ok_nil) fun _ => ?_)
    refine (v.fieldErrors_tells g _ _ _).mono fun e he => ?_
    exact FieldError.isApartFrom_field (fun h => hg (he.1.symm.trans h)) he.2

section Rules

variable {r : FormRule} (hrules : (rules.map (·.id)).Nodup) (hr : r ∈ rules)
  (hf : f ∈ form.fields)

include hrules hr hf

theorem comparisonErrors_keeps (hkind : r.kind = .crossField) :
    Keeps (·.isApartFrom f.id rules) (v.comparisonErrors r (form.withShown f.id true))
      (v.comparisonErrors r (form.withShown f.id false)) := by
  by_cases hmember : f.id ∈ r.fields
  · rw [v.comparisonErrors_of_hidden r _ hmember (form.isHidden_withShown_false hf)]
    refine .passed ((v.comparisonErrors_tells r _).mono fun e he => ?_)
    exact FieldError.isApartFrom_compared hr ⟨hkind, hmember⟩ he.1
  · have hsame : v.comparisonErrors r (form.withShown f.id false) =
        v.comparisonErrors r (form.withShown f.id true) := by
      have hhidden (id : String) (hid : id ∈ r.fields) :
          (form.withShown f.id false).isHidden id = (form.withShown f.id true).isHidden id := by
        have hne : id ≠ f.id := fun h => hmember (h ▸ hid)
        rw [form.isHidden_withShown_of_ne _ hne, form.isHidden_withShown_of_ne _ hne]
      unfold comparisonErrors
      split
      · rename_i first second operator hfields hoperator
        rw [hhidden first (by simp [hfields]), hhidden second (by simp [hfields])]
        rfl
      · rfl
    rw [hsame]
    refine .same ((v.comparisonErrors_tells r _).mono fun e he => ?_)
    exact FieldError.isApartFrom_rule hrules hr (fun h => hmember h.2)
      (fun h => hmember (h ▸ he.2.1)) he.1

theorem ruleFieldErrors_keeps (hkind : r.kind ≠ .crossField) (id : String) :
    Keeps (·.isApartFrom f.id rules) (v.ruleFieldErrors r (form.withShown f.id true) id)
      (v.ruleFieldErrors r (form.withShown f.id false) id) := by
  by_cases hid : id = f.id
  · have hhidden : (form.withShown f.id false).isHidden id = true := by
      rw [hid]
      exact form.isHidden_withShown_false hf
    rw [v.ruleFieldErrors_of_hidden r _ hhidden]
    refine .passed ((v.ruleFieldErrors_tells r _ id).mono fun e he => ?_)
    exact FieldError.isApartFrom_own (he.1.trans hid)
  · have hsame : v.ruleFieldErrors r (form.withShown f.id false) id =
        v.ruleFieldErrors r (form.withShown f.id true) id := by
      unfold ruleFieldErrors
      rw [form.isHidden_withShown_of_ne _ hid, form.isHidden_withShown_of_ne _ hid]
      rfl
    rw [hsame]
    refine .same ((v.ruleFieldErrors_tells r _ id).mono fun e he => ?_)
    exact FieldError.isApartFrom_rule hrules hr (fun h => hkind h.1)
      (fun h => hid (he.1.symm.trans h)) he.2

theorem ruleErrors_keeps :
    Keeps (·.isApartFrom f.id rules) (v.ruleErrors r (form.withShown f.id true))
      (v.ruleErrors r (form.withShown f.id false)) := by
  unfold ruleErrors
  refine .bind fun applies => ?_
  cases applies with
  | false => exact .same .ok_nil
  | true =>
    by_cases hkind : r.kind = .crossField
    · simpa only [hkind, ↓reduceIte] using v.comparisonErrors_keeps hrules hr hf hkind
    · simp only [hkind, ↓reduceIte]
      exact .each (v.eachFieldErrors r _) (v.eachFieldErrors r _) rfl rfl
        (fun _ _ => rfl) (fun _ _ => rfl)
        fun id _ => v.ruleFieldErrors_keeps hrules hr hf hkind id

end Rules

end Fields

/-- To hide a field leaves out its own errors and those of the rules that compare it, and keeps all
others in their order; no error is ever of a field that is hidden. -/
theorem hiding_leaves_out_own_errors (v : Validation) (form : FilledForm) (rules : List FormRule)
    (hrules : (rules.map (·.id)).Nodup) :
    (∀ f ∈ form.fields, ∀ findings,
      v.checkForm (form.withShown f.id true) rules = .ok findings →
      v.checkForm (form.withShown f.id false) rules =
        .ok (.ofErrors (findings.errors.filter (·.isApartFrom f.id rules)))) ∧
    ∀ findings, v.checkForm form rules = .ok findings → ∀ e ∈ findings.errors,
      ∀ g ∈ form.fields, g.isHidden form.updates = true → e.field ≠ g.id := by
  constructor
  · intro f hf findings hfound
    obtain ⟨fields, hfields, hrest⟩ := Work.except_bind_eq_ok_iff.mp hfound
    obtain ⟨byRules, hbyRules, hmade⟩ := Work.except_bind_eq_ok_iff.mp hrest
    cases hmade
    have hread : f ∈ form.read.fields := hf
    have hkept : Keeps (·.isApartFrom f.id rules)
        (v.shownErrors (form.read.withShown f.id true) form.fields)
        (v.shownErrors (form.read.withShown f.id false) form.fields) :=
      .each (v.shownErrors _) (v.shownErrors _) rfl rfl (v.shownErrors_cons _)
        (v.shownErrors_cons _) fun g _ => v.shownFieldErrors_keeps hread g
    have hkeptRules : Keeps (·.isApartFrom f.id rules)
        (v.allRuleErrors (form.read.withShown f.id true) rules)
        (v.allRuleErrors (form.read.withShown f.id false) rules) :=
      .each (v.allRuleErrors _) (v.allRuleErrors _) rfl rfl (fun _ _ => rfl)
        (fun _ _ => rfl) fun r hr => v.ruleErrors_keeps hrules hr hread
    have hhidden : v.checkForm (form.withShown f.id false) rules = (do
        let fields ← v.shownErrors (form.read.withShown f.id false) form.fields
        let byRules ← v.allRuleErrors (form.read.withShown f.id false) rules
        pure (.ofErrors (fields ++ byRules))) := rfl
    rw [hhidden, hkept fields hfields, hkeptRules byRules hbyRules]
    simp [Findings.ofErrors, pure, Except.pure, Work.except_ok_bind]
  · intro findings hfound e he g hg hhidden hfield
    obtain ⟨fields, hfields, hrest⟩ := Work.except_bind_eq_ok_iff.mp hfound
    obtain ⟨byRules, hbyRules, hmade⟩ := Work.except_bind_eq_ok_iff.mp hrest
    cases hmade
    have hshown : form.isHidden e.field = false := by
      rcases List.mem_append.mp he with he | he
      · exact v.shownErrors_tells form.read form.fields fields hfields e he
      · exact v.allRuleErrors_tells form.read rules byRules hbyRules e he
    have hany : form.isHidden e.field = true :=
      List.any_eq_true.mpr ⟨g, hg, by simp [hfield, hhidden]⟩
    rw [hshown] at hany
    cases hany

/-! An address and its repetition do not agree, and neither of them is one; once the repetition is
hidden, only the address itself is complained of. -/

namespace Repeated

def form : FilledForm where
  fields := [{ id := "mail" }, { id := "again" }]
  data := [("mail", .text "ann"), ("again", .text "bob")]
  updates := []
  context := .ofNow ⟨0, Calendar.zero_lt_microCount⟩

def rule (id : String) (kind : FormRuleKind) (operator : Option Operator) : FormRule :=
  ⟨id, kind, ["mail", "again"], none, operator, .null, none, none, some "Please check."⟩

def rules : List FormRule := [rule "same" .crossField (some .equals), rule "mails" .email none]

def error (field : String) (complaint : Complaint) (rule : String) : FieldError :=
  ⟨field, complaint.name, "Please check.", rule⟩

theorem checkForm_shown : checkForm {} (form.withShown "again" true) rules = .ok (.ofErrors
    [error "mail" .crossField "same", error "mail" .email "mails", error "again" .email "mails"]) :=
  rfl

end Repeated

theorem Repeated.hiding_leaves_address : (Repeated.rules.map (·.id)).Nodup ∧
    checkForm {} (Repeated.form.withShown "again" false) Repeated.rules =
      .ok (.ofErrors [Repeated.error "mail" .email "mails"]) := by
  have hrules : (Repeated.rules.map (·.id)).Nodup := by decide
  refine ⟨hrules, ?_⟩
  exact (hiding_leaves_out_own_errors {} Repeated.form Repeated.rules hrules).1 { id := "again" }
    (.tail _ (.head _)) _ Repeated.checkForm_shown

end Validation
end Formwork
