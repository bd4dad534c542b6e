import Formwork.Lifecycle.Form
import Formwork.Proofs.Action.Placeholders
import Formwork.Proofs.Field.Incremental
/-!
# What the name of a field means

Conditions, the rules that are applied again after a change, references in values and placeholders
in texts all name fields, and each reads names in its own way. They agree on the names of declared
fields without dots. A name with dots is data of its own to some of them and a path to others.
-/
namespace Formwork

open Calendar

/-! ## Names in braces -/

/-- The reference to a field in a value. -/
def referenceTo (field : String) : String := "\x7b" ++ field ++ "\x7d"

/-- The placeholder of a field in a text. -/
def placeholderOf (field : String) : String := "\x7b\x7bdata." ++ field ++ "\x7d\x7d"

section Braces

variable {field : String}

theorem reference?_referenceTo (h : IsPathText field) :
    reference? (referenceTo field) = some field := by
  have hchars : (referenceTo field).toList = '\x7b' :: (field.toList ++ ['\x7d']) := by
    simp [referenceTo]
  have hclosing : isPathChar '\x7d' = false := by decide
  have hfield : (field.toList ++ ['\x7d']).takeWhile isPathChar = field.toList :=
    takeWhile_run h.2 (by simpa using hclosing)
  unfold reference?
  rw [hchars]
  simp [hfield, h.1]

theorem isPathText_data (h : IsPathText field) : IsPathText ("data." ++ field) := by
  refine ⟨by simp, fun x hx => ?_⟩
  rw [String.toList_append, List.mem_append] at hx
  rcases hx with hx | hx
  · have hall : "data.".toList.all isPathChar = true := by decide
    exact List.all_eq_true.mp hall x hx
  · exact h.2 x hx

theorem wholePlaceholder?_placeholderOf (h : IsPathText field) :
    wholePlaceholder? (placeholderOf field) = some ("data." ++ field) := by
  let p : Placeholder := { path := "data." ++ field, isPathText := isPathText_data h }
  refine Placeholder.wholePlaceholder?_eq_some_iff.mpr
    ⟨p, ⟨[], [], by decide, by decide, ?_⟩, rfl⟩
  simp [placeholderOf, p, Placeholder.written, Placeholder.closing]

end Braces

/-! ## What each makes of a name -/

namespace Context

variable {field : String}

theorem resolve_referenceTo (h : IsPathText field) (c : Context) :
    c.resolve (.text (referenceTo field)) = Value.atPath c.data field := by
  have hmark : "$user.".toList.isPrefixOf (referenceTo field).toList = false := by
    simp [referenceTo, List.isPrefixOf]
  simp only [resolve, hmark, Bool.false_eq_true, ↓reduceIte, reference?_referenceTo h]

theorem render_placeholderOf (h : IsPathText field) (c : Context) :
    c.render (.text (placeholderOf field)) =
      .ok (follow (.map c.data) (Text.split '.' field)) := by
  have hhead : Value.headOfPath ("data." ++ field) = "data" := by
    simp [Value.headOfPath, Text.split, Text.splitChars]
  have hrest : String.ofList (("data." ++ field).toList.drop ("data".length + 1)) = field := by
    have hdrop : ("data." ++ field).toList.drop ("data".length + 1) = field.toList := by
      rw [show "data".length = 4 from rfl]
      simp
    rw [hdrop, String.ofList_toList]
  have hfound : field.isEmpty = false := by simpa using h.1
  simp only [render, renderText, wholePlaceholder?_placeholderOf h, lookUp, hhead, hrest, hfound,
    Bool.false_eq_true, ↓reduceIte]

end Context

/-- Whether a condition compares what lies at a path in the data. -/
def Condition.IsAbout (condition : Condition) (path : String) : Prop :=
  condition.source = .field ∧ condition.field = path

/-- Whether a condition holds of a value on its left side. -/
def Condition.holdsOf (condition : Condition) (host : Host) (v : Value) : Except Failure Bool := do
  match ← ((Operand.value v).compareBy host condition.operator condition.effectiveType
    condition.value).run with
  | some result => do
    let _ ← condition.value.literal
    pure result
  | none => pure false

/-- A name stands for one value, whatever reads it. -/
structure Context.Means (c : Context) (field : String) (v : Value) : Prop where
  known : ∀ condition : Condition, condition.IsAbout field → condition.isKnown c = true
  compared : ∀ condition : Condition, condition.IsAbout field →
    condition.holds c = condition.holdsOf c.host v
  read : ∀ g : Group, (∃ condition ∈ g.node.conditions, condition.IsAbout field) →
    field ∈ g.fieldNames
  affected : ∀ rules : List FieldRule, ∀ r ∈ rules,
    (∃ condition ∈ r.conditions.node.conditions, condition.IsAbout field) →
      r ∈ FieldRule.affected field rules
  resolved : c.resolve (.text (referenceTo field)) = v
  rendered : c.render (.text (placeholderOf field)) = .ok v

section Declared

variable {c : Context} {field : String} {v : Value}

theorem Condition.isKnown_eq {condition : Condition} (h : condition.IsAbout field) :
    condition.isKnown c = c.knows (Value.headOfPath field) := by
  simp [isKnown, h.1, h.2]

theorem Value.atPath_of_get? {data : Entries Value} (h : data.get? field = some v) :
    atPath data field = v := by
  simp only [atPath, h]

/-- A condition on a name that is held compares what is held under the whole name, if the head of
the name is known, and else does not hold. -/
theorem Condition.holds_of_held {condition : Condition} (h : condition.IsAbout field)
    (hheld : c.data.get? field = some v) : condition.holds c =
      if c.knows (Value.headOfPath field) then condition.holdsOf c.host v else .ok false := by
  have hoperand : c.operand condition.source condition.field = .value v := by
    rw [h.1, h.2, Context.operand, Value.atPath_of_get? hheld]
  rw [holds, isKnown_eq h, compared, hoperand]
  rfl

theorem Group.undotted_of_mem_fieldNames {g : Group} (h : field ∈ g.fieldNames) :
    '.' ∉ field.toList := by
  obtain ⟨condition, -, -, rfl⟩ := Group.mem_fieldNames_iff.mp h
  exact Value.dot_not_mem_headOfPath condition.field

theorem Group.mem_fieldNames_of_undotted {g : Group} (hdot : '.' ∉ field.toList)
    (h : ∃ condition ∈ g.node.conditions, condition.IsAbout field) : field ∈ g.fieldNames := by
  obtain ⟨condition, hmem, hsource, hpath⟩ := h
  refine Group.mem_fieldNames_iff.mpr ⟨condition, hmem, hsource, ?_⟩
  rw [hpath, Value.headOfPath_of_undotted hdot]

theorem Context.follow_undotted {data : Entries Value} (hdot : '.' ∉ field.toList)
    (hheld : data.get? field = some v) : follow (.map data) (Text.split '.' field) = v := by
  have hget : (Value.map data).get? field = some v := hheld
  rw [Text.split_eq_singleton hdot, follow, hget]
  rfl

theorem Context.means_of_undotted (hname : IsPathText field) (hdot : '.' ∉ field.toList)
    (hknown : c.knows field = true) (hheld : c.data.get? field = some v) : c.Means field v where
  known condition h := by rw [Condition.isKnown_eq h, Value.headOfPath_of_undotted hdot, hknown]
  compared condition h := by
    rw [Condition.holds_of_held h hheld, Value.headOfPath_of_undotted hdot, hknown]
    rfl
  read g h := Group.mem_fieldNames_of_undotted hdot h
  affected rules r hr h := by
    have hread : field ∈ r.conditions.fieldNames := Group.mem_fieldNames_of_undotted hdot h
    exact List.mem_filter.mpr ⟨hr, by simpa [FieldRule.reads] using hread⟩
  resolved := by rw [resolve_referenceTo hname, Value.atPath_of_get? hheld]
  rendered := by rw [render_placeholderOf hname, follow_undotted hdot hheld]

theorem Context.Means.undotted (h : c.Means field v) : '.' ∉ field.toList := by
  let asked : Group := { nodes := [.leaf { field := field, operator := .isNotEmpty }] }
  have hread : field ∈ asked.fieldNames := by
    apply h.read
    exact ⟨_, List.mem_singleton_self _, rfl, rfl⟩
  exact Group.undotted_of_mem_fieldNames hread

end Declared

namespace FormTemplate

/-- The name of a declared field that a submission fills means the same value to all who read it if
and only if it has no dots. References give the value in any case. A condition on it compares the
value if the head of the name is declared as well, and else does not hold; with dots no group is said
to read it, and a placeholder follows it part by part. -/
theorem means_same_iff (t : FormTemplate) (s : Submission) (settings : Settings) (host : Host)
    (now : Instant) (locale : Option String) {field : String} {v : Value} (hname : IsPathText field)
    (hdeclared : field ∈ t.fieldIds) (hheld : s.data.get? field = some v) :
    ((t.contextFor s settings host now locale).Means field v ↔ '.' ∉ field.toList) ∧
    (t.contextFor s settings host now locale).resolve (.text (referenceTo field)) = v ∧
    (∀ condition : Condition, condition.IsAbout field →
      condition.holds (t.contextFor s settings host now locale) =
        if Value.headOfPath field ∈ t.fieldIds then condition.holdsOf host v else .ok false) ∧
    (∀ g : Group, field ∈ g.fieldNames → '.' ∉ field.toList) ∧
    (t.contextFor s settings host now locale).render (.text (placeholderOf field)) =
      .ok (Context.follow (.map s.data) (Text.split '.' field)) := by
  have hknows (name : String) : (t.contextFor s settings host now locale).knows name =
      t.fieldIds.contains name := rfl
  have hhost : (t.contextFor s settings host now locale).host = host := rfl
  refine ⟨⟨Context.Means.undotted, fun hdot => ?_⟩, ?_, fun condition h => ?_, ?_, ?_⟩
  · apply Context.means_of_undotted hname hdot _ hheld
    rw [hknows]
    simpa using hdeclared
  · rw [Context.resolve_referenceTo hname]
    exact Value.atPath_of_get? hheld
  · rw [Condition.holds_of_held h hheld, hknows, hhost]
    simp
  · exact fun g h => Group.undotted_of_mem_fieldNames h
  · exact Context.render_placeholderOf hname _

end FormTemplate

/-! A field whose name has a dot, and a rule that asks for a visa where it says that one goes to
Rome. -/
namespace Visa

def toRome : Condition := { field := "address.city", operator := .equals, value := .text "Rome" }

def rule : FieldRule where
  id := "abroad"
  name := none
  conditions := { nodes := [.leaf toRome] }
  actions := [{ kind := .setRequired, target := "visa" }]
  active := true

def template : FormTemplate :=
  { id := "trip", fields := [{ id := "address.city" }, { id := "visa" }], fieldRules := [rule] }

def request : Submission :=
  { id := "S1", data := [("address.city", .text "Rome")], submitter := ⟨"u1", none, [], []⟩ }

def context : Context := template.contextFor request {} {} ⟨0, Calendar.zero_lt_microCount⟩ none

theorem read_template :
    (FormTemplate.decoder {} template.document {}).1 = .ok template := by
  with_unfolding_all rfl

end Visa

namespace FormTemplate

theorem means_same_iff_visa : Visa.context.resolve (.text (referenceTo "address.city")) =
      .text "Rome" ∧ Visa.toRome.holds Visa.context = .ok false := by
  have hheld : Visa.request.data.get? "address.city" = some (.text "Rome") := rfl
  have hmeans := means_same_iff Visa.template Visa.request {} {} ⟨0, zero_lt_microCount⟩ none
    (by decide) (by decide) hheld
  refine ⟨hmeans.2.1, ?_⟩
  rw [Visa.context, hmeans.2.2.1 Visa.toRome ⟨rfl, rfl⟩]
  rfl

/-- The rule does not apply although its condition holds of what the field says. -/
theorem not_always_means_same : ¬ ∀ (t : FormTemplate) (s : Submission) (settings : Settings)
    (host : Host) (now : Instant) (locale : Option String) (field : String) (v : Value),
    (∃ document ids, (FormTemplate.decoder host document ids).1 = .ok t) → IsPathText field →
      field ∈ t.fieldIds → s.data.get? field = some v →
      (t.contextFor s settings host now locale).Means field v := by
  intro hmeans
  have hvisa : Visa.context.Means "address.city" (.text "Rome") :=
    hmeans Visa.template Visa.request {} {} _ none _ _ ⟨_, {}, Visa.read_template⟩ (by decide)
      (by decide) rfl
  have hknown := hvisa.known Visa.toRome ⟨rfl, rfl⟩
  cases hknown

end FormTemplate
end Formwork
