import Formwork.Validation.FieldCheck
import Formwork.Field.Rule
/-!
Checking a form: every field that is shown, and then every rule of the form that applies. All
complaints are reported, those about fields first.
-/
namespace Formwork

open Document

/-- What rules decided of a property, if they decided anything. -/
def Updates.decision (m : Updates) (field : String) (property : Property) : Option Bool :=
  match m.get? field property.name with
  | none | some .null => none
  | some v => some v.truthy

/-- Whether a field is hidden, by rules or of its own. -/
def Field.isHidden (f : Field) (m : Updates) : Bool :=
  match m.decision f.id .visible with
  | some visible => !visible
  | none => f.hidden

/-- A form as it was filled in. -/
structure FilledForm where
  fields : List Field
  data : Entries Value
  /-- What conditional rules decided. -/
  updates : Updates
  context : Context

namespace FilledForm

def answer (form : FilledForm) (field : String) : Value := (form.data.get? field).getD .null

/-- Whether any field of an id is hidden. -/
def isHidden (form : FilledForm) (id : String) : Bool :=
  form.fields.any fun f => f.id == id && f.isHidden form.updates

/-- The last field of an id, or a plain one where the form has none. -/
def fieldOf (form : FilledForm) (id : String) : Field :=
  (form.fields.reverse.find? fun f => f.id == id).getD { id := id, label := id }

end FilledForm

namespace Validation

/-- Complaints about all fields that are shown. -/
def shownErrors (v : Validation) (form : FilledForm) :
    List Field → Except Failure (List FieldError)
  | [] => .ok []
  | f :: rest => do
    let first ←
      if form.isHidden f.id then pure []
      else v.fieldErrors f (form.answer f.id) form.context (form.updates.decision f.id .required)
    pure (first ++ (← v.shownErrors form rest))

/-- The complaint of a rule that compares two fields, both of them shown and answered. -/
def comparisonErrors (v : Validation) (r : FormRule) (form : FilledForm) :
    Except Failure (List FieldError) :=
  match r.fields, r.operator with
  | [first, second], some operator =>
    if form.isHidden first || form.isHidden second then .ok []
    else if (form.answer first).isEmpty || (form.answer second).isEmpty then .ok []
    else do
      let condition : Condition :=
        { field := first, operator := operator, value := form.answer second }
      v.complainIf (!(← condition.holds form.context)) (form.fieldOf first) .crossField form.context
        { other := (form.fieldOf second).shownName, rule := r.id, message := r.message }
  | _, _ => .ok []

/-- The complaint of a rule that bounds a number. -/
def boundErrors (v : Validation) (r : FormRule) (f : Field) (value : Value) (context : Context)
    (ground : Ground) : Except Failure (List FieldError) := do
  let ground := { ground with limit := some r.value }
  let number ← value.number?
  let limit ← r.value.number?
  match number, limit with
  | none, _ => v.complainIf true f .number context ground
  | some x, some bound =>
    if r.kind = .min then v.complainIf (x < bound) f .min context ground
    else v.complainIf (bound < x) f .max context ground
  | some _, none => pure []

/-- The complaint of a rule about one field. -/
def ruleFieldErrors (v : Validation) (r : FormRule) (form : FilledForm) (id : String) :
    Except Failure (List FieldError) :=
  let f := form.fieldOf id
  let value := form.answer id
  let ground : Ground := { rule := r.id, message := r.message }
  if form.isHidden id then .ok []
  else if r.kind = .required then v.complainIf value.isEmpty f .required form.context ground
  else if value.isEmpty then .ok []
  else
    match r.kind with
    | .min | .max => v.boundErrors r f value form.context ground
    | .pattern => do
      let shown ← showsPattern form.context.host value (r.pattern.getD "")
      v.complainIf (!shown) f .pattern form.context ground
    | .email => do v.complainIf (!(← isMailAddress value)) f .email form.context ground
    | .custom => v.customErrors f (r.validator.getD "") value form.context ground
    | .required | .crossField => .ok []

def eachFieldErrors (v : Validation) (r : FormRule) (form : FilledForm) :
    List String → Except Failure (List FieldError)
  | [] => .ok []
  | id :: rest => do
    let first ← v.ruleFieldErrors r form id
    pure (first ++ (← v.eachFieldErrors r form rest))

/-- Complaints of one rule, if it applies. -/
def ruleErrors (v : Validation) (r : FormRule) (form : FilledForm) :
    Except Failure (List FieldError) := do
  if ← Group.holds? r.appliesWhen form.context then
    if r.kind = .crossField then v.comparisonErrors r form else v.eachFieldErrors r form r.fields
  else pure []

def allRuleErrors (v : Validation) (form : FilledForm) :
    List FormRule → Except Failure (List FieldError)
  | [] => .ok []
  | r :: rest => do
    let first ← v.ruleErrors r form
    pure (first ++ (← v.allRuleErrors form rest))

/-- Check a form. The context is read with the answers of the form as its data. -/
def checkForm (v : Validation) (form : FilledForm) (rules : List FormRule) :
    Except Failure Findings := do
  let form := { form with context := { form.context with data := form.data } }
  let fields ← v.shownErrors form form.fields
  let byRules ← v.allRuleErrors form rules
  pure (.ofErrors (fields ++ byRules))

end Validation
end Formwork
