import Formwork.Proofs.Validation.Answer
import Formwork.Validation.FormCheck
/-!
# When the check of a form fails

A form is checked field by field and then rule by rule, and every complaint is reported. So the
check fails exactly if the check of a field that is shown fails, or a rule that applies reads what
cannot be held; otherwise it comes to findings, and they call the form valid exactly if there is no
complaint.
-/
namespace Formwork

open Document

/-! ## Reasons -/

/-- What a rule compares of two fields. -/
def FormRule.comparison (form : FilledForm) (first second : String) (operator : Operator) :
    Condition :=
  { field := first, operator := operator, value := form.answer second }

/-- A rule on each of several fields stops at an answer that is shown and filled. -/
structure FormRule.StopsAt (r : FormRule) (form : FilledForm) (id : String) (e : Failure) :
    Prop where
  shown : form.isHidden id = false
  filled : (form.answer id).isEmpty = false
  trips : match r.kind with
    | .min | .max => (Operand.value (form.answer id)).Exceeds .number e ∨
        (Operand.value r.value).Exceeds .number e
    | .pattern => (form.answer id).PatternTrips form.context.host (r.pattern.getD "") e
    | .email => (form.answer id).isWritable = false ∧ e = .tooManyDigits
    | .custom => Validator.Trips (r.validator.getD "") (form.answer id) e
    | .required | .crossField => False

/-- A rule stops the check of a form: the condition on which it applies strains, or it applies and
stops at what it is about. -/
inductive FormRule.Trips (r : FormRule) (form : FilledForm) : Failure → Prop where
  | condition {e : Failure} {g : Group} (group : r.appliesWhen = some g)
    (strains : g.Strains form.context e) : Trips r form e
  | comparison {e : Failure} {first second : String} {operator : Operator}
    (applies : Group.holds? r.appliesWhen form.context = .ok true) (kind : r.kind = .crossField)
    (fields : r.fields = [first, second]) (compared : r.operator = some operator)
    (shown : form.isHidden first = false ∧ form.isHidden second = false)
    (filled : (form.answer first).isEmpty = false ∧ (form.answer second).isEmpty = false)
    (strains : (comparison form first second operator).Strains form.context e) : Trips r form e
  | field {e : Failure} {id : String}
    (applies : Group.holds? r.appliesWhen form.context = .ok true) (kind : r.kind ≠ .crossField)
    (member : id ∈ r.fields) (stops : r.StopsAt form id e) : Trips r form e

/-- The form whose answers are also the data that conditions read. -/
def FilledForm.read (form : FilledForm) : FilledForm :=
  { form with context := { form.context with data := form.data } }

/-- A field that is shown, or a rule, stops the check of a form. -/
inductive FilledForm.Trips (form : FilledForm) (v : Validation) (rules : List FormRule) :
    Failure → Prop where
  | field {e : Failure} {f : Field} (member : f ∈ form.fields)
    (shown : form.isHidden f.id = false)
    (trips : f.Trips v (form.answer f.id) form.context (form.updates.decision f.id .required) e) :
    Trips form v rules e
  | rule {e : Failure} {r : FormRule} (member : r ∈ rules) (trips : r.Trips form e) :
    Trips form v rules e

namespace Validation

section Forms

variable (v : Validation) (r : FormRule) (form : FilledForm)
  (hbuiltIn : v.validators = Validator.builtIn)

end Forms

/-! ## Findings -/

namespace Site

def field : Field := { id := "site", kind := .url }

def answer : Value := .text "http://["

end Site

end Validation

end Formwork
