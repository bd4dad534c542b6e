import Formwork.Condition.Evaluate
/-!
Rules of a whole form: a demand on each of several fields, or a comparison of two fields.
-/
namespace Formwork

open Document

inductive FormRuleKind where
  | required
  | min
  | max
  | pattern
  | email
  | crossField
  | custom
  deriving DecidableEq

namespace FormRuleKind

def name : FormRuleKind → String
  | required => "required"
  | min => "min"
  | max => "max"
  | pattern => "pattern"
  | email => "email"
  | crossField => "cross_field"
  | custom => "custom"

instance : Named FormRuleKind where
  all := [required, min, max, pattern, email, crossField, custom]
  name := name

end FormRuleKind

structure FormRule where
  id : String
  kind : FormRuleKind
  fields : List String
  appliesWhen : Option Group
  /-- How two fields are compared. -/
  operator : Option Operator
  /-- The bound of a rule on numbers. -/
  value : Value
  pattern : Option String
  validator : Option String
  message : Option String

/-- What a rule lacks for its kind. -/
inductive FormRule.Lack where
  | twoFields
  | comparison (operator : Operator)
  | bound (kind : FormRuleKind)
  | numericBound (kind : FormRuleKind) (value : Value)
  | pattern
  | validator

namespace FormRule

def Lack.message : Lack → String
  | twoFields => "cross_field rules need exactly two field_ids and an operator"
  | comparison operator => s!"operator '{operator.name}' cannot compare two fields"
  | bound kind => s!"{kind.name} rules need a value"
  | numericBound kind value =>
    match value.literal? with
    | some literal => s!"{kind.name} rules need a numeric value, got {literal}"
    | none => Text.digitComplaint none
  | pattern => "pattern rules need a pattern"
  | validator => "custom rules need a validator name"

/-- Operators that look at one side only, or at more than one value. -/
def isUnsuited : Operator → Bool
  | .isEmpty | .isNotEmpty | .between | .matchesPattern => true
  | _ => false

def isNumeric : Value → Bool
  | .int _ | .float _ => true
  | .text s => (Decimal.readFloat? s).isSome
  | _ => false

def isBlank (s : Option String) : Bool := (s.getD "").isEmpty

def lack? (r : FormRule) : Option Lack :=
  match r.kind with
  | .crossField =>
    match r.fields, r.operator with
    | [_, _], some operator => if isUnsuited operator then some (.comparison operator) else none
    | _, _ => some .twoFields
  | .min | .max =>
    match r.value with
    | .null => some (.bound r.kind)
    | v => if isNumeric v then none else some (.numericBound r.kind v)
  | .pattern => if isBlank r.pattern then some .pattern else none
  | .custom => if isBlank r.validator then some .validator else none
  | .required | .email => none

def decoder (host : Host) : Decoder FormRule :=
  (Fields.record
    (FormRule.mk <$> Fields.required "rule_id" Decoder.text
      <*> Fields.required "kind" (Decoder.oneOf FormRuleKind)
      <*> Fields.required "field_ids" (Decoder.list Decoder.text).nonEmpty
      <*> Fields.optional "applies_when" (Group.decoder host)
      <*> Fields.optional "operator" (Decoder.oneOf Operator)
      <*> Fields.given "value" .null Decoder.any
      <*> Fields.optional "pattern" Decoder.text
      <*> Fields.optional "validator" Decoder.text
      <*> Fields.optional "message" Decoder.text)
    "ValidationRule").check fun r =>
      match r.lack? with
      | none => .ok r
      | some lack => .broken lack.message

def document (r : FormRule) : Value :=
  .map [("rule_id", .text r.id), ("kind", ofNamed r.kind), ("field_ids", Value.ofTexts r.fields),
    ("applies_when", ofOption Group.document r.appliesWhen),
    ("operator", ofOption ofNamed r.operator), ("value", r.value),
    ("pattern", Value.ofText? r.pattern), ("validator", Value.ofText? r.validator),
    ("message", Value.ofText? r.message)]

end FormRule

/-- One thing that is wrong with an answer. -/
structure FieldError where
  field : String
  code : String
  message : String
  rule : Option String

namespace FieldError

def decoder : Decoder FieldError := Fields.openRecord
  (FieldError.mk <$> Fields.required "field_id" Decoder.text
    <*> Fields.required "code" Decoder.text
    <*> Fields.required "message" Decoder.text
    <*> Fields.optional "rule_id" Decoder.text)
  "FieldError"

def document (e : FieldError) : Value :=
  .map [("field_id", .text e.field), ("code", .text e.code), ("message", .text e.message),
    ("rule_id", Value.ofText? e.rule)]

end FieldError

/-- What validation found. -/
structure Findings where
  valid : Bool := true
  errors : List FieldError := []

namespace Findings

def ofErrors (errors : List FieldError) : Findings := ⟨errors.isEmpty, errors⟩

def decoder : Decoder Findings := Fields.openRecord
  (Findings.mk <$> Fields.given "valid" true Decoder.truth
    <*> Fields.given "errors" [] (Decoder.list FieldError.decoder))
  "ValidationResult"

def document (f : Findings) : Value :=
  .map [("valid", .bool f.valid), ("errors", ofList FieldError.document f.errors)]

end Findings

/-- The messages for each field, in the order of the errors. -/
def FieldError.byField (errors : List FieldError) : Entries (List String) :=
  errors.foldl (fun m e => m.insert e.field ((m.get? e.field).getD [] ++ [e.message])) []

end Formwork
