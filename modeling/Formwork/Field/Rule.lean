import Formwork.Condition.Evaluate
import Formwork.Field.Basic
import Formwork.Field.Update
/-!
Conditional rules: while its conditions hold, a rule acts on fields. Rules apply in their order, and
of two that touch the same property of a field the later one counts.
-/
namespace Formwork

open Document

inductive FieldActionKind where
  | showField
  | hideField
  | setRequired
  | setOptional
  | setValue
  | clearValue
  | setOptions
  | disableField
  | enableField
  | setReadonly
  deriving DecidableEq

namespace FieldActionKind

def name : FieldActionKind → String
  | showField => "show_field"
  | hideField => "hide_field"
  | setRequired => "set_required"
  | setOptional => "set_optional"
  | setValue => "set_value"
  | clearValue => "clear_value"
  | setOptions => "set_options"
  | disableField => "disable_field"
  | enableField => "enable_field"
  | setReadonly => "set_readonly"

instance : Named FieldActionKind where
  all := [showField, hideField, setRequired, setOptional, setValue, clearValue, setOptions,
    disableField, enableField, setReadonly]
  name := name

end FieldActionKind

structure FieldAction where
  kind : FieldActionKind
  target : String
  value : Value := .null

namespace FieldAction

def decoder : Decoder FieldAction :=
  (Fields.record
    (FieldAction.mk <$> Fields.required "action_type" (Decoder.oneOf FieldActionKind)
      <*> Fields.required "target_field_id" Decoder.text
      <*> Fields.given "value" .null Decoder.any)
    "ConditionalAction").check fun a =>
      if a.kind = .setOptions ∧ !a.value.isList then .broken "set_options requires a list value"
      else .ok a

def document (a : FieldAction) : Value :=
  .map [("action_type", ofNamed a.kind), ("target_field_id", .text a.target), ("value", a.value)]

/-- The update that an action makes, its value resolved in the context. -/
def update (a : FieldAction) (context : Context) : Update :=
  let set (property : Property) (value : Value) : Update := ⟨a.target, property, value, none⟩
  match a.kind with
  | .showField => set .visible (.bool true)
  | .hideField => set .visible (.bool false)
  | .setRequired => set .required (.bool true)
  | .setOptional => set .required (.bool false)
  | .setValue => set .value (context.resolve a.value)
  | .clearValue => set .value .null
  | .setOptions => set .options a.value
  | .disableField => set .disabled (.bool true)
  | .enableField => set .disabled (.bool false)
  | .setReadonly => set .readonly (.bool true)

end FieldAction

structure FieldRule where
  id : String
  name : Option String
  conditions : Group
  actions : List FieldAction
  active : Bool

namespace FieldRule

def decoder (host : Host) : Decoder FieldRule := Fields.record
  (FieldRule.mk <$> Fields.required "rule_id" Decoder.text
    <*> Fields.optional "name" Decoder.text
    <*> Fields.given "conditions" {} (Group.decoder host)
    <*> Fields.given "actions" [] (Decoder.list FieldAction.decoder)
    <*> Fields.given "is_active" true Decoder.truth)
  "ConditionalRule"

def document (r : FieldRule) : Value :=
  .map [("rule_id", .text r.id), ("name", Value.ofText? r.name),
    ("conditions", r.conditions.document), ("actions", ofList FieldAction.document r.actions),
    ("is_active", .bool r.active)]

/-- Whether a rule applies in a context. -/
def applies (r : FieldRule) (context : Context) : Except Failure Bool :=
  if r.active then r.conditions.holds context else .ok false

/-- The updates of a rule, under its name. -/
def updates (r : FieldRule) (context : Context) : List Update :=
  r.actions.map fun a => { a.update context with rule := some r.id }

end FieldRule

/-- What conditional rules did: which applied, their updates in order, and those merged. -/
structure RuleEffects where
  applied : List String := []
  updates : List Update := []
  merged : Updates := []

namespace RuleEffects

def decoder : Decoder RuleEffects := Fields.openRecord
  (RuleEffects.mk <$> Fields.given "applied_rules" [] (Decoder.list Decoder.text)
    <*> Fields.given "updates" [] (Decoder.list Update.decoder)
    <*> Fields.given "field_updates" [] Updates.decoder)
  "ConditionalResult"

def document (e : RuleEffects) : Value :=
  .map [("applied_rules", Value.ofTexts e.applied), ("updates", ofList Update.document e.updates),
    ("field_updates", e.merged.document)]

end RuleEffects

/-- The rules that apply, in their order. -/
def FieldRule.applying (context : Context) : List FieldRule → Except Failure (List FieldRule)
  | [] => .ok []
  | r :: rest => do
    let b ← r.applies context
    let later ← FieldRule.applying context rest
    pure (if b then r :: later else later)

/-- Apply conditional rules. -/
def applyRules (rules : List FieldRule) (context : Context) : Except Failure RuleEffects := do
  let applying ← FieldRule.applying context rules
  let updates := applying.flatMap (·.updates context)
  pure ⟨applying.map (·.id), updates, Updates.ofList updates⟩

/-- Apply only the rules whose conditions read a field. -/
def applyRulesReading (field : String) (rules : List FieldRule) (context : Context) :
    Except Failure RuleEffects :=
  applyRules (rules.filter fun r => r.conditions.fieldNames.contains field) context

/-- Updates with the default values of fields that are empty; a default that refers to nothing sets
nothing. -/
def defaultUpdates (fields : List Field) (context : Context) : List Update :=
  fields.filterMap fun f =>
    let held := (context.data.get? f.id).getD .null
    match f.defaultValue, held.isEmpty with
    | .null, _ => none
    | _, false => none
    | default, true =>
      match context.resolve default with
      | .null => none
      | v => some ⟨f.id, .value, v, none⟩

end Formwork
