import Formwork.Action.Basic
import Formwork.Condition.Evaluate
import Formwork.Web.Location
/-!
Business rules: actions that run by themselves when something happens. A rule names its trigger, may
narrow it down to certain fields or statuses, and may ask for conditions.
-/
namespace Formwork

open Document

inductive Trigger where
  | onSubmit
  | onFieldChange
  | onStatusChange
  | scheduled
  deriving DecidableEq

namespace Trigger

def name : Trigger → String
  | onSubmit => "on_submit"
  | onFieldChange => "on_field_change"
  | onStatusChange => "on_status_change"
  | scheduled => "scheduled"

instance : Named Trigger where
  all := [onSubmit, onFieldChange, onStatusChange, scheduled]
  name := name

/-- A trigger by its name, where a caller gives one. -/
def ofValue (v : Value) : Except Failure Trigger := Named.ofValue Trigger "RuleTrigger" v

end Trigger

structure BusinessRule where
  id : String
  name : Option String
  trigger : Trigger
  conditions : Option Group
  actions : List Action
  /-- Higher ones go first. -/
  priority : Int
  active : Bool
  /-- Whether no rule runs after this one. -/
  stops : Bool
  watchFields : List String
  fromStatuses : List Status
  toStatuses : List Status

namespace BusinessRule

def decoder (host : Host) : Decoder BusinessRule := Fields.record
  (BusinessRule.mk <$> Fields.required "rule_id" Decoder.text
    <*> Fields.optional "name" Decoder.text
    <*> Fields.required "trigger" (Decoder.oneOf Trigger)
    <*> Fields.optional "conditions" (Group.decoder host)
    <*> Fields.required "actions" (Decoder.list (Action.decoder host)).nonEmpty
    <*> Fields.given "priority" 0 Decoder.whole
    <*> Fields.given "is_active" true Decoder.truth
    <*> Fields.given "stop_on_match" false Decoder.truth
    <*> Fields.given "watch_fields" [] (Decoder.list Decoder.text)
    <*> Fields.given "from_statuses" [] (Decoder.list (Decoder.oneOf Status))
    <*> Fields.given "to_statuses" [] (Decoder.list (Decoder.oneOf Status)))
  "BusinessRule"

def document (r : BusinessRule) : Value :=
  .map [("rule_id", .text r.id), ("name", Value.ofText? r.name), ("trigger", ofNamed r.trigger),
    ("conditions", ofOption Group.document r.conditions),
    ("actions", ofList Action.document r.actions), ("priority", .int r.priority),
    ("is_active", .bool r.active), ("stop_on_match", .bool r.stops),
    ("watch_fields", Value.ofTexts r.watchFields),
    ("from_statuses", ofList ofNamed r.fromStatuses), ("to_statuses", ofList ofNamed r.toStatuses)]

end BusinessRule

/-- Something that happened. -/
structure TriggerEvent where
  trigger : Trigger
  field : Option String := none
  oldStatus : Option Status := none
  newStatus : Option Status := none

namespace TriggerEvent

def decoder : Decoder TriggerEvent := Fields.openRecord
  (TriggerEvent.mk <$> Fields.required "trigger" (Decoder.oneOf Trigger)
    <*> Fields.optional "changed_field_id" Decoder.text
    <*> Fields.optional "old_status" (Decoder.oneOf Status)
    <*> Fields.optional "new_status" (Decoder.oneOf Status))
  "RuleEvent"

def document (e : TriggerEvent) : Value :=
  .map [("trigger", ofNamed e.trigger), ("changed_field_id", Value.ofText? e.field),
    ("old_status", ofOption ofNamed e.oldStatus), ("new_status", ofOption ofNamed e.newStatus)]

end TriggerEvent

/-! ## Selection -/

/-- Whether a list of statuses, where it has any, names the given one. -/
def admitsStatus (statuses : List Status) (status : Option Status) : Bool :=
  statuses.isEmpty || (status.map statuses.contains).getD false

namespace BusinessRule

/-- Whether an event is one for which the rule waits. -/
def awaits (r : BusinessRule) (e : TriggerEvent) : Bool :=
  match r.trigger with
  | .onFieldChange =>
    r.watchFields.isEmpty || (e.field.map r.watchFields.contains).getD false
  | .onStatusChange =>
    admitsStatus r.fromStatuses e.oldStatus && admitsStatus r.toStatuses e.newStatus
  | .onSubmit | .scheduled => true

/-- Whether a rule runs on a trigger. -/
def runs (r : BusinessRule) (trigger : Trigger) (e : TriggerEvent) (context : Context) :
    Except Failure Bool :=
  if r.active && decide (r.trigger = trigger) && r.awaits e then
    Group.holds? r.conditions context
  else .ok false

/-- Those of some rules that run. -/
def running (trigger : Trigger) (e : TriggerEvent) (context : Context) :
    List BusinessRule → Except Failure (List BusinessRule)
  | [] => .ok []
  | r :: rest => do
    let b ← r.runs trigger e context
    let later ← running trigger e context rest
    pure (if b then r :: later else later)

/-- The rules that run, by descending priority, and in their own order where that is equal. -/
def select (rules : List BusinessRule) (trigger : Trigger) (e : TriggerEvent)
    (context : Context) : Except Failure (List BusinessRule) := do
  let selected ← running trigger e context rules
  pure (selected.mergeSort fun a b => decide (b.priority ≤ a.priority))

/-! ## Advice -/

/-- What makes an action of a rule useless. -/
def actionProblem? (trigger : Trigger) (a : Action) : Except Failure (Option String) :=
  match a.deed with
  | .notify n => .ok (if n.recipients.isEmpty then some "notify action has no recipients" else none)
  | .callWebhook w =>
    if Operand.hasPart ['\x7b', '\x7b'] w.url.toList then .ok none
    else
      match Web.Location.parse w.url with
      | .error fault => .error (.location fault)
      | .ok l => .ok (if l.isFetchable then none else some "webhook url must be http(s)")
  | .assign rule =>
    .ok (if rule.candidates.isEmpty then some "assign action has no candidates" else none)
  | .escalate _ =>
    .ok (if trigger = .scheduled then none else some "escalate actions only run on scheduled rules")
  | .setField .. | .createTask _ | .changeStatus _ => .ok none

def actionProblems (trigger : Trigger) : Nat → List Action → Except Failure (List String)
  | _, [] => .ok []
  | index, a :: rest => do
    let problem ← actionProblem? trigger a
    let later ← actionProblems trigger (index + 1) rest
    let label := match a.id with
      | some id => if id.isEmpty then s!"action[{index}]" else id
      | none => s!"action[{index}]"
    pure ((problem.map fun p => label ++ ": " ++ p).toList ++ later)

/-- Everything that makes a rule, or a part of it, useless. -/
def problems (r : BusinessRule) : Except Failure (List String) := do
  let actions ← actionProblems r.trigger 0 r.actions
  pure ((if !r.watchFields.isEmpty && r.trigger != .onFieldChange then
        ["watch_fields only applies to on_field_change rules"] else []) ++
    (if (!r.fromStatuses.isEmpty || !r.toStatuses.isEmpty) && r.trigger != .onStatusChange then
        ["from_statuses/to_statuses only apply to on_status_change rules"] else []) ++
    actions)

end BusinessRule
end Formwork
