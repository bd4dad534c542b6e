import Formwork.Assignment.Basic
import Formwork.Status
import Formwork.Data.Display
/-!
Actions of rules and workflows, and the instructions in which the library hands to its caller what
has to happen outside.
-/
namespace Formwork

open Document

structure Notice where
  recipients : List String
  template : Option String
  subject : Option String
  message : Option String
  channel : String

structure Task where
  title : String
  description : Option String
  assignee : Option String
  priority : Option String
  dueInHours : Option Float

structure WebCall where
  url : String
  method : String
  headers : Entries String
  payload : Entries Value

inductive Deed where
  | notify (notice : Notice)
  | assign (rule : AssignmentRule)
  | setField (field : String) (value : Value)
  | createTask (task : Task)
  | changeStatus (status : Status)
  | escalate (reason : Option String)
  | callWebhook (call : WebCall)

structure Action where
  id : Option String
  deed : Deed

inductive ActionKind where
  | notify
  | assign
  | setFieldValue
  | createTask
  | changeStatus
  | escalate
  | callWebhook
  deriving DecidableEq

namespace ActionKind

def name : ActionKind → String
  | notify => "notify"
  | assign => "assign"
  | setFieldValue => "set_field_value"
  | createTask => "create_task"
  | changeStatus => "change_status"
  | escalate => "escalate"
  | callWebhook => "call_webhook"

instance : Named ActionKind where
  all := [notify, assign, setFieldValue, createTask, changeStatus, escalate, callWebhook]
  name := name

/-- Kinds that a step of a workflow may carry out by itself: they act outside or on fields, and
never on the workflow. -/
def isAutomatic : ActionKind → Bool
  | notify | setFieldValue | createTask | callWebhook => true
  | assign | changeStatus | escalate => false

end ActionKind

namespace Action

def kind (a : Action) : ActionKind :=
  match a.deed with
  | .notify _ => .notify
  | .assign _ => .assign
  | .setField .. => .setFieldValue
  | .createTask _ => .createTask
  | .changeStatus _ => .changeStatus
  | .escalate _ => .escalate
  | .callWebhook _ => .callWebhook

/-! ## Documents -/

/-- The entry that says what kind an action is of. -/
def tagName : String := "type"

/-- The fields that all kinds have, around those of one kind. -/
def tagged (kind : ActionKind) (deed : Fields Deed) : Fields Action :=
  (fun id _ deed => ⟨id, deed⟩) <$> Fields.optional "action_id" Decoder.text
    <*> Fields.given tagName kind.name (Decoder.constant kind.name)
    <*> deed

def notifyDecoder : Decoder Action := (tagged .notify <| Deed.notify <$>
  (Notice.mk <$> Fields.given "recipients" [] (Decoder.list Decoder.text)
    <*> Fields.optional "template" Decoder.text
    <*> Fields.optional "subject" Decoder.text
    <*> Fields.optional "message" Decoder.text
    <*> Fields.given "channel" "email" Decoder.text)).record "NotifyAction"

def assignDecoder (host : Host) : Decoder Action := (tagged .assign <|
  Deed.assign <$> Fields.required "rule" (AssignmentRule.decoder host)).record "AssignAction"

def setFieldDecoder : Decoder Action := (tagged .setFieldValue <|
  Deed.setField <$> Fields.required "field_id" Decoder.text
    <*> Fields.given "value" .null Decoder.any).record "SetFieldValueAction"

def taskDecoder : Decoder Action := (tagged .createTask <| Deed.createTask <$>
  (Task.mk <$> Fields.required "title" Decoder.text
    <*> Fields.optional "description" Decoder.text
    <*> Fields.optional "assignee" Decoder.text
    <*> Fields.optional "priority" Decoder.text
    <*> Fields.optional "due_in_hours" Decoder.number)).record "CreateTaskAction"

def statusDecoder : Decoder Action := ((tagged .changeStatus <|
  Deed.changeStatus <$> Fields.required "status" (Decoder.oneOf Status)).record
    "ChangeStatusAction").check fun a =>
      match a.deed with
      | .changeStatus status =>
        if status.isFinal then .ok a
        else .broken "change_status only targets COMPLETED, REJECTED or CANCELLED"
      | _ => .ok a

def escalateDecoder : Decoder Action := (tagged .escalate <|
  Deed.escalate <$> Fields.optional "reason" Decoder.text).record "EscalateAction"

def webhookDecoder : Decoder Action := (tagged .callWebhook <| Deed.callWebhook <$>
  (WebCall.mk <$> Fields.required "url" Decoder.text
    <*> Fields.given "method" "POST" Decoder.text
    <*> Fields.given "headers" [] (Decoder.entries Decoder.text)
    <*> Fields.given "payload" [] Decoder.anyMap)).record "CallWebhookAction"

def decoderFor (host : Host) : ActionKind → Decoder Action
  | .notify => notifyDecoder
  | .assign => assignDecoder host
  | .setFieldValue => setFieldDecoder
  | .createTask => taskDecoder
  | .changeStatus => statusDecoder
  | .escalate => escalateDecoder
  | .callWebhook => webhookDecoder

/-- A tag as it is quoted; where a tag has no text its kind is quoted instead. -/
def tagText (tag : Value) : String :=
  tag.display?.getD ("<unprintable " ++ tag.kindName ++ " object>")

def decoder (host : Host) : Decoder Action := fun v =>
  match v with
  | .map es =>
    match Entries.get? tagName es with
    | none => pure (.fault (.noTag tagName))
    | some tag =>
      let kind? := match tag with
        | .text s => Named.ofName? ActionKind s
        | _ => none
      match kind? with
      | none =>
        pure (.fault (.unknownTag (tagText tag) tagName
          ((Named.all : List ActionKind).map ActionKind.name)))
      | some kind => do
        return (← decoderFor host kind v).under (.name kind.name)
  | _ => pure (.fault .notObject)

def deedEntries : Deed → Entries Value
  | .notify n => [("recipients", Value.ofTexts n.recipients), ("template", Value.ofText? n.template),
      ("subject", Value.ofText? n.subject), ("message", Value.ofText? n.message),
      ("channel", .text n.channel)]
  | .assign rule => [("rule", rule.document)]
  | .setField field value => [("field_id", .text field), ("value", value)]
  | .createTask t => [("title", .text t.title), ("description", Value.ofText? t.description),
      ("assignee", Value.ofText? t.assignee), ("priority", Value.ofText? t.priority),
      ("due_in_hours", ofOption Value.float t.dueInHours)]
  | .changeStatus status => [("status", ofNamed status)]
  | .escalate reason => [("reason", Value.ofText? reason)]
  | .callWebhook c => [("url", .text c.url), ("method", .text c.method),
      ("headers", ofEntries Value.text c.headers), ("payload", .map c.payload)]

def document (a : Action) : Value :=
  .map (("action_id", Value.ofText? a.id) :: (tagName, ofNamed a.kind) :: deedEntries a.deed)

/-- The first of the actions that a workflow must not carry out by itself, as the fault it is. -/
def automaticFault? (owner : String) (actions : List Action) : Option String :=
  (actions.find? fun a => !a.kind.isAutomatic).map fun a =>
    s!"{owner}: '{a.kind.name}' is not allowed as a workflow auto-action"

end Action

/-! ## Instructions -/

inductive InstructionKind where
  | notify
  | callWebhook
  | createTask
  | setFieldValue
  | escalate
  deriving DecidableEq

namespace InstructionKind

def name : InstructionKind → String
  | notify => "notify"
  | callWebhook => "call_webhook"
  | createTask => "create_task"
  | setFieldValue => "set_field_value"
  | escalate => "escalate"

instance : Named InstructionKind where
  all := [notify, callWebhook, createTask, setFieldValue, escalate]
  name := name

end InstructionKind

/-- Something for the caller to do. -/
structure Instruction where
  id : String
  kind : InstructionKind
  /-- The rule, action, step or approval that asks for it. -/
  source : String
  payload : Entries Value

namespace Instruction

def decoder : Decoder Instruction := Fields.openRecord
  (Instruction.mk <$> Fields.named "instruction_id" .instruction Decoder.text
    <*> Fields.required "type" (Decoder.oneOf InstructionKind)
    <*> Fields.required "source" Decoder.text
    <*> Fields.given "payload" [] Decoder.anyMap)
  "Instruction"

def document (i : Instruction) : Value :=
  .map [("instruction_id", .text i.id), ("type", ofNamed i.kind), ("source", .text i.source),
    ("payload", .map i.payload)]

end Instruction
end Formwork
