import Formwork.Action.Basic
import Formwork.Action.Rendering
import Formwork.Field.Update
/-!
From actions to what they ask of the caller: an instruction, or the update of a field.
-/
namespace Formwork

open Document Calendar

namespace Notice

def payload (n : Notice) (c : Context) : Except Failure (Entries Value) := do
  let recipients ← c.render (Value.ofTexts n.recipients)
  let subject ← c.render (Value.ofText? n.subject)
  let message ← c.render (Value.ofText? n.message)
  pure [("recipients", recipients), ("template", Value.ofText? n.template), ("subject", subject),
    ("message", message), ("channel", .text n.channel)]

end Notice

namespace WebCall

def payloadFor (w : WebCall) (c : Context) : Except Failure (Entries Value) := do
  let url ← c.render (.text w.url)
  let headers ← c.render (ofEntries Value.text w.headers)
  let payload ← c.render (.map w.payload)
  pure [("url", url), ("method", .text (Text.upper w.method)), ("headers", headers),
    ("payload", payload)]

end WebCall

namespace Task

/-- When a task is due, as a text. -/
def dueAt (t : Task) (c : Context) : Except Failure Value :=
  match t.dueInHours with
  | none => .ok .null
  | some hours =>
    match c.now.addHours hours with
    | .ok due => .ok (.text due.isoText)
    | .error fault => .error (.span fault)

def payload (t : Task) (c : Context) : Except Failure (Entries Value) := do
  let title ← c.render (.text t.title)
  let description ← c.render (Value.ofText? t.description)
  let assignee ← c.render (Value.ofText? t.assignee)
  let due ← t.dueAt c
  pure [("title", title), ("description", description), ("assignee", assignee),
    ("priority", Value.ofText? t.priority), ("due_at", due)]

end Task

namespace Action

/-- What an action asks the caller to do, with the details; other actions ask nothing. -/
def request (a : Action) (c : Context) :
    Except Failure (Option (InstructionKind × Entries Value)) :=
  match a.deed with
  | .notify n => do pure (some (.notify, ← n.payload c))
  | .callWebhook w => do pure (some (.callWebhook, ← w.payloadFor c))
  | .createTask t => do pure (some (.createTask, ← t.payload c))
  | _ => .ok none

/-- The submission of a context, among the details. -/
def withSubmission (payload : Entries Value) (c : Context) : Entries Value :=
  match c.submission.id with
  | none => payload
  | some id => payload.insert "submission_id" (.text id)

/-- The instruction of an action, under a fresh name. -/
def instruction (a : Action) (source : String) (c : Context) : Work (Option Instruction) := do
  match ← Work.lift (a.request c) with
  | none => pure none
  | some (kind, payload) =>
    let id ← Work.fresh .instruction
    pure (some ⟨id, kind, source, withSubmission payload c⟩)

/-- The update of an action that sets a field. -/
def update? (a : Action) (source : String) (c : Context) : Except Failure (Option Update) :=
  match a.deed with
  | .setField field value => do pure (some ⟨field, .value, ← c.render value, some source⟩)
  | _ => .ok none

end Action
end Formwork
