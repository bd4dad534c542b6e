import Formwork.Approval.Chain
import Formwork.Assignment.Basic
/-!
How far a submission has come: its step, its status, the records of its approval chains, and a
history to which events are only ever added.
-/
namespace Formwork

open Document Calendar

/-! ## History -/

inductive EventKind where
  | workflowStarted
  | actionExecuted
  | approvalInitialized
  | approvalDecision
  | approvalEscalated
  | assigned
  | statusChanged
  deriving DecidableEq

namespace EventKind

def name : EventKind → String
  | workflowStarted => "WORKFLOW_STARTED"
  | actionExecuted => "ACTION_EXECUTED"
  | approvalInitialized => "APPROVAL_INITIALIZED"
  | approvalDecision => "APPROVAL_DECISION"
  | approvalEscalated => "APPROVAL_ESCALATED"
  | assigned => "ASSIGNED"
  | statusChanged => "STATUS_CHANGED"

instance : Named EventKind where
  all := [workflowStarted, actionExecuted, approvalInitialized, approvalDecision,
    approvalEscalated, assigned, statusChanged]
  name := name

end EventKind

structure HistoryEvent where
  id : String
  kind : EventKind
  time : Stamp
  actor : Option String := none
  step : Option String := none
  details : Entries Value := []

namespace HistoryEvent

def decoder : Decoder HistoryEvent := Fields.openRecord
  (HistoryEvent.mk <$> Fields.named "event_id" .event Decoder.text
    <*> Fields.required "event_type" (Decoder.oneOf EventKind)
    <*> Fields.required "at" Decoder.stamp
    <*> Fields.optional "actor_id" Decoder.text
    <*> Fields.optional "step_id" Decoder.text
    <*> Fields.given "details" [] Decoder.anyMap)
  "TimelineEvent"

def document (e : HistoryEvent) : Value :=
  .map [("event_id", .text e.id), ("event_type", ofNamed e.kind), ("at", ofStamp e.time),
    ("actor_id", Value.ofText? e.actor), ("step_id", Value.ofText? e.step),
    ("details", .map e.details)]

end HistoryEvent

/-! ## States -/

structure SubmissionState where
  step : String
  status : Status
  chain : Chain := []
  assignee : Option Assignee := none
  /-- How many approval chains have been started. -/
  round : Int := 0
  /-- Counts the changes, so that a caller can tell whether what it read is still current. -/
  version : Int := 0
  history : List HistoryEvent := []

namespace SubmissionState

def decoder : Decoder SubmissionState := Fields.openRecord
  (SubmissionState.mk <$> Fields.required "current_step_id" Decoder.text
    <*> Fields.required "status" (Decoder.oneOf Status)
    <*> Fields.given "approvals" [] (Decoder.list ApprovalRecord.decoder)
    <*> Fields.optional "assigned_to" Assignee.decoder
    <*> Fields.given "approval_round" 0 Decoder.whole
    <*> Fields.given "version" 0 Decoder.whole
    <*> Fields.given "history" [] (Decoder.list HistoryEvent.decoder))
  "WorkflowState"

def entries (s : SubmissionState) : Entries Value :=
  [("current_step_id", .text s.step), ("status", ofNamed s.status),
    ("approvals", ofList ApprovalRecord.document s.chain),
    ("assigned_to", ofOption Assignee.document s.assignee), ("approval_round", .int s.round),
    ("version", .int s.version), ("history", ofList HistoryEvent.document s.history)]

def document (s : SubmissionState) : Value := .map s.entries

/-- The records of the round that was started last. -/
def currentRound (s : SubmissionState) : Chain := s.chain.ofRound s.round

def add (s : SubmissionState) (e : HistoryEvent) : SubmissionState :=
  { s with history := s.history ++ [e] }

/-- Add an event under a fresh name. -/
def note (s : SubmissionState) (kind : EventKind) (time : Stamp) (actor step : Option String)
    (details : Entries Value) : Work SubmissionState := do
  let id ← Work.fresh .event
  pure (s.add ⟨id, kind, time, actor, step, details⟩)

/-- Add the change from a status that someone remembers, unless it is the present one. -/
def noteChange (s : SubmissionState) (previous : Value) (time : Stamp) (actor : Option String) :
    Work SubmissionState :=
  if previous.same (ofNamed s.status) then pure s
  else
    s.note .statusChanged time actor (some s.step)
      [("from", previous), ("to", ofNamed s.status)]

/-- Add the change from an earlier status, if the status moved. -/
def noteStatus (s : SubmissionState) (previous : Status) (time : Stamp) (actor : Option String) :
    Work SubmissionState :=
  s.noteChange (ofNamed previous) time actor

/-- The next version of a state. -/
def bump (s : SubmissionState) : SubmissionState := { s with version := s.version + 1 }

@[simp] theorem history_add (s : SubmissionState) (e : HistoryEvent) :
    (s.add e).history = s.history ++ [e] := rfl

@[simp] theorem version_bump (s : SubmissionState) : s.bump.version = s.version + 1 := rfl

end SubmissionState
end Formwork
