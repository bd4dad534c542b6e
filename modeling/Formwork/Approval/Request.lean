import Formwork.Approval.Escalation
import Formwork.Submission.Basic
/-!
Decisions on submissions. A request says who decides what on which submission, and may name the
version that was read; it is carried out only on that version, while the submission awaits approval,
and for someone who is asked now.
-/
namespace Formwork

open Document Calendar

structure ApprovalRequest where
  submission : Submission
  config : ApprovalConfig
  approver : String
  roles : List String := []
  decision : Decision
  comments : Option String := none
  delegate : Option String := none
  expectedVersion : Option Int := none
  time : Stamp

namespace ApprovalRequest

/-- A request whose submission, configuration and time come from elsewhere. -/
def fields (submission : Fields Submission) (config : Fields ApprovalConfig) (time : Fields Stamp) :
    Fields ApprovalRequest :=
  ApprovalRequest.mk <$> submission
    <*> config
    <*> Fields.required "approver_id" Decoder.text
    <*> Fields.given "approver_roles" [] (Decoder.list Decoder.text)
    <*> Fields.required "decision" (Decoder.oneOf Decision)
    <*> Fields.optional "comments" Decoder.text
    <*> Fields.optional "delegate_to" Decoder.text
    <*> Fields.optional "expected_version" Decoder.whole
    <*> time

def modelName : String := "ApprovalRequest"

def decoder (host : Host) (now : Instant) : Decoder ApprovalRequest := Fields.openRecord
  (fields (Fields.required "submission" Submission.decoder)
    (Fields.required "config" (ApprovalConfig.decoder host))
    (Fields.given "decided_at" (Stamp.ofInstant now) Decoder.stamp))
  modelName

/-- A request on a submission, where the rest is a document. -/
def read (submission : Submission) (config : ApprovalConfig) (time : Stamp) (v : Value) :
    Work ApprovalRequest :=
  ((fields (pure submission) (pure config) (pure time)).openRecord modelName).decode modelName v

def document (r : ApprovalRequest) : Value :=
  .map [("submission", r.submission.document), ("config", r.config.document),
    ("approver_id", .text r.approver), ("approver_roles", Value.ofTexts r.roles),
    ("decision", ofNamed r.decision), ("comments", Value.ofText? r.comments),
    ("delegate_to", Value.ofText? r.delegate),
    ("expected_version", Value.ofInt? r.expectedVersion), ("decided_at", ofStamp r.time)]

def verdict (r : ApprovalRequest) : Verdict :=
  ⟨r.decision, r.approver, r.comments, r.delegate, r.time⟩

/-- The record that the request decides, in the state of its submission. -/
def target (r : ApprovalRequest) : Except Failure (SubmissionState × ApprovalRecord) := do
  let s := r.submission
  let state ← s.requireState
  match r.expectedVersion with
  | some version =>
    if version ≠ state.version then
      throw (.refuse .concurrency "Submission was modified by another decision; re-read and retry"
        [s.detail, ("expected_version", .int version), ("actual_version", .int state.version)])
  | none => pure ()
  if state.status ≠ .pendingApproval then
    throw (.refuse .invalidState s!"Submission is {state.status.name}, not awaiting approval"
      [s.detail, ("status", ofNamed state.status)])
  match state.chain.actionableBy? r.approver r.roles with
  | some record => pure (state, record)
  | none =>
    throw (.refuse .unauthorized "Approver is not expected to act on this submission"
      [s.detail, ("approver_id", .text r.approver)])

/-- Make the decision. -/
def process (r : ApprovalRequest) : Work ApprovalOutcome := do
  let (state, record) ← Work.lift r.target
  state.chain.decide record.id r.verdict

end ApprovalRequest

namespace Submission

/-- Whether someone could decide now. -/
def canApprove (s : Submission) (actor : String) (roles : List String) : Bool :=
  match s.state with
  | none => false
  | some state =>
    state.status = .pendingApproval && (state.chain.actionableBy? actor roles).isSome

/-- Carry out an escalation on a submission that awaits approval. -/
def escalate (s : Submission) (e : Escalation) (time : Stamp) : Work ApprovalOutcome :=
  let refused := Failure.refuse .invalidState "Submission is not awaiting approval" [s.detail]
  match s.state with
  | none => throw refused
  | some state =>
    if state.status = .pendingApproval then state.chain.escalate state.status e time
    else throw refused

end Submission
end Formwork
