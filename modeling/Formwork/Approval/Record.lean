import Formwork.Approval.Config
import Formwork.Status
/-!
Approval records. A record is the place for one approver's decision in one round of a chain; it is
never removed, and once decided it keeps its decision.
-/
namespace Formwork

open Document Calendar

inductive ApprovalStatus where
  /-- The level has not been reached. -/
  | waiting
  /-- Can be decided now. -/
  | pending
  | approved
  | rejected
  /-- Handed over to another approver, or settled by one. -/
  | delegated
  /-- Left undecided when the chain ended. -/
  | skipped
  deriving DecidableEq

namespace ApprovalStatus

def name : ApprovalStatus → String
  | waiting => "waiting"
  | pending => "pending"
  | approved => "approved"
  | rejected => "rejected"
  | delegated => "delegated"
  | skipped => "skipped"

def all : List ApprovalStatus := [waiting, pending, approved, rejected, delegated, skipped]

instance : Named ApprovalStatus where
  all := all
  name := name

/-- Still without a decision. -/
def isOpen : ApprovalStatus → Bool
  | waiting | pending => true
  | _ => false

theorem isOpen_iff {s : ApprovalStatus} : s.isOpen = true ↔ s = waiting ∨ s = pending := by
  cases s <;> simp [isOpen]

end ApprovalStatus

structure ApprovalRecord where
  id : String
  level : Int
  kind : LevelKind
  position : Int := 0
  round : Int := 1
  approver : Option String := none
  role : Option String := none
  status : ApprovalStatus := .pending
  requestedAt : Option Stamp := none
  decidedAt : Option Stamp := none
  decidedBy : Option String := none
  comments : Option String := none
  delegatedTo : Option String := none
  delegatedBy : Option String := none
  escalateAfter : Option Float := none
  policy : Option EscalationPolicy := none
  delegate : Option String := none
  escalated : Bool := false

namespace ApprovalRecord

def decoder : Decoder ApprovalRecord := Fields.openRecord
  (ApprovalRecord.mk <$> Fields.named "record_id" .approval Decoder.text
    <*> Fields.required "level" Decoder.whole
    <*> Fields.required "level_kind" (Decoder.oneOf LevelKind)
    <*> Fields.given "position" 0 Decoder.whole
    <*> Fields.given "round" 1 Decoder.whole
    <*> Fields.optional "approver_id" Decoder.text
    <*> Fields.optional "approver_role" Decoder.text
    <*> Fields.given "status" .pending (Decoder.oneOf ApprovalStatus)
    <*> Fields.optional "requested_at" Decoder.stamp
    <*> Fields.optional "decided_at" Decoder.stamp
    <*> Fields.optional "decided_by" Decoder.text
    <*> Fields.optional "comments" Decoder.text
    <*> Fields.optional "delegated_to" Decoder.text
    <*> Fields.optional "delegated_by" Decoder.text
    <*> Fields.optional "escalate_after_hours" Decoder.number
    <*> Fields.optional "escalation_policy" (Decoder.oneOf EscalationPolicy)
    <*> Fields.optional "delegate_to" Decoder.text
    <*> Fields.given "escalated" false Decoder.truth)
  "ApprovalRecord"

def document (r : ApprovalRecord) : Value :=
  .map [("record_id", .text r.id), ("level", .int r.level), ("level_kind", ofNamed r.kind),
    ("position", .int r.position), ("round", .int r.round),
    ("approver_id", Value.ofText? r.approver), ("approver_role", Value.ofText? r.role),
    ("status", ofNamed r.status), ("requested_at", ofOption ofStamp r.requestedAt),
    ("decided_at", ofOption ofStamp r.decidedAt), ("decided_by", Value.ofText? r.decidedBy),
    ("comments", Value.ofText? r.comments), ("delegated_to", Value.ofText? r.delegatedTo),
    ("delegated_by", Value.ofText? r.delegatedBy),
    ("escalate_after_hours", ofOption Value.float r.escalateAfter),
    ("escalation_policy", ofOption ofNamed r.policy), ("delegate_to", Value.ofText? r.delegate),
    ("escalated", .bool r.escalated)]

/-- What to call the approver of a record: by name, or by role. -/
def approverName (r : ApprovalRecord) : String :=
  match r.approver with
  | some id => if id.isEmpty then roleName r else id
  | none => roleName r
where
  roleName (r : ApprovalRecord) : String := "role:" ++ r.role.getD "None"

end ApprovalRecord
end Formwork
