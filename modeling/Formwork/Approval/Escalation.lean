import Formwork.Approval.Chain
import Formwork.Settings
/-!
Escalation: pending records whose approvers were asked too long ago, and what is to become of each.
Nothing is changed by looking for them.
-/
namespace Formwork

open Document Calendar

/-- A record that has waited too long, and what to do about it. -/
structure Escalation where
  record : String
  level : Int
  approver : Option String
  role : Option String
  policy : EscalationPolicy
  delegate : Option String
  /-- In hours, to two places. -/
  waited : Float

namespace Escalation

def decoder : Decoder Escalation := Fields.openRecord
  (Escalation.mk <$> Fields.required "record_id" Decoder.text
    <*> Fields.required "level" Decoder.whole
    <*> Fields.optional "approver_id" Decoder.text
    <*> Fields.optional "approver_role" Decoder.text
    <*> Fields.required "policy" (Decoder.oneOf EscalationPolicy)
    <*> Fields.optional "delegate_to" Decoder.text
    <*> Fields.required "waited_hours" Decoder.number)
  "EscalationResult"

def entries (e : Escalation) : Entries Value :=
  [("record_id", .text e.record), ("level", .int e.level),
    ("approver_id", Value.ofText? e.approver), ("approver_role", Value.ofText? e.role),
    ("policy", ofNamed e.policy), ("delegate_to", Value.ofText? e.delegate),
    ("waited_hours", .float e.waited)]

def document (e : Escalation) : Value := .map e.entries

/-- The actor of decisions that nobody makes. -/
def system : String := "system"

def comment (e : Escalation) : String := "Escalated after " ++ Decimal.floatText e.waited ++ "h"

/-- The decision that an escalation amounts to; one that only notifies decides nothing. -/
def verdict? (e : Escalation) (time : Stamp) : Option Verdict :=
  match e.policy with
  | .notifyOnly => none
  | .delegate => some ⟨.delegate, system, some e.comment, e.delegate, time⟩
  | .autoReject => some ⟨.reject, system, some e.comment, none, time⟩

end Escalation

namespace ApprovalRecord

def hasDelegate (r : ApprovalRecord) : Bool := !(r.delegate.getD "").isEmpty

/-- The policy for a record, before it is known whether it can be carried out. -/
def statedPolicy (r : ApprovalRecord) (settings : Settings) : Except Failure EscalationPolicy :=
  match r.policy with
  | some policy => .ok policy
  | none =>
    if r.hasDelegate then .ok .delegate
    else
      match Named.ofName? EscalationPolicy settings.escalationPolicy with
      | some policy => .ok policy
      | none => .error (.notMember (Text.quoted settings.escalationPolicy) "EscalationPolicy")

/-- The policy for a record; without a delegate nothing can be delegated. -/
def resolvePolicy (r : ApprovalRecord) (settings : Settings) : Except Failure EscalationPolicy := do
  let policy ← r.statedPolicy settings
  pure (if policy = .delegate ∧ !r.hasDelegate then .notifyOnly else policy)

/-- The escalation of a record, if it is due. -/
def escalation? (r : ApprovalRecord) (settings : Settings) (now : Stamp) :
    Except Failure (Option Escalation) :=
  if !r.isPending || r.escalated then .ok none
  else
    match r.escalateAfter, r.requestedAt with
    | some limit, some since => do
      let waited ← (since.hoursTo now).mapError .span
      if waited < limit then pure none
      else do
        let policy ← r.resolvePolicy settings
        pure (some ⟨r.id, r.level, r.approver, r.role, policy, r.delegate,
          Decimal.roundToCents waited⟩)
    | _, _ => .ok none

end ApprovalRecord

namespace Chain

/-- All escalations that are due. -/
def escalations (c : Chain) (settings : Settings) (now : Stamp) :
    Except Failure (List Escalation) :=
  match c with
  | [] => .ok []
  | r :: rest => do
    let found ← r.escalation? settings now
    let later ← escalations rest settings now
    pure (found.toList ++ later)

/-- Mark the records of an id as escalated. -/
def markEscalated (c : Chain) (id : String) : Chain :=
  c.map fun r => if r.id == id then { r with escalated := true } else r

/-- Carry out an escalation on a chain whose submission has a status. -/
def escalate (c : Chain) (status : Status) (e : Escalation) (time : Stamp) :
    Work ApprovalOutcome :=
  let c := c.markEscalated e.record
  match e.verdict? time with
  | some v => c.decide e.record v
  | none => pure { chain := c, status := status, next := c.nextApprovers }

end Chain
end Formwork
