import Formwork.Condition.Document
/-!
The configuration of approval chains: levels that are cleared one after another, each by approvers
who are named, hold a role, or are named in a field of the form.
-/
namespace Formwork

open Document

/-- How the approvers of a level act together: one after another, all of them, or any one. -/
inductive LevelKind where
  | sequential
  | parallel
  | anyOf
  deriving DecidableEq

namespace LevelKind

def name : LevelKind → String
  | sequential => "sequential"
  | parallel => "parallel"
  | anyOf => "any_of"

instance : Named LevelKind where
  all := [sequential, parallel, anyOf]
  name := name

end LevelKind

/-- What happens to an approval that waits too long. -/
inductive EscalationPolicy where
  | notifyOnly
  | delegate
  | autoReject
  deriving DecidableEq

namespace EscalationPolicy

def name : EscalationPolicy → String
  | notifyOnly => "notify_only"
  | delegate => "delegate"
  | autoReject => "auto_reject"

instance : Named EscalationPolicy where
  all := [notifyOnly, delegate, autoReject]
  name := name

end EscalationPolicy

structure ApprovalLevel where
  name : Option String := none
  kind : LevelKind := .sequential
  approvers : List String := []
  roles : List String := []
  /-- A data field that names approvers. -/
  approverField : Option String := none
  /-- The level is left out where this does not hold. -/
  condition : Option Group := none
  escalateAfter : Option Float := none
  policy : Option EscalationPolicy := none
  delegate : Option String := none

namespace ApprovalLevel

/-- Whether a level says at all who approves. -/
def namesApprovers (l : ApprovalLevel) : Bool :=
  !l.approvers.isEmpty || !l.roles.isEmpty || !(l.approverField.getD "").isEmpty

def decoder (host : Host) : Decoder ApprovalLevel :=
  (Fields.record
    (ApprovalLevel.mk <$> Fields.optional "name" Decoder.text
      <*> Fields.given "kind" .sequential (Decoder.oneOf LevelKind)
      <*> Fields.given "approver_ids" [] (Decoder.list Decoder.text)
      <*> Fields.given "approver_roles" [] (Decoder.list Decoder.text)
      <*> Fields.optional "dynamic_approver_field" Decoder.text
      <*> Fields.optional "condition" (Group.decoder host)
      <*> Fields.optional "escalate_after_hours" Decoder.number
      <*> Fields.optional "escalation_policy" (Decoder.oneOf EscalationPolicy)
      <*> Fields.optional "delegate_to" Decoder.text)
    "ApprovalLevel").check fun l =>
      if l.namesApprovers then .ok l
      else .broken "approval level needs approver_ids, approver_roles or dynamic_approver_field"

def document (l : ApprovalLevel) : Value :=
  .map [("name", Value.ofText? l.name), ("kind", ofNamed l.kind),
    ("approver_ids", Value.ofTexts l.approvers), ("approver_roles", Value.ofTexts l.roles),
    ("dynamic_approver_field", Value.ofText? l.approverField),
    ("condition", ofOption Group.document l.condition),
    ("escalate_after_hours", ofOption Value.float l.escalateAfter),
    ("escalation_policy", ofOption ofNamed l.policy), ("delegate_to", Value.ofText? l.delegate)]

end ApprovalLevel

structure ApprovalConfig where
  enabled : Bool := true
  /-- The whole chain is left out where this holds. -/
  skipWhen : Option Group := none
  levels : List ApprovalLevel := []

namespace ApprovalConfig

def decoder (host : Host) : Decoder ApprovalConfig := Fields.record
  (ApprovalConfig.mk <$> Fields.given "enabled" true Decoder.truth
    <*> Fields.optional "skip_when" (Group.decoder host)
    <*> Fields.given "levels" [] (Decoder.list (ApprovalLevel.decoder host)))
  "ApprovalConfig"

def document (c : ApprovalConfig) : Value :=
  .map [("enabled", .bool c.enabled), ("skip_when", ofOption Group.document c.skipWhen),
    ("levels", ofList ApprovalLevel.document c.levels)]

end ApprovalConfig
end Formwork
