import Formwork.Document.Scalar
/-!
The status of a submission. Three of them are final: nothing follows a submission that is completed,
rejected or cancelled.
-/
namespace Formwork

open Document

inductive Status where
  | draft
  | submitted
  | inProgress
  | pendingApproval
  | completed
  | rejected
  | cancelled
  deriving DecidableEq

namespace Status

def name : Status → String
  | draft => "DRAFT"
  | submitted => "SUBMITTED"
  | inProgress => "IN_PROGRESS"
  | pendingApproval => "PENDING_APPROVAL"
  | completed => "COMPLETED"
  | rejected => "REJECTED"
  | cancelled => "CANCELLED"

instance : Named Status where
  all := [draft, submitted, inProgress, pendingApproval, completed, rejected, cancelled]
  name := name

def isFinal : Status → Bool
  | completed | rejected | cancelled => true
  | _ => false

/-- A status by its name, where a caller gives one. -/
def ofValue (v : Value) : Except Failure Status := Named.ofValue Status "SubmissionStatus" v

end Status
end Formwork
