import Formwork.Submission.State
/-!
Submissions: the answers that someone handed in for a form, and how far they have come.
-/
namespace Formwork

open Document Calendar

structure Submission where
  id : String
  template : Option String := none
  data : Entries Value := []
  submitter : User
  state : Option SubmissionState := none

namespace Submission

def decoder : Decoder Submission := Fields.openRecord
  (Submission.mk <$> Fields.required "submission_id" Decoder.text
    <*> Fields.optional "template_id" Decoder.text
    <*> Fields.given "data" [] Decoder.anyMap
    <*> Fields.required "submitted_by" User.decoder
    <*> Fields.optional "workflow_state" SubmissionState.decoder)
  "SubmissionSnapshot"

def document (s : Submission) : Value :=
  .map [("submission_id", .text s.id), ("template_id", Value.ofText? s.template),
    ("data", .map s.data), ("submitted_by", s.submitter.document),
    ("workflow_state", ofOption SubmissionState.document s.state)]

def status (s : Submission) : Option Status := s.state.map (·.status)

/-- The id among the details of a refusal. -/
def detail (s : Submission) : String × Value := ("submission_id", .text s.id)

/-- The state, without which nothing can be done to a submission. -/
def requireState (s : Submission) : Except Failure SubmissionState :=
  match s.state with
  | some state => .ok state
  | none => .error (.refuse .invalidState "Submission has no workflow state" [s.detail])

end Submission

/-- What a submission is read against: its own data, with its submitter as the user. -/
def Context.ofSubmission (s : Submission) (host : Host) (now : Instant)
    (locale : Option String) : Context :=
  { data := s.data, user := some s.submitter, submission := ⟨some s.id, s.status⟩,
    locale := locale, now := now, host := host }

end Formwork
