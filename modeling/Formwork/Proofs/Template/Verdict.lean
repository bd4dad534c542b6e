import Formwork.Proofs.Template.Found
import Formwork.Proofs.Template.Stopping
import Formwork.Proofs.Template.Writable
import Formwork.Template.Report
/-!
# The verdict on the text of a file

The report on a text passes through three stages: the text is read as JSON, the JSON as a template,
and the template is reviewed. Each stage turns what it finds wrong into lines of the report, and each
has something that it does not turn into lines; then there is no report at all. Where there is one,
it calls the template usable exactly if all stages found nothing that forbids it. Whatever the report
has to write can be written, because it was read.
-/
namespace Formwork

open Document

/-! ## Advice on business rules -/

namespace BusinessRule

end BusinessRule

namespace Report

/-! ## From texts to templates -/

/-- The document in the text of a file. -/
def document (host : Host) (text : String) : Except Json.Fault Value :=
  Json.read host (String.ofList (unifyLineEnds text.toList))

/-- The text is that of a template. -/
def Describes (host : Host) (text : String) (t : FormTemplate) : Prop :=
  ∃ v, document host text = .ok v ∧ (FormTemplate.decoder host v {}).1 = .ok t

section Document

variable {host : Host} {path text : String} {v : Value}

end Document

end Report
end Formwork
