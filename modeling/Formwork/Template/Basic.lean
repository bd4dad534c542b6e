import Formwork.Automation.Rule
import Formwork.Field.Rule
import Formwork.Validation.Rule
import Formwork.Workflow.Config
/-!
Templates: everything that is declared about one form. Ids within a list are distinct, and every
approval step of the workflow has a chain, of its own or of the template.
-/
namespace Formwork

open Document

structure FormTemplate where
  id : String
  name : Option String := none
  version : Int := 1
  published : Bool := false
  fields : List Field := []
  fieldRules : List FieldRule := []
  formRules : List FormRule := []
  workflow : Option Workflow := none
  approval : Option ApprovalConfig := none
  assignmentRules : List AssignmentRule := []
  businessRules : List BusinessRule := []

/-- The members of a list that it has more than once, in ascending order. -/
def repeated (ids : List String) : List String :=
  ascending (distinct (ids.filter fun id => 1 < ids.count id))

namespace FormTemplate

/-- What is unsound in a template. -/
inductive Flaw where
  | repeatedIds (label : String) (ids : List String)
  | noApproval (step : String)

def Flaw.message : Flaw → String
  | repeatedIds label ids => s!"duplicate {label} ids: " ++ ", ".intercalate ids
  | noApproval step => s!"approval step {step} has no approval config"

def fieldIds (t : FormTemplate) : List String := t.fields.map (·.id)

/-- The lists of ids, each with what it lists. -/
def idLists (t : FormTemplate) : List (String × List String) :=
  [("field", t.fieldIds), ("conditional rule", t.fieldRules.map (·.id)),
    ("validation rule", t.formRules.map (·.id)), ("business rule", t.businessRules.map (·.id))]

def idFlaw? (t : FormTemplate) : Option Flaw :=
  t.idLists.findSome? fun (label, ids) =>
    if (repeated ids).isEmpty then none else some (.repeatedIds label (repeated ids))

def approvalFlaw? (t : FormTemplate) : Option Flaw :=
  match t.workflow, t.approval with
  | some w, none =>
    (w.steps.find? fun s => s.kind = .approval && s.approval.isNone).map fun s => .noApproval s.id
  | _, _ => none

def flaw? (t : FormTemplate) : Option Flaw := t.idFlaw?.or t.approvalFlaw?

def modelName : String := "FormTemplate"

def decoder (host : Host) : Decoder FormTemplate :=
  (Fields.openRecord
    (FormTemplate.mk <$> Fields.required "template_id" Decoder.text
      <*> Fields.optional "name" Decoder.text
      <*> Fields.given "version" 1 Decoder.whole
      <*> Fields.given "is_published" false Decoder.truth
      <*> Fields.given "fields" [] (Decoder.list (Field.decoder host))
      <*> Fields.given "conditional_rules" [] (Decoder.list (FieldRule.decoder host))
      <*> Fields.given "validation_rules" [] (Decoder.list (FormRule.decoder host))
      <*> Fields.optional "workflow" (Workflow.decoder host)
      <*> Fields.optional "approval" (ApprovalConfig.decoder host)
      <*> Fields.given "assignment_rules" [] (Decoder.list (AssignmentRule.decoder host))
      <*> Fields.given "business_rules" [] (Decoder.list (BusinessRule.decoder host)))
    modelName).check fun t =>
      match t.flaw? with
      | none => .ok t
      | some flaw => .broken flaw.message

def document (t : FormTemplate) : Value :=
  .map [("template_id", .text t.id), ("name", Value.ofText? t.name), ("version", .int t.version),
    ("is_published", .bool t.published), ("fields", ofList Field.document t.fields),
    ("conditional_rules", ofList FieldRule.document t.fieldRules),
    ("validation_rules", ofList FormRule.document t.formRules),
    ("workflow", ofOption Workflow.document t.workflow),
    ("approval", ofOption ApprovalConfig.document t.approval),
    ("assignment_rules", ofList AssignmentRule.document t.assignmentRules),
    ("business_rules", ofList BusinessRule.document t.businessRules)]

end FormTemplate
end Formwork
