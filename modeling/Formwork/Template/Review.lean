import Formwork.Template.Basic
/-!
Reviewing templates: what reading one does not refuse and is wrong all the same, such as rules about
fields that the form does not have, or steps to which no action leads.
-/
namespace Formwork

/-- The steps to which the actions of a step lead, without those of the given ids. -/
def Step.targetsBeyond (s : Step) (ids : List String) : List String :=
  distinct ((s.actions.map (·.target)).filter (!ids.contains ·))

theorem Step.mem_targetsBeyond {s : Step} {ids : List String} {id : String} :
    id ∈ s.targetsBeyond ids ↔ (∃ a ∈ s.actions, a.target = id) ∧ id ∉ ids := by
  simp [targetsBeyond]

namespace StepGraph

/-- The targets of all actions that are not among the given ids. -/
def targetsBeyond (g : StepGraph) (ids : List String) : List String :=
  (g.steps.flatMap fun s => s.actions.map (·.target)).filter (!ids.contains ·)

/-- What a step adds to the ids is no longer beyond them. -/
theorem length_targetsBeyond_lt {g : StepGraph} {s : Step} (hs : s ∈ g.steps) {ids : List String}
    (hmore : s.targetsBeyond ids ≠ []) :
    (g.targetsBeyond (ids ++ s.targetsBeyond ids)).length < (g.targetsBeyond ids).length := by
  obtain ⟨id, hid⟩ := List.exists_mem_of_ne_nil _ hmore
  obtain ⟨⟨a, ha, rfl⟩, hnew⟩ := Step.mem_targetsBeyond.mp hid
  have hsplit : g.targetsBeyond (ids ++ s.targetsBeyond ids) =
      (g.targetsBeyond ids).filter (!(s.targetsBeyond ids).contains ·) := by
    unfold targetsBeyond
    rw [List.filter_filter]
    congr 1
    funext id
    simp [Bool.and_comm]
  rw [hsplit, List.length_filter_lt_length_iff_exists]
  refine ⟨a.target, ?_, by simp [hid]⟩
  simp only [targetsBeyond, List.mem_filter, List.mem_flatMap, List.mem_map]
  exact ⟨⟨s, hs, a, ha, rfl⟩, by simpa using hnew⟩

/-- The ids with those of all steps that can be reached from the waiting ones. Each step that is
visited sends those that are new to wait before the others. -/
def visit (g : StepGraph) (ids waiting : List String) : Except Failure (List String) :=
  match waiting with
  | [] => .ok ids
  | id :: rest =>
    match _found : g.step? id with
    | none => .error (.noPart "NoneType" "actions")
    | some s => g.visit (ids ++ s.targetsBeyond ids) ((s.targetsBeyond ids).reverse ++ rest)
termination_by ((g.targetsBeyond ids).length, waiting.length)
decreasing_by
  -- the ids grow, or no other step is sent to wait
  by_cases hmore : s.targetsBeyond ids = []
  · rw [hmore, List.append_nil]
    exact Prod.Lex.right _ (by simp)
  · exact Prod.Lex.left _ _ (length_targetsBeyond_lt (List.mem_of_find?_eq_some _found) hmore)

end StepGraph

/-- The ids of the steps that can be reached from the start. -/
def Workflow.reachable (w : Workflow) : Except Failure (List String) :=
  w.visit [w.start.id] [w.start.id]

/-- Something that a review found, with where it is. -/
inductive Issue where
  | unknownReference (field path : String)
  | unknownTarget (field path : String)
  | unknownField (field path : String)
  | ruleProblem (problem path : String)
  | unreachable (step : String)
  | noReachableEnd
  deriving DecidableEq

namespace Issue

def code : Issue → String
  | unknownReference .. => "UNKNOWN_FIELD_REFERENCE"
  | unknownTarget .. => "UNKNOWN_TARGET_FIELD"
  | unknownField .. => "UNKNOWN_FIELD"
  | ruleProblem .. => "RULE_CONFIGURATION"
  | unreachable _ => "UNREACHABLE_STEP"
  | noReachableEnd => "NO_REACHABLE_END"

def message : Issue → String
  | unknownReference field _ => s!"Condition references unknown field '{field}'"
  | unknownTarget field _ => s!"Action targets unknown field '{field}'"
  | unknownField field _ => s!"Validation rule targets unknown field '{field}'"
  | ruleProblem problem _ => problem
  | unreachable step => s!"Step '{step}' is not reachable from the start step"
  | noReachableEnd => "No end step is reachable from the start step"

def path : Issue → String
  | unknownReference _ path | unknownTarget _ path | unknownField _ path | ruleProblem _ path => path
  | unreachable step => s!"workflow.steps[{step}]"
  | noReachableEnd => "workflow.steps"

/-- Whether a template with the issue cannot be used. -/
def isError : Issue → Bool
  | unknownTarget .. | unknownField .. => true
  | _ => false

def document (i : Issue) : Value :=
  .map [("type", .text i.code), ("message", .text i.message), ("path", .text i.path)]

end Issue

namespace FormTemplate

/-- References of a group to fields that the form does not have. -/
def strayReferences (t : FormTemplate) (group : Option Group) (path : String) : List Issue :=
  match group with
  | none => []
  | some g =>
    (g.fieldNames.filter fun name => !t.fieldIds.contains name).map (.unknownReference · path)

def fieldRuleIssues (t : FormTemplate) (i : Nat) (r : FieldRule) : List Issue :=
  t.strayReferences r.conditions s!"conditional_rules[{i}].conditions" ++
    (r.actions.zipIdx.filter fun a => !t.fieldIds.contains a.1.target).map fun (a, j) =>
      .unknownTarget a.target s!"conditional_rules[{i}].actions[{j}]"

def formRuleIssues (t : FormTemplate) (i : Nat) (r : FormRule) : List Issue :=
  t.strayReferences r.appliesWhen s!"validation_rules[{i}].applies_when" ++
    (r.fields.filter fun id => !t.fieldIds.contains id).map fun id =>
      .unknownField id s!"validation_rules[{i}].field_ids"

def businessRuleIssues (t : FormTemplate) : Nat → List BusinessRule → Except Failure (List Issue)
  | _, [] => .ok []
  | i, r :: rest => do
    let problems ← r.problems
    let later ← t.businessRuleIssues (i + 1) rest
    pure (t.strayReferences r.conditions s!"business_rules[{i}].conditions" ++
      problems.map (fun p => .ruleProblem p s!"business_rules[{i}]") ++ later)

def stepIssues (t : FormTemplate) (reachable : List String) (s : Step) : List Issue :=
  let path := s!"workflow.steps[{s.id}]"
  (if reachable.contains s.id then [] else [.unreachable s.id]) ++
    t.strayReferences (s.approval.bind (·.skipWhen)) (path ++ ".approval") ++
    s.actions.flatMap fun a => t.strayReferences a.guard (path ++ s!".actions[{a.id}].guard")

def workflowIssues (t : FormTemplate) : Except Failure (List Issue) :=
  match t.workflow with
  | none => pure []
  | some w => do
    let reachable ← w.reachable
    pure (w.steps.flatMap (t.stepIssues reachable) ++
      if w.steps.any fun s => s.kind = .finish && reachable.contains s.id then []
      else [.noReachableEnd])

/-- Everything that is wrong with a template, in the order of its parts. -/
def issues (t : FormTemplate) : Except Failure (List Issue) := do
  let business ← t.businessRuleIssues 0 t.businessRules
  let workflow ← t.workflowIssues
  pure ((t.fieldRules.zipIdx.flatMap fun (r, i) => t.fieldRuleIssues i r) ++
    (t.formRules.zipIdx.flatMap fun (r, i) => t.formRuleIssues i r) ++
    (t.fields.zipIdx.flatMap fun (f, i) =>
      t.strayReferences f.demands.requiredWhen s!"fields[{i}].validation.required_when") ++
    business ++ workflow)

end FormTemplate

/-- What a review found: issues for which a template cannot be used, and others. -/
structure Review where
  errors : List Issue
  warnings : List Issue

namespace Review

def isValid (r : Review) : Bool := r.errors.isEmpty

def document (r : Review) : Value :=
  .map [("is_valid", .bool r.isValid), ("errors", .list (r.errors.map Issue.document)),
    ("warnings", .list (r.warnings.map Issue.document))]

end Review

/-- Review a template. -/
def FormTemplate.review (t : FormTemplate) : Except Failure Review := do
  let issues ← t.issues
  pure ⟨issues.filter (·.isError), issues.filter (!·.isError)⟩

end Formwork
