import Formwork.Template.Review
import Formwork.Json.Reader
/-!
The report on a template: a summary of its parts, and what a review found. A text that cannot be
read as a template is reported with what is wrong with it.
-/
namespace Formwork

open Document

/-- What a report says, and whether the template can be used. -/
structure Report where
  lines : List String
  succeeds : Bool

namespace Report

/-- The text, with a line feed behind every line. -/
def text (r : Report) : String := String.join (r.lines.map (· ++ "\n"))

def rule : String := String.ofList (List.replicate 60 '=')

/-- How many fields there are of each kind, in the order in which the kinds first come. -/
def kindCounts (fields : List Field) : List (FieldKind × Nat) :=
  let kinds := fields.map (·.kind)
  (distinct kinds).map fun k => (k, kinds.count k)

def fieldLines (t : FormTemplate) : List String :=
  ["", s!"📋 FIELDS ({t.fields.length} total):"] ++
    (kindCounts t.fields).map fun (kind, count) => s!"   • {kind.name}: {count}"

def ruleLines (t : FormTemplate) : List String :=
  ["", s!"🔀 CONDITIONAL RULES: {t.fieldRules.length}",
    s!"✔️  VALIDATION RULES: {t.formRules.length}", s!"⚙️  BUSINESS RULES: {t.businessRules.length}"]

def stepLine (s : Step) : String :=
  let targets := ", ".intercalate (s.actions.map fun a => a.id ++ "->" ++ a.target)
  let shown := if targets.isEmpty then "-" else targets
  s!"   [{s.kind.name}] {s.id}: {shown}"

def workflowLines (t : FormTemplate) : List String :=
  match t.workflow with
  | none => []
  | some w => ["", s!"🚀 START STEP: {w.start.id}"] ++ w.steps.map stepLine

def issueLines (title : String) (issues : List Issue) : List String :=
  if issues.isEmpty then []
  else ["", title] ++ issues.map fun i => s!"   • [{i.code}] {i.path}: {i.message}"

def verdictLine (r : Review) : String :=
  if !r.isValid then "❌ TEMPLATE HAS ERRORS"
  else if r.warnings.isEmpty then "🎉 TEMPLATE IS VALID!"
  else "✅ TEMPLATE IS VALID (with warnings)"

/-- The name under which a template is reported. -/
def title (t : FormTemplate) : String :=
  match t.name with
  | some name => if name.isEmpty then t.id else name
  | none => t.id

/-- The report on a template that could be read. -/
def ofTemplate (t : FormTemplate) : Except Failure Report := do
  let version ← (Value.int t.version).display
  let review ← t.review
  pure ⟨[s!"✅ Parsed template: {title t}", s!"   Version: {version}", "", rule,
      "TEMPLATE SUMMARY", rule] ++ fieldLines t ++ ruleLines t ++ workflowLines t ++
    issueLines "❌ ERRORS:" review.errors ++ issueLines "⚠️ WARNINGS:" review.warnings ++
    ["", verdictLine review], review.isValid⟩

/-- The report on a file that could not be read. -/
def unreadable (path reason : String) : Report := ⟨[s!"❌ Cannot read {path}: {reason}"], false⟩

def faultLine (f : Fault) : String :=
  let place := ".".intercalate (f.place.map Key.text)
  s!"   • {place}: {f.cause.message}"

/-- The report on a document that is no template, by the name that it gives itself. -/
def ofFaults (path : String) (document : Value) (faults : List Fault) : Except Failure Report :=
  match document with
  | .map es => do
    let name ← ((Entries.get? "template_id" es).getD (.text path)).display
    pure ⟨s!"❌ Template {name} does not parse:" :: faults.map faultLine, false⟩
  | v => .error (.noPart v.kindName "get")

/-- Line ends of either kind as line feeds. -/
def unifyLineEnds : List Char → List Char
  | '\r' :: '\n' :: rest => '\n' :: unifyLineEnds rest
  | '\r' :: rest => '\n' :: unifyLineEnds rest
  | c :: rest => c :: unifyLineEnds rest
  | [] => []

/-- The report on the text of a file. -/
def ofText (host : Host) (path text : String) : Except Failure Report :=
  match Json.read host (String.ofList (unifyLineEnds text.toList)) with
  | .error (.malformed cause line column offset) =>
    .ok (unreadable path (Json.Fault.malformed cause line column offset).message)
  | .error fault => .error (.json fault)
  | .ok v =>
    match ((FormTemplate.decoder host).decode FormTemplate.modelName v {}).1 with
    | .ok t => ofTemplate t
    | .error (.malformed _ faults) => ofFaults path v faults
    | .error failure => .error failure

/-- The report on a file that does not exist. -/
def ofMissing (path : String) : Report :=
  unreadable path ("[Errno 2] No such file or directory: " ++ Text.quoted path)

end Report
end Formwork
