import Mathlib.Tactic.Common
import Formwork.Action.Instruct
import Formwork.Field.Rule
/-!
# What reads the status

Conditions and placeholders can read how far a submission has come. Which of them do is plain from
how they are written; all others say the same whatever the status is.
-/
namespace Formwork

open Document

/-- The same context, with the submission at another status, or at none. -/
def Context.setStatus (c : Context) (status : Option Status) : Context :=
  { c with submission := { c.submission with status := status } }

/-! ## Conditions -/

def Condition.readsStatus (c : Condition) : Bool := c.source = .submissionStatus

mutual

def Node.readsStatus : Node → Bool
  | .leaf c => c.readsStatus
  | .group _ nodes => Node.anyReadsStatus nodes
termination_by structural n => n

def Node.anyReadsStatus : List Node → Bool
  | [] => false
  | n :: rest => n.readsStatus || Node.anyReadsStatus rest
termination_by structural ns => ns

end

def Group.readsStatus (g : Group) : Bool := g.node.readsStatus

section Conditions

variable (context : Context) (status : Option Status)

theorem Context.operand_setStatus {source : Source} (h : source ≠ .submissionStatus)
    (path : String) : (context.setStatus status).operand source path =
      context.operand source path := by
  cases source with
  | submissionStatus => exact absurd rfl h
  | field | userRole | userAttribute | time => rfl

theorem Condition.holds_setStatus {c : Condition} (h : c.readsStatus = false) :
    c.holds (context.setStatus status) = c.holds context := by
  have hsource : c.source ≠ .submissionStatus := by simpa [readsStatus] using h
  have hknown : c.isKnown (context.setStatus status) = c.isKnown context := rfl
  have hcompared : c.compared (context.setStatus status) = c.compared context := by
    unfold compared
    rw [context.operand_setStatus status hsource]
    rfl
  simp only [holds, hknown, hcompared]

mutual

theorem Node.holds_setStatus (n : Node) (h : n.readsStatus = false) :
    n.holds (context.setStatus status) = n.holds context := by
  cases n with
  | leaf c => exact Condition.holds_setStatus context status h
  | group logic nodes => simp only [Node.holds, Node.combined_setStatus nodes h]

theorem Node.combined_setStatus {logic : Logic} (nodes : List Node)
    (h : Node.anyReadsStatus nodes = false) :
    Node.combined logic (context.setStatus status) nodes =
      Node.combined logic context nodes := by
  cases nodes with
  | nil => rfl
  | cons n rest =>
    simp only [Node.anyReadsStatus, Bool.or_eq_false_iff] at h
    simp only [Node.combined, Node.holds_setStatus n h.1, Node.combined_setStatus rest h.2]

end

theorem Group.holds_setStatus {g : Group} (h : g.readsStatus = false) :
    g.holds (context.setStatus status) = g.holds context :=
  Node.holds_setStatus context status g.node h

theorem Group.holds?_setStatus {g : Option Group} (h : g.any Group.readsStatus = false) :
    Group.holds? g (context.setStatus status) = Group.holds? g context := by
  cases g with
  | none => rfl
  | some g => exact g.holds_setStatus context status h

end Conditions

/-! ## Placeholders -/

/-- The parts of a path behind its head. -/
def pathParts (path : String) : List String :=
  let rest := String.ofList (path.toList.drop ((Value.headOfPath path).length + 1))
  if rest.isEmpty then [] else Text.split '.' rest

/-- Whether a path names the submission as a whole, or something of its status. -/
def namesStatus (path : String) : Bool :=
  Value.headOfPath path = "submission" && (pathParts path).head?.all (· = "status")

/-- The paths of the placeholders in a text, `skip` of whose characters belong to the last one. -/
def pathsFrom : Nat → List Char → List String
  | _, [] => []
  | skip + 1, _ :: rest => pathsFrom skip rest
  | 0, x :: rest =>
    match placeholder? (x :: rest) with
    | some (path, taken) => path :: pathsFrom (taken - 1) rest
    | none => pathsFrom 0 rest

/-- The paths of all placeholders in a text. -/
def textPaths (s : String) : List String :=
  match wholePlaceholder? s with
  | some path => [path]
  | none => pathsFrom 0 s.toList

mutual

/-- The paths of all placeholders in a value. -/
def Value.paths : Value → List String
  | .text s => textPaths s
  | .list items => Value.itemPaths items
  | .map entries => Value.entryPaths entries
  | _ => []
termination_by structural v => v

def Value.itemPaths : List Value → List String
  | [] => []
  | v :: rest => v.paths ++ Value.itemPaths rest
termination_by structural vs => vs

def Value.entryPaths : List (String × Value) → List String
  | [] => []
  | (_, v) :: rest => v.paths ++ Value.entryPaths rest
termination_by structural es => es

end

def Value.readsStatus (v : Value) : Bool := v.paths.any namesStatus

namespace Context

variable {c d : Context}

theorem fillFrom_congr (skip : Nat) (cs : List Char)
    (h : ∀ path ∈ pathsFrom skip cs, c.lookUp path = d.lookUp path) :
    c.fillFrom skip cs = d.fillFrom skip cs := by
  induction cs generalizing skip with
  | nil => cases skip <;> rfl
  | cons x rest ih =>
    cases skip with
    | succ skip => exact ih skip h
    | zero =>
      rw [fillFrom.eq_3, fillFrom.eq_3]
      rw [pathsFrom.eq_3] at h
      cases hfound : placeholder? (x :: rest) with
      | none =>
        rw [hfound] at h
        simp only [ih 0 h]
      | some found =>
        obtain ⟨path, taken⟩ := found
        simp only [hfound, List.mem_cons, forall_eq_or_imp] at h
        simp only [insertion, h.1, ih (taken - 1) h.2]

theorem renderText_congr (s : String) (h : ∀ path ∈ textPaths s, c.lookUp path = d.lookUp path) :
    c.renderText s = d.renderText s := by
  unfold textPaths at h
  unfold renderText
  cases hwhole : wholePlaceholder? s with
  | some path =>
    rw [hwhole] at h
    exact congrArg Except.ok (h path List.mem_cons_self)
  | none =>
    rw [hwhole] at h
    simp only [fillFrom_congr 0 s.toList h]

mutual

/-- What a value becomes depends on nothing but what the paths of its placeholders name. -/
theorem render_congr (v : Value) (h : ∀ path ∈ v.paths, c.lookUp path = d.lookUp path) :
    c.render v = d.render v := by
  cases v with
  | text s => exact renderText_congr s h
  | list items =>
    have hitems := renderItems_congr items h
    simp only [render, hitems]
  | map entries =>
    have hentries := renderEntries_congr entries h
    simp only [render, hentries]
  | null | bool _ | int _ | float _ => rfl

theorem renderItems_congr (vs : List Value)
    (h : ∀ path ∈ Value.itemPaths vs, c.lookUp path = d.lookUp path) :
    c.renderItems vs = d.renderItems vs := by
  cases vs with
  | nil => rfl
  | cons v rest =>
    simp only [Value.itemPaths, List.mem_append, or_imp, forall_and] at h
    rw [renderItems, renderItems, render_congr v h.1, renderItems_congr rest h.2]

theorem renderEntries_congr (es : List (String × Value))
    (h : ∀ path ∈ Value.entryPaths es, c.lookUp path = d.lookUp path) :
    c.renderEntries es = d.renderEntries es := by
  cases es with
  | nil => rfl
  | cons e rest =>
    obtain ⟨name, v⟩ := e
    simp only [Value.entryPaths, List.mem_append, or_imp, forall_and] at h
    rw [renderEntries, renderEntries, render_congr v h.1, renderEntries_congr rest h.2]

end

variable (c) (status : Option Status)

theorem follow_submission_setStatus {parts : List String}
    (h : parts.head?.all (· = "status") = false) :
    follow (c.setStatus status).submission.document parts =
      follow c.submission.document parts := by
  cases parts with
  | nil => simp at h
  | cons part rest =>
    have hpart : part ≠ "status" := by simpa using h
    by_cases hid : part = "id"
    · subst hid
      rfl
    · have hget (r : Reference) : r.document.get? part = none := by
        simp [Reference.document, Reference.entries, Value.get?, Entries.get?, Ne.symm hid,
          Ne.symm hpart]
      simp only [follow, hget]

theorem lookUp_setStatus {path : String} (h : namesStatus path = false) :
    (c.setStatus status).lookUp path = c.lookUp path := by
  unfold lookUp
  by_cases hhead : Value.headOfPath path = "submission"
  · simp only [hhead, String.reduceEq, ↓reduceIte]
    have hparts : (pathParts path).head?.all (· = "status") = false := by
      simpa [namesStatus, hhead] using h
    have hfollow := c.follow_submission_setStatus status hparts
    simpa only [pathParts, hhead] using hfollow
  · simp only [hhead, ↓reduceIte]
    rfl

theorem render_setStatus {v : Value} (h : v.readsStatus = false) :
    (c.setStatus status).render v = c.render v := by
  apply render_congr
  intro path hpath
  apply c.lookUp_setStatus status
  have hall := List.any_eq_false.mp h path hpath
  simpa using hall

end Context

/-! ## Actions -/

namespace Action

/-- The values of an action whose placeholders are replaced. -/
def rendered (a : Action) : List Value :=
  match a.deed with
  | .notify n => [.ofTexts n.recipients, .ofText? n.subject, .ofText? n.message]
  | .callWebhook w => [.text w.url, ofEntries Value.text w.headers, .map w.payload]
  | .createTask t => [.text t.title, .ofText? t.description, .ofText? t.assignee]
  | .setField _ value => [value]
  | .assign _ | .changeStatus _ | .escalate _ => []

def readsStatus (a : Action) : Bool := a.rendered.any Value.readsStatus

variable {a : Action} (c : Context) (status : Option Status)

theorem request_setStatus (h : a.readsStatus = false) :
    a.request (c.setStatus status) = a.request c := by
  unfold readsStatus rendered at h
  unfold request
  cases hdeed : a.deed with
  | notify n =>
    simp only [hdeed, List.any_cons, List.any_nil, Bool.or_false, Bool.or_eq_false_iff] at h
    obtain ⟨hrecipients, hsubject, hmessage⟩ := h
    simp only [Notice.payload, c.render_setStatus status hrecipients,
      c.render_setStatus status hsubject, c.render_setStatus status hmessage]
  | callWebhook w =>
    simp only [hdeed, List.any_cons, List.any_nil, Bool.or_false, Bool.or_eq_false_iff] at h
    obtain ⟨hurl, hheaders, hpayload⟩ := h
    simp only [WebCall.payloadFor, c.render_setStatus status hurl,
      c.render_setStatus status hheaders, c.render_setStatus status hpayload]
  | createTask t =>
    simp only [hdeed, List.any_cons, List.any_nil, Bool.or_false, Bool.or_eq_false_iff] at h
    obtain ⟨htitle, hdescription, hassignee⟩ := h
    have hdue : t.dueAt (c.setStatus status) = t.dueAt c := rfl
    simp only [Task.payload, hdue, c.render_setStatus status htitle,
      c.render_setStatus status hdescription, c.render_setStatus status hassignee]
  | setField field value => rfl
  | assign _ | changeStatus _ | escalate _ => rfl

theorem instruction_setStatus (h : a.readsStatus = false) (source : String) :
    a.instruction source (c.setStatus status) = a.instruction source c := by
  have hpayload (payload : Entries Value) :
      withSubmission payload (c.setStatus status) = withSubmission payload c := rfl
  simp only [instruction, request_setStatus c status h, hpayload]

theorem update?_setStatus (h : a.readsStatus = false) (source : String) :
    a.update? source (c.setStatus status) = a.update? source c := by
  unfold readsStatus rendered at h
  unfold update?
  cases hdeed : a.deed with
  | setField field value =>
    simp only [hdeed, List.any_cons, List.any_nil, Bool.or_false] at h
    simp only [c.render_setStatus status h]
  | notify _ | assign _ | createTask _ | changeStatus _ | escalate _ | callWebhook _ => rfl

end Action
end Formwork
