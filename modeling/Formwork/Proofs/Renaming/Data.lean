import Formwork.Automation.Run
/-!
# Names in data

Records, events and instructions have names that were given out for them, and some of them tell of a
record by its name. A renaming of texts changes the names in these places and nothing else.
-/
namespace Formwork

/-! ## Details -/

/-- A text under another name. -/
def Value.rename (f : String → String) : Value → Value
  | .text s => .text (f s)
  | v => v

namespace Entries

/-- The name of the entry that tells of a record. -/
def recordKey : String := "record_id"

/-- Details in which the record they tell of goes by another name. -/
def rename (f : String → String) (es : Entries Value) : Entries Value :=
  es.map fun e => (e.1, if e.1 = recordKey then e.2.rename f else e.2)

/-- The names of the records that details tell of. -/
def recordNames (es : Entries Value) : List String :=
  es.filterMap fun e =>
    match e.2 with
    | .text s => if e.1 = recordKey then some s else none
    | _ => none

variable {f : String → String} {es upper : Entries Value}

theorem rename_insert (name : String) (v : Value) :
    rename f (insert name v es) =
      insert name (if name = recordKey then v.rename f else v) (rename f es) := by
  induction es with
  | nil => rfl
  | cons e rest ih =>
    obtain ⟨n, w⟩ := e
    by_cases hn : n = name
    · simp [insert, rename, hn]
    · simp only [insert, hn, ↓reduceIte, rename, List.map_cons] at ih ⊢
      rw [ih]

theorem rename_overlay : rename f (es.overlay upper) = (rename f es).overlay (rename f upper) := by
  induction upper generalizing es with
  | nil => rfl
  | cons e rest ih =>
    change rename f ((es.insert e.1 e.2).overlay rest) = _
    rw [ih, rename_insert]
    rfl

theorem rename_eq_self (h : ∀ a ∈ es.recordNames, f a = a) : rename f es = es := by
  refine (List.map_congr_left fun e he => ?_).trans (List.map_id es)
  obtain ⟨n, v⟩ := e
  by_cases hn : n = recordKey
  · cases v with
    | text s =>
      have hs := h s (List.mem_filterMap.mpr ⟨_, he, by simp [hn]⟩)
      simp [hn, Value.rename, hs]
    | _ => simp [hn, Value.rename]
  · simp [hn]

end Entries

/-! ## Records, events and instructions -/

def ApprovalRecord.rename (f : String → String) (r : ApprovalRecord) : ApprovalRecord :=
  { r with id := f r.id }

def Chain.rename (f : String → String) (c : Chain) : Chain := c.map (·.rename f)

def ApprovalOutcome.rename (f : String → String) (o : ApprovalOutcome) : ApprovalOutcome :=
  { o with chain := o.chain.rename f, decided := o.decided.map f }

def Escalation.rename (f : String → String) (e : Escalation) : Escalation :=
  { e with record := f e.record }

def HistoryEvent.rename (f : String → String) (e : HistoryEvent) : HistoryEvent :=
  { e with id := f e.id, details := e.details.rename f }

def HistoryEvent.names (e : HistoryEvent) : List String := e.id :: e.details.recordNames

namespace Instruction

/-- What stands before the name of a record that is the source of an instruction. -/
def approvalMark : String := "approval:"

/-- A source, which may be a record under another name. -/
def renameSource (f : String → String) (source : String) : String :=
  if approvalMark.toList.isPrefixOf source.toList then
    approvalMark ++ f (String.ofList (source.toList.drop approvalMark.toList.length))
  else source

def rename (f : String → String) (i : Instruction) : Instruction :=
  { i with id := f i.id, source := renameSource f i.source, payload := i.payload.rename f }

variable {f : String → String}

theorem renameSource_approval (id : String) :
    renameSource f (approvalMark ++ id) = approvalMark ++ f id := by
  simp [renameSource, approvalMark, List.isPrefixOf]

theorem renameSource_step (id : String) : renameSource f ("step:" ++ id) = "step:" ++ id := by
  simp [renameSource, approvalMark, List.isPrefixOf]

theorem renameSource_action (id : String) : renameSource f ("action:" ++ id) = "action:" ++ id := by
  simp [renameSource, approvalMark, List.isPrefixOf]

theorem renameSource_rule (id : String) : renameSource f ("rule:" ++ id) = "rule:" ++ id := by
  simp [renameSource, approvalMark, List.isPrefixOf]

end Instruction

/-! ## Submissions -/

namespace SubmissionState

def rename (f : String → String) (s : SubmissionState) : SubmissionState :=
  { s with chain := s.chain.rename f, history := s.history.map (·.rename f) }

/-- The names that were given out for a submission: those of its records and of its events, and
those by which events tell of records. -/
def names (s : SubmissionState) : List String :=
  s.chain.map (·.id) ++ s.history.flatMap (·.names)

variable {f : String → String} {s : SubmissionState}

theorem rename_eq_self (h : ∀ a ∈ s.names, f a = a) : s.rename f = s := by
  have hchain : s.chain.rename f = s.chain :=
    (List.map_congr_left fun r hr => by
      have hid := h r.id (List.mem_append_left _ (List.mem_map_of_mem hr))
      simp [ApprovalRecord.rename, hid]).trans (List.map_id _)
  have hhistory : s.history.map (·.rename f) = s.history :=
    (List.map_congr_left fun e he => by
      have hnames : ∀ a ∈ e.names, f a = a := fun a ha =>
        h a (List.mem_append_right _ (List.mem_flatMap.mpr ⟨e, he, ha⟩))
      obtain ⟨hid, hdetails⟩ := List.forall_mem_cons.mp hnames
      simp [HistoryEvent.rename, hid, Entries.rename_eq_self hdetails]).trans (List.map_id _)
  unfold rename
  rw [hchain, hhistory]

end SubmissionState

def Submission.rename (f : String → String) (s : Submission) : Submission :=
  { s with state := s.state.map (·.rename f) }

def WorkflowRequest.rename (f : String → String) (r : WorkflowRequest) : WorkflowRequest :=
  { r with submission := r.submission.rename f }

def Journey.rename (f : String → String) (j : Journey) : Journey :=
  { j with state := j.state.rename f, instructions := j.instructions.map (·.rename f),
           chain := j.chain.rename f }

def Transition.rename (f : String → String) (t : Transition) : Transition :=
  { t with chain := t.chain.rename f, instructions := t.instructions.map (·.rename f),
           state := t.state.rename f }

/-! ## Rules -/

namespace Stage

def rename (f : String → String) (s : Stage) : Stage :=
  { s with workflow := s.workflow.map (·.rename f) }

/-- The names that were given out for what is on a stage. -/
def names (s : Stage) : List String :=
  ((s.workflow.bind (·.submission.state)).map (·.names)).getD []

theorem rename_eq_self {f : String → String} {s : Stage} (h : ∀ a ∈ s.names, f a = a) :
    s.rename f = s := by
  obtain ⟨context, workflow⟩ := s
  cases workflow with
  | none => rfl
  | some w =>
    obtain ⟨⟨_, _, _, _, state⟩, _⟩ := w
    cases state with
    | none => rfl
    | some state =>
      have hstate : state.rename f = state := SubmissionState.rename_eq_self h
      simp [rename, WorkflowRequest.rename, Submission.rename, hstate]

end Stage

def ActionOutcome.rename (f : String → String) (o : ActionOutcome) : ActionOutcome :=
  { o with instruction := o.instruction.map (·.rename f),
           transition := o.transition.map (·.rename f),
           escalations := o.escalations.map (·.rename f) }

def RuleResult.rename (f : String → String) (r : RuleResult) : RuleResult :=
  { r with actions := r.actions.map (·.rename f) }

end Formwork
