import Formwork.Proofs.Document.Stopping
import Formwork.Proofs.Validation.Answer
import Formwork.Template.Basic
/-!
# Where the reading of a template stops

Of all that a template is made of, only the pattern of a condition is read further while the
template is: one that asks for more repetitions than are counted, or nests its groups too deep, ends
the reading. Everything else that can be wrong with a template is reported as a fault.
-/
namespace Formwork

open Document

theorem Value.Holds.exists {p : Value → Prop} {v : Value} (h : v.Holds p) : ∃ part, p part := by
  induction h with
  | here holds => exact ⟨_, holds⟩
  | item _ _ ih => exact ih
  | entry _ _ ih => exact ih

/-! ## Conditions -/

section Stopping

variable {host : Host}

/-- The document describes a condition whose pattern breaks its reader off: it asks for more
repetitions than are counted, or has groups inside one another beyond the room for them. -/
def Condition.Overruns (host : Host) (v : Value) (f : Failure) : Prop :=
  ∃ c pattern breach, (fields.record "Condition" v {}).1 = .ok c ∧ c.operator = .matchesPattern ∧
    c.value.display = .ok pattern ∧ Pattern.read host pattern = .error (.breach breach) ∧
    breach ∈ [.tooManyRepetitions, .tooDeep] ∧ f = .pattern breach

namespace Condition

variable {f : Failure}

theorem fields_stopsAt {reason : Value → Failure → Prop} : fields.StopsAt reason :=
  (Decoder.text_stopsAt.required _).map _
    |>.seq ((Decoder.oneOf_stopsAt _).required _)
    |>.seq (Decoder.any_stopsAt.given _ _)
    |>.seq ((Decoder.oneOf_stopsAt _).given _ _)
    |>.seq ((Decoder.oneOf_stopsAt _).given _ _)

/-- A pattern is written, read, and quoted where it has a fault; only the reading can fail in a way
that is not reported. -/
theorem misuse?_eq_error {c : Condition} (h : c.misuse? host = .error f)
    (hreported : f.isReported = false) : c.operator = .matchesPattern ∧
      ∃ pattern breach, c.value.display = .ok pattern ∧
        Pattern.read host pattern = .error (.breach breach) ∧ f = .pattern breach := by
  have hwritten : f ≠ .tooManyDigits := by
    rintro rfl
    cases hreported
  unfold misuse? at h
  split at h
  · cases h
  split at h
  · cases h
  split at h
  case isFalse => cases h
  case isTrue hmatches =>
    refine ⟨hmatches, ?_⟩
    rcases Work.except_bind_eq_error_iff.mp h with h | ⟨pattern, hdisplay, h⟩
    · exact absurd (Value.display_eq_error.mp h).2 hwritten
    split at h
    · cases h
    · rename_i breach hread
      cases h
      exact ⟨pattern, breach, hdisplay, hread, rfl⟩
    · rcases Work.except_bind_eq_error_iff.mp h with h | ⟨literal, -, h⟩
      · exact absurd (Value.literal_eq_error.mp h).2 hwritten
      · cases h

theorem checked_eq_failed {c : Condition} (h : c.checked host = .failed f) :
    c.operator = .matchesPattern ∧ ∃ pattern breach, c.value.display = .ok pattern ∧
      Pattern.read host pattern = .error (.breach breach) ∧
      breach ∈ [.tooManyRepetitions, .tooDeep] ∧ f = .pattern breach := by
  unfold checked at h
  split at h
  · cases h
  · cases h
  · rename_i hmisuse
    split at h
    · cases h
    · rename_i hreported
      cases h
      obtain ⟨hmatches, pattern, breach, hdisplay, hread, rfl⟩ :=
        misuse?_eq_error hmisuse (Bool.not_eq_true _ ▸ hreported)
      refine ⟨hmatches, pattern, breach, hdisplay, hread, ?_, rfl⟩
      cases breach with
      | tooManyRepetitions | tooDeep => decide
      | tooManyDigits _ | incompatibleFlags => exact absurd rfl hreported

theorem ofValue_stops {v : Value} (h : ofValue host v = .failed f) : v.Holds (Overruns host · f) := by
  rcases Checked.andThen_eq_failed h with hfields | ⟨c, hread, hchecked⟩
  · exact fields_stopsAt.record _ v {} f hfields
  · obtain ⟨hmatches, pattern, breach, hbreach⟩ := checked_eq_failed hchecked
    exact .here ⟨c, pattern, breach, hread, hmatches, hbreach⟩

end Condition

theorem Group.ofEntries_eq_failed {es : Entries Value} {nodes : Checked (List Node)} {f : Failure}
    (h : ofEntries es nodes = .failed f) : nodes = .failed f := by
  have hnodes : (Decoder.pure fun _ => nodes).StopsAt fun _ f => nodes = .failed f :=
    .pure fun v f hf => .here hf
  have hfields : (fields nodes).StopsAt fun _ f => nodes = .failed f :=
    (((Decoder.oneOf_stopsAt _).given _ _).map _).seq (hnodes.given _ _)
  obtain ⟨_, hfailed⟩ := (hfields.record _ _ _ f h).exists
  exact hfailed

mutual

theorem Node.ofValue_stops {f : Failure} (v : Value) (h : Node.ofValue host v = .failed f) :
    v.Holds (Condition.Overruns host · f) := by
  cases v with
  | map es =>
    unfold Node.ofValue at h
    cases hmembers : Node.membersOf host es with
    | some nodes =>
      simp only [hmembers, Checked.under_eq_failed, Checked.map_eq_failed] at h
      rw [Group.ofEntries_eq_failed h] at hmembers
      obtain ⟨e, member, holds⟩ := Node.membersOf_stops es hmembers
      exact .entry member holds
    | none =>
      simp only [hmembers, Checked.under_eq_failed, Checked.map_eq_failed] at h
      exact Condition.ofValue_stops h
  | null | bool | int | float | text | list =>
    simp only [Node.ofValue, Checked.under_eq_failed, Checked.map_eq_failed] at h
    exact Condition.ofValue_stops h
termination_by structural v

theorem Node.membersOf_stops {f : Failure} (es : List (String × Value))
    (h : Node.membersOf host es = some (.failed f)) :
    ∃ e ∈ es, e.2.Holds (Condition.Overruns host · f) := by
  cases es with
  | nil => cases h
  | cons e rest =>
    obtain ⟨name, v⟩ := e
    unfold Node.membersOf at h
    split at h
    · exact ⟨(name, v), List.mem_cons_self, Node.listOfValue_stops v (Option.some.inj h)⟩
    · obtain ⟨e, member, holds⟩ := Node.membersOf_stops rest h
      exact ⟨e, List.mem_cons_of_mem _ member, holds⟩
termination_by structural es

theorem Node.listOfValue_stops {f : Failure} (v : Value) (h : Node.listOfValue host v = .failed f) :
    v.Holds (Condition.Overruns host · f) := by
  cases v with
  | list items =>
    unfold Node.listOfValue at h
    obtain ⟨v, member, holds⟩ := Node.listFrom_stops 0 items h
    exact .item member holds
  | null | bool | int | float | text | map => cases h
termination_by structural v

theorem Node.listFrom_stops {f : Failure} (n : Nat) (items : List Value)
    (h : Node.listFrom host n items = .failed f) :
    ∃ v ∈ items, v.Holds (Condition.Overruns host · f) := by
  cases items with
  | nil => cases h
  | cons v rest =>
    unfold Node.listFrom at h
    rcases Checked.seq_eq_failed h with h | h
    · rw [Checked.map_eq_failed, Checked.under_eq_failed] at h
      exact ⟨v, List.mem_cons_self, Node.ofValue_stops v h⟩
    · obtain ⟨v', member, holds⟩ := Node.listFrom_stops (n + 1) rest h
      exact ⟨v', List.mem_cons_of_mem v member, holds⟩
termination_by structural items

end

theorem Group.decoder_stopsAt : (Group.decoder host).StopsAt (Condition.Overruns host) :=
  .pure fun v f h => by
    cases v with
    | map es =>
      have hmembers := Group.ofEntries_eq_failed h
      cases hfound : Node.membersOf host es with
      | none =>
        rw [hfound] at hmembers
        cases hmembers
      | some nodes =>
        rw [hfound, Option.getD_some] at hmembers
        rw [hmembers] at hfound
        obtain ⟨e, member, holds⟩ := Node.membersOf_stops es hfound
        exact .entry member holds
    | null | bool | int | float | text | list => cases h

/-! ## Forms -/

section Forms

open Decoder

theorem Demands.decoder_stopsAt : (Demands.decoder host).StopsAt (Condition.Overruns host) :=
  ((truth_stopsAt.given _ _).map _
    |>.seq (Group.decoder_stopsAt.optional _)
    |>.seq (number_stopsAt.optional _)
    |>.seq (number_stopsAt.optional _)
    |>.seq (whole_stopsAt.optional _)
    |>.seq (whole_stopsAt.optional _)
    |>.seq (text_stopsAt.optional _)
    |>.seq (text_stopsAt.optional _)
    |>.seq (text_stopsAt.optional _)
    |>.seq (text_stopsAt.list.given _ _)
    |>.seq (number_stopsAt.optional _)).record _

theorem Choice.decoder_stopsAt : Choice.decoder.StopsAt (Condition.Overruns host) :=
  ((any_stopsAt.required _).map _ |>.seq (text_stopsAt.optional _)).openRecord _

theorem Field.decoder_stopsAt : (Field.decoder host).StopsAt (Condition.Overruns host) :=
  ((text_stopsAt.required _).map _
    |>.seq (text_stopsAt.given _ _)
    |>.seq ((oneOf_stopsAt _).given _ _)
    |>.seq (Demands.decoder_stopsAt.given _ _)
    |>.seq (any_stopsAt.given _ _)
    |>.seq (Choice.decoder_stopsAt.list.given _ _)
    |>.seq (text_stopsAt.optional _)
    |>.seq (truth_stopsAt.given _ _)).record _

theorem FieldAction.decoder_stopsAt : FieldAction.decoder.StopsAt (Condition.Overruns host) :=
  (((oneOf_stopsAt _).required _).map _
    |>.seq (text_stopsAt.required _)
    |>.seq (any_stopsAt.given _ _)).record _ |>.check fun a f => by
      split <;> exact nofun

theorem FieldRule.decoder_stopsAt : (FieldRule.decoder host).StopsAt (Condition.Overruns host) :=
  ((text_stopsAt.required _).map _
    |>.seq (text_stopsAt.optional _)
    |>.seq (Group.decoder_stopsAt.given _ _)
    |>.seq (FieldAction.decoder_stopsAt.list.given _ _)
    |>.seq (truth_stopsAt.given _ _)).record _

theorem FormRule.decoder_stopsAt : (FormRule.decoder host).StopsAt (Condition.Overruns host) :=
  ((text_stopsAt.required _).map _
    |>.seq ((oneOf_stopsAt _).required _)
    |>.seq (text_stopsAt.list.nonEmpty.required _)
    |>.seq (Group.decoder_stopsAt.optional _)
    |>.seq ((oneOf_stopsAt _).optional _)
    |>.seq (any_stopsAt.given _ _)
    |>.seq (text_stopsAt.optional _)
    |>.seq (text_stopsAt.optional _)
    |>.seq (text_stopsAt.optional _)).record _ |>.check fun r f => by
      split <;> exact nofun

/-! ## Actions -/

theorem Candidate.decoder_stopsAt : Candidate.decoder.StopsAt (Condition.Overruns host) :=
  ((text_stopsAt.required _).map _
    |>.seq (text_stopsAt.optional _)
    |>.seq (text_stopsAt.list.given _ _)
    |>.seq (anyMap_stopsAt.given _ _)
    |>.seq (truth_stopsAt.given _ _)).openRecord _

theorem AssignmentRule.decoder_stopsAt :
    (AssignmentRule.decoder host).StopsAt (Condition.Overruns host) :=
  ((text_stopsAt.required _).map _
    |>.seq ((oneOf_stopsAt _).required _)
    |>.seq (Candidate.decoder_stopsAt.list.given _ _)
    |>.seq (Group.decoder_stopsAt.optional _)
    |>.seq (whole_stopsAt.given _ _)
    |>.seq (text_stopsAt.list.given _ _)
    |>.seq (text_stopsAt.optional _)
    |>.seq (text_stopsAt.given _ _)
    |>.seq (whole_stopsAt.optional _)
    |>.seq (truth_stopsAt.given _ _)).record _

theorem Action.tagged_stopsAt {deed : Fields Deed} (h : deed.StopsAt (Condition.Overruns host))
    (kind : ActionKind) : (tagged kind deed).StopsAt (Condition.Overruns host) :=
  (text_stopsAt.optional _).map _
    |>.seq ((constant_stopsAt _).given _ _)
    |>.seq h

theorem Action.decoderFor_stopsAt (kind : ActionKind) :
    (decoderFor host kind).StopsAt (Condition.Overruns host) := by
  cases kind with
  | notify =>
    exact (tagged_stopsAt (((text_stopsAt.list.given _ _).map _
      |>.seq (text_stopsAt.optional _)
      |>.seq (text_stopsAt.optional _)
      |>.seq (text_stopsAt.optional _)
      |>.seq (text_stopsAt.given _ _)).map _) _).record _
  | assign =>
    exact (tagged_stopsAt ((AssignmentRule.decoder_stopsAt.required _).map _) _).record _
  | setFieldValue =>
    exact (tagged_stopsAt ((text_stopsAt.required _).map _
      |>.seq (any_stopsAt.given _ _)) _).record _
  | createTask =>
    exact (tagged_stopsAt (((text_stopsAt.required _).map _
      |>.seq (text_stopsAt.optional _)
      |>.seq (text_stopsAt.optional _)
      |>.seq (text_stopsAt.optional _)
      |>.seq (number_stopsAt.optional _)).map _) _).record _
  | changeStatus =>
    refine ((tagged_stopsAt (((oneOf_stopsAt _).required _).map _) _).record _).check
      fun a f => ?_
    split
    · split <;> exact nofun
    · exact nofun
  | escalate => exact (tagged_stopsAt ((text_stopsAt.optional _).map _) _).record _
  | callWebhook =>
    exact (tagged_stopsAt (((text_stopsAt.required _).map _
      |>.seq (text_stopsAt.given _ _)
      |>.seq (text_stopsAt.entries.given _ _)
      |>.seq (anyMap_stopsAt.given _ _)).map _) _).record _

theorem Action.decoder_stopsAt : (Action.decoder host).StopsAt (Condition.Overruns host) := by
  intro v ids f h
  cases v with
  | map es =>
    unfold Action.decoder at h
    dsimp only at h
    cases htag : Entries.get? tagName es with
    | none =>
      simp only [htag] at h
      cases h
    | some tag =>
      simp only [htag] at h
      cases tag with
      | text s =>
        cases hkind : Named.ofName? ActionKind s with
        | none =>
          simp only [hkind] at h
          cases h
        | some kind =>
          simp only [hkind] at h
          exact decoderFor_stopsAt kind (.map es) ids f (Checked.under_eq_failed.mp h)
      | null | bool | int | float | list | map => cases h
  | null | bool | int | float | text | list => cases h

theorem BusinessRule.decoder_stopsAt :
    (BusinessRule.decoder host).StopsAt (Condition.Overruns host) :=
  ((text_stopsAt.required _).map _
    |>.seq (text_stopsAt.optional _)
    |>.seq ((oneOf_stopsAt _).required _)
    |>.seq (Group.decoder_stopsAt.optional _)
    |>.seq (Action.decoder_stopsAt.list.nonEmpty.required _)
    |>.seq (whole_stopsAt.given _ _)
    |>.seq (truth_stopsAt.given _ _)
    |>.seq (truth_stopsAt.given _ _)
    |>.seq (text_stopsAt.list.given _ _)
    |>.seq ((oneOf_stopsAt _).list.given _ _)
    |>.seq ((oneOf_stopsAt _).list.given _ _)).record _

/-! ## Workflows -/

theorem ApprovalLevel.decoder_stopsAt :
    (ApprovalLevel.decoder host).StopsAt (Condition.Overruns host) :=
  ((text_stopsAt.optional _).map _
    |>.seq ((oneOf_stopsAt _).given _ _)
    |>.seq (text_stopsAt.list.given _ _)
    |>.seq (text_stopsAt.list.given _ _)
    |>.seq (text_stopsAt.optional _)
    |>.seq (Group.decoder_stopsAt.optional _)
    |>.seq (number_stopsAt.optional _)
    |>.seq ((oneOf_stopsAt _).optional _)
    |>.seq (text_stopsAt.optional _)).record _ |>.check fun l f => by
      split <;> exact nofun

theorem ApprovalConfig.decoder_stopsAt :
    (ApprovalConfig.decoder host).StopsAt (Condition.Overruns host) :=
  ((truth_stopsAt.given _ _).map _
    |>.seq (Group.decoder_stopsAt.optional _)
    |>.seq (ApprovalLevel.decoder_stopsAt.list.given _ _)).record _

theorem StepAction.decoder_stopsAt : (StepAction.decoder host).StopsAt (Condition.Overruns host) :=
  ((text_stopsAt.required _).map _
    |>.seq (text_stopsAt.optional _)
    |>.seq (text_stopsAt.required _)
    |>.seq (text_stopsAt.list.given _ _)
    |>.seq (Group.decoder_stopsAt.optional _)
    |>.seq (truth_stopsAt.given _ _)
    |>.seq (Action.decoder_stopsAt.list.given _ _)
    |>.seq (truth_stopsAt.given _ _)
    |>.seq (truth_stopsAt.given _ _)).record _ |>.check fun a f => by
      split <;> exact nofun

theorem Step.decoder_stopsAt : (Step.decoder host).StopsAt (Condition.Overruns host) :=
  ((text_stopsAt.required _).map _
    |>.seq (text_stopsAt.optional _)
    |>.seq ((oneOf_stopsAt _).required _)
    |>.seq (StepAction.decoder_stopsAt.list.given _ _)
    |>.seq (ApprovalConfig.decoder_stopsAt.optional _)
    |>.seq (AssignmentRule.decoder_stopsAt.optional _)
    |>.seq ((oneOf_stopsAt _).given _ _)
    |>.seq ((oneOf_stopsAt _).optional _)
    |>.seq (Action.decoder_stopsAt.list.given _ _)
    |>.seq (Action.decoder_stopsAt.list.given _ _)
    |>.seq (text_stopsAt.optional _)
    |>.seq (text_stopsAt.optional _)).record _ |>.check fun s f => by
      split <;> exact nofun

theorem StepGraph.decoder_stopsAt : (StepGraph.decoder host).StopsAt (Condition.Overruns host) :=
  ((Step.decoder_stopsAt.list.nonEmpty.required _).map _
    |>.seq (text_stopsAt.optional _)).record _

theorem Workflow.decoder_stopsAt : (Workflow.decoder host).StopsAt (Condition.Overruns host) := by
  refine StepGraph.decoder_stopsAt.andThen fun g f => ?_
  split <;> exact nofun

/-- Reading a template stops only at a condition whose pattern breaks its reader off. -/
theorem FormTemplate.decoder_stopsAt :
    (FormTemplate.decoder host).StopsAt (Condition.Overruns host) :=
  ((text_stopsAt.required _).map _
    |>.seq (text_stopsAt.optional _)
    |>.seq (whole_stopsAt.given _ _)
    |>.seq (truth_stopsAt.given _ _)
    |>.seq (Field.decoder_stopsAt.list.given _ _)
    |>.seq (FieldRule.decoder_stopsAt.list.given _ _)
    |>.seq (FormRule.decoder_stopsAt.list.given _ _)
    |>.seq (Workflow.decoder_stopsAt.optional _)
    |>.seq (ApprovalConfig.decoder_stopsAt.optional _)
    |>.seq (AssignmentRule.decoder_stopsAt.list.given _ _)
    |>.seq (BusinessRule.decoder_stopsAt.list.given _ _)).openRecord _ |>.check fun t f => by
      split <;> exact nofun

end Forms

end Stopping

end Formwork
