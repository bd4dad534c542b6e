import Mathlib.Tactic.Common
import Formwork.Document.Scalar
import Formwork.Proofs.Field.Merging
/-!
# Where the reading of a document stops

Most of what can be wrong with a document is reported as a fault, but reading it may also stop with
a failure. Decoders are built from others, each for a part of the document, so reading stops only
where one of the decoders at the bottom does, in a part that it was given.
-/
namespace Formwork

open Document

/-- The value has a part, at whatever depth, of which something holds. -/
inductive Value.Holds (p : Value → Prop) : Value → Prop where
  | here {v : Value} (holds : p v) : Holds p v
  | item {v : Value} {items : List Value} (member : v ∈ items) (holds : Holds p v) :
    Holds p (.list items)
  | entry {name : String} {v : Value} {es : List (String × Value)} (member : (name, v) ∈ es)
    (holds : Holds p v) : Holds p (.map es)

namespace Document

/-! ## Outcomes -/

namespace Checked

variable {α β : Type} {f : Failure}

@[simp] theorem map_eq_failed {g : α → β} {c : Checked α} : c.map g = .failed f ↔ c = .failed f := by
  cases c <;> simp [map]

@[simp] theorem under_eq_failed {key : Key} {c : Checked α} :
    c.under key = .failed f ↔ c = .failed f := by
  cases c <;> simp [under]

@[simp] theorem withFaults_eq_failed {faults : List Fault} {c : Checked α} :
    c.withFaults faults = .failed f ↔ c = .failed f := by
  cases c with
  | ok a => by_cases h : faults.isEmpty = true <;> simp [withFaults, h]
  | faulty | failed => simp [withFaults]

theorem seq_eq_failed {g : Checked (α → β)} {c : Checked α} (h : g.seq c = .failed f) :
    g = .failed f ∨ c = .failed f := by
  cases g <;> cases c <;> simp_all [seq]

theorem andThen_eq_failed {c : Checked α} {next : α → Checked β} (h : c.andThen next = .failed f) :
    c = .failed f ∨ ∃ a, c = .ok a ∧ next a = .failed f := by
  cases c with
  | ok a => exact .inr ⟨a, rfl, h⟩
  | faulty => cases h
  | failed => exact .inl (by cases h; rfl)

end Checked

/-! ## Decoders -/

/-- Reading stops only in a part of the value, for a reason that the part gives. -/
def Decoder.StopsAt {α : Type} (d : Decoder α) (reason : Value → Failure → Prop) : Prop :=
  ∀ v ids f, (d v ids).1 = .failed f → v.Holds (reason · f)

/-- Reading the fields stops only in a part of one of them. -/
def Fields.StopsAt {α : Type} (fields : Fields α) (reason : Value → Failure → Prop) : Prop :=
  ∀ es ids f, (fields.read es ids).1 = .failed f → ∃ e ∈ es, e.2.Holds (reason · f)

variable {α β : Type} {reason : Value → Failure → Prop}

namespace Decoder.StopsAt

variable {d : Decoder α}

theorem pure {read : Value → Checked α} (h : ∀ v f, read v = .failed f → v.Holds (reason · f)) :
    (Decoder.pure read).StopsAt reason :=
  fun v _ f hf => h v f hf

theorem never {read : Value → Checked α} (h : ∀ v f, read v ≠ .failed f) :
    (Decoder.pure read).StopsAt reason :=
  .pure fun v f hf => absurd hf (h v f)

theorem map (h : d.StopsAt reason) (g : α → β) : (d.map g).StopsAt reason := by
  intro v ids f hf
  exact h v ids f (Checked.map_eq_failed.mp hf)

theorem andThen (h : d.StopsAt reason) {next : α → Checked β}
    (hnext : ∀ a f, next a ≠ .failed f) :
    StopsAt (fun v => do return (← d v).andThen next) reason := by
  intro v ids f hf
  rcases Checked.andThen_eq_failed hf with hf | ⟨a, -, hf⟩
  · exact h v ids f hf
  · exact absurd hf (hnext a f)

theorem check (h : d.StopsAt reason) {next : α → Checked α}
    (hnext : ∀ a f, next a ≠ .failed f) : (d.check next).StopsAt reason :=
  h.andThen hnext

theorem orNull (h : d.StopsAt reason) : d.orNull.StopsAt reason := by
  intro v ids f hf
  cases v with
  | null => cases hf
  | bool | int | float | text | list | map => exact h.map some _ ids f hf

theorem itemsFrom (h : d.StopsAt reason) (n : Nat) (items : List Value) (ids : Ids) {f : Failure}
    (hf : (d.itemsFrom n items ids).1 = .failed f) : ∃ v ∈ items, v.Holds (reason · f) := by
  induction items generalizing n ids with
  | nil => cases hf
  | cons v rest ih =>
    rcases Checked.seq_eq_failed hf with hf | hf
    · simp only [Checked.map_eq_failed, Checked.under_eq_failed] at hf
      exact ⟨v, List.mem_cons_self, h v ids f hf⟩
    · obtain ⟨v', hmember, hholds⟩ := ih (n + 1) _ hf
      exact ⟨v', List.mem_cons_of_mem v hmember, hholds⟩

theorem list (h : d.StopsAt reason) : d.list.StopsAt reason := by
  intro v ids f hf
  cases v with
  | list items =>
    obtain ⟨v, hmember, hholds⟩ := h.itemsFrom 0 items ids hf
    exact .item hmember hholds
  | null | bool | int | float | text | map => cases hf

theorem nonEmpty {d : Decoder (List α)} (h : d.StopsAt reason) : d.nonEmpty.StopsAt reason :=
  h.check fun items f => by
    cases items with
    | nil => exact nofun
    | cons => exact nofun

theorem entriesOf (h : d.StopsAt reason) (es : Entries Value) (ids : Ids) {f : Failure}
    (hf : (d.entriesOf es ids).1 = .failed f) : ∃ e ∈ es, e.2.Holds (reason · f) := by
  induction es generalizing ids with
  | nil => cases hf
  | cons e rest ih =>
    rcases Checked.seq_eq_failed hf with hf | hf
    · simp only [Checked.map_eq_failed, Checked.under_eq_failed] at hf
      exact ⟨e, List.mem_cons_self, h e.2 ids f hf⟩
    · obtain ⟨e', hmember, hholds⟩ := ih _ hf
      exact ⟨e', List.mem_cons_of_mem e hmember, hholds⟩

theorem entries (h : d.StopsAt reason) : d.entries.StopsAt reason := by
  intro v ids f hf
  cases v with
  | map es =>
    obtain ⟨e, hmember, hholds⟩ := h.entriesOf es ids hf
    exact .entry hmember hholds
  | null | bool | int | float | text | list => cases hf

end Decoder.StopsAt

/-! ## Fields -/

namespace Fields.StopsAt

variable {fields : Fields α}

theorem seq {first : Fields (α → β)} (h : first.StopsAt reason) (hfields : fields.StopsAt reason) :
    (first <*> fields).StopsAt reason := by
  intro es ids f hf
  rcases Checked.seq_eq_failed hf with hf | hf
  · exact h es ids f hf
  · exact hfields es _ f hf

theorem map (h : fields.StopsAt reason) (g : α → β) : (g <$> fields).StopsAt reason := by
  intro es ids f hf
  rcases Checked.seq_eq_failed hf with hf | hf
  · cases hf
  · exact h es ids f hf

theorem openRecord (h : fields.StopsAt reason) (model : String) :
    (fields.openRecord model).StopsAt reason := by
  intro v ids f hf
  cases v with
  | map es =>
    obtain ⟨e, hmember, hholds⟩ := h es ids f hf
    exact .entry hmember hholds
  | null | bool | int | float | text | list => cases hf

theorem record (h : fields.StopsAt reason) (model : String) :
    (fields.record model).StopsAt reason := by
  intro v ids f hf
  cases v with
  | map es =>
    obtain ⟨e, hmember, hholds⟩ := h es ids f (Checked.withFaults_eq_failed.mp hf)
    exact .entry hmember hholds
  | null | bool | int | float | text | list => cases hf

end Fields.StopsAt

namespace Decoder.StopsAt

variable {d : Decoder α}

theorem orElse (h : d.StopsAt reason) (name : String) {missing : StateM Ids (Checked α)}
    (hmissing : ∀ ids f, (missing ids).1 ≠ .failed f) :
    (Fields.orElse name d missing).StopsAt reason := by
  intro es ids f hf
  cases hfound : es.get? name with
  | some v =>
    simp only [Fields.orElse, hfound] at hf
    exact ⟨(name, v), Entries.mem_of_get? hfound, h v ids f (Checked.under_eq_failed.mp hf)⟩
  | none =>
    simp only [Fields.orElse, hfound] at hf
    exact absurd (Checked.under_eq_failed.mp hf) (hmissing ids f)

theorem required (h : d.StopsAt reason) (name : String) :
    (Fields.required name d).StopsAt reason :=
  h.orElse name fun _ _ => nofun

theorem given (h : d.StopsAt reason) (name : String) (default : α) :
    (Fields.given name default d).StopsAt reason :=
  h.orElse name fun _ _ => nofun

theorem optional (h : d.StopsAt reason) (name : String) :
    (Fields.optional name d).StopsAt reason :=
  h.orNull.given name none

end Decoder.StopsAt

/-! ## Single values -/

namespace Decoder

theorem any_stopsAt : any.StopsAt reason := .never fun _ _ => nofun

theorem anyMap_stopsAt : anyMap.StopsAt reason := any_stopsAt.entries

theorem text_stopsAt : text.StopsAt reason :=
  .never fun v f => by cases v <;> exact nofun

theorem oneOf_stopsAt (α : Type) [Named α] : (oneOf α).StopsAt reason :=
  .never fun v f => by dsimp only; split <;> exact nofun

theorem constant_stopsAt (name : String) : (constant name).StopsAt reason :=
  .never fun v f => by
    cases v with
    | text s => dsimp only; split <;> exact nofun
    | null | bool | int | float | list | map => exact nofun

theorem whole_stopsAt : whole.StopsAt reason :=
  .never fun v f => by
    repeat' split
    all_goals exact nofun

theorem number_stopsAt : number.StopsAt reason :=
  .never fun v f => by
    repeat' split
    all_goals exact nofun

theorem truth_stopsAt : truth.StopsAt reason :=
  .never fun v f => by
    unfold truthOfInt
    repeat' split
    all_goals exact nofun

end Decoder

end Document
end Formwork
