import Formwork.Document.Scalar
import Mathlib.Tactic.Common
/-!
# Documents that are read as what they were written from

A decoder reads a thing from its document if it has it as its outcome, whatever names there are, and
gives out none. Records do so if each of their fields does.
-/
namespace Formwork.Document

/-! ## Outcomes -/

namespace Checked

variable {α β : Type}

theorem map_eq_ok {g : α → β} {c : Checked α} {b : β} :
    c.map g = .ok b ↔ ∃ a, c = .ok a ∧ g a = b := by
  cases c <;> simp [map]

theorem under_eq_ok {key : Key} {c : Checked α} {a : α} : c.under key = .ok a ↔ c = .ok a := by
  cases c <;> simp [under]

theorem seq_eq_ok {g : Checked (α → β)} {c : Checked α} {b : β} :
    g.seq c = .ok b ↔ ∃ f a, g = .ok f ∧ c = .ok a ∧ f a = b := by
  cases g <;> cases c <;> simp [seq]

theorem andThen_eq_ok {c : Checked α} {next : α → Checked β} {b : β} :
    c.andThen next = .ok b ↔ ∃ a, c = .ok a ∧ next a = .ok b := by
  cases c <;> simp [andThen]

theorem withFaults_eq_ok {faults : List Fault} {c : Checked α} {a : α} :
    c.withFaults faults = .ok a ↔ faults = [] ∧ c = .ok a := by
  cases c with
  | ok b => by_cases h : faults = [] <;> simp [withFaults, h]
  | faulty | failed => simp [withFaults]

end Checked

/-! ## Decoders -/

/-- The decoder reads a value from another and gives out no names. -/
def Decoder.Reads {α : Type} (d : Decoder α) (v : Value) (a : α) : Prop :=
  ∀ ids, d v ids = (.ok a, ids)

/-- The fields read something from entries and give out no names. -/
def Fields.Reads {α : Type} (fields : Fields α) (es : Entries Value) (a : α) : Prop :=
  ∀ ids, fields.read es ids = (.ok a, ids)

variable {α β : Type}

/-- The name of a member leads back to it. -/
def Named.Faithful (α : Type) [Named α] : Prop :=
  ∀ a : α, Named.ofName? α (Named.name a) = some a

theorem Decoder.oneOf_reads [Named α] (h : Named.Faithful α) (a : α) :
    (oneOf α).Reads (ofNamed a) a := by
  intro ids
  simp only [oneOf, Decoder.pure, ofNamed, h a]
  rfl

theorem Fields.orElse_of_some {d : Decoder α} {missing : StateM Ids (Checked α)} {name : String}
    {es : Entries Value} {v : Value} (found : es.get? name = some v) (ids : Ids) :
    (Fields.orElse name d missing).read es ids =
      ((d v ids).1.under (.name name), (d v ids).2) := by
  simp only [Fields.orElse, found]
  rfl

theorem Fields.orElse_of_none {d : Decoder α} {missing : StateM Ids (Checked α)} {name : String}
    {es : Entries Value} (absent : es.get? name = none) (ids : Ids) :
    (Fields.orElse name d missing).read es ids =
      ((missing ids).1.under (.name name), (missing ids).2) := by
  simp only [Fields.orElse, absent]
  rfl

theorem Decoder.Reads.orElse {d : Decoder α} {missing : StateM Ids (Checked α)} {name : String}
    {v : Value} {a : α} (h : d.Reads v a) {es : Entries Value} (found : es.get? name = some v) :
    (Fields.orElse name d missing).Reads es a := by
  intro ids
  rw [Fields.orElse_of_some found, h ids]
  rfl

namespace Fields.Reads

variable {es : Entries Value}

theorem map {x : Fields α} {a : α} (h : x.Reads es a) (g : α → β) : (g <$> x).Reads es (g a) := by
  intro ids
  change ((Checked.ok g).seq (x.read es ids).1, (x.read es ids).2) = _
  rw [h ids]
  rfl

theorem seq {f : Fields (α → β)} {x : Fields α} {g : α → β} {a : α} (hf : f.Reads es g)
    (hx : x.Reads es a) : (f <*> x).Reads es (g a) := by
  intro ids
  change ((f.read es ids).1.seq (x.read es (f.read es ids).2).1,
    (x.read es (f.read es ids).2).2) = _
  rw [hf ids, hx ids]
  rfl

theorem record {x : Fields α} {a : α} (h : x.Reads es a) (model : String)
    (known : x.unknown es = []) : (x.record model).Reads (.map es) a := by
  intro ids
  change ((x.read es ids).1.withFaults (x.unknown es), (x.read es ids).2) = _
  rw [h ids, known]
  rfl

end Fields.Reads

end Formwork.Document
