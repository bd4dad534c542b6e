import Mathlib.Data.String.Basic
import Mathlib.Data.List.TakeWhile
import Formwork.Json.Reader
import Formwork.Proofs.Document.Kept
import Formwork.Proofs.Field.Merging
import Formwork.Proofs.Work
import Formwork.Template.Basic
/-!
# What is read can be written

A whole number that is read has no more digits than one that is written: the reader of JSON texts
counts the digits, and so does the decoder that reads a whole number from a text. So a value that
was read has a text, and so has the version of a template.
-/
namespace Formwork

open Decimal

/-! ## Digits -/

theorem Decimal.digitsValue_lt {cs : List Char} (hdigits : ∀ c ∈ cs, isAsciiDigit c = true)
    (n : Nat) : digitsValue n cs < (n + 1) * 10 ^ cs.length := by
  induction cs generalizing n with
  | nil => simp [digitsValue]
  | cons c rest ih =>
    have hc : c.toNat - '0'.toNat ≤ 9 := by
      have h := hdigits c List.mem_cons_self
      simp only [isAsciiDigit, Bool.and_eq_true, decide_eq_true_eq, Char.le_def,
        UInt32.le_iff_toNat_le] at h
      have hnine : '9'.val.toNat = '0'.toNat + 9 := rfl
      have hval : c.toNat = c.val.toNat := rfl
      omega
    have hrest := ih (fun d hd => hdigits d (List.mem_cons_of_mem c hd))
      (10 * n + (c.toNat - '0'.toNat))
    have hscale : 10 * n + (c.toNat - '0'.toNat) + 1 ≤ (n + 1) * 10 := by omega
    calc digitsValue n (c :: rest)
        < (10 * n + (c.toNat - '0'.toNat) + 1) * 10 ^ rest.length := hrest
      _ ≤ (n + 1) * 10 * 10 ^ rest.length := Nat.mul_le_mul_right _ hscale
      _ = (n + 1) * 10 ^ (c :: rest).length := by
        rw [List.length_cons, Nat.pow_succ, Nat.mul_assoc, Nat.mul_comm 10]

theorem Value.isWritable_of_digits {cs : List Char} (hdigits : ∀ c ∈ cs, isAsciiDigit c = true)
    (hlength : cs.length ≤ Text.digitLimit) (negative : Bool) :
    (Value.int (if negative then -(digitsValue 0 cs : Int) else digitsValue 0 cs)).isWritable =
      true := by
  have hbound : digitsValue 0 cs < 10 ^ cs.length := by
    simpa using digitsValue_lt hdigits 0
  refine isWritable_int_of_lt ?_ hlength
  cases negative <;> simpa using hbound

namespace Value

theorem allWritable_iff {vs : List Value} :
    allWritable vs = true ↔ ∀ v ∈ vs, v.isWritable = true := by
  induction vs with
  | nil => simp [allWritable]
  | cons v rest ih => simp [allWritable, ih]

theorem entriesWritable_iff {es : List (String × Value)} :
    entriesWritable es = true ↔ ∀ e ∈ es, e.2.isWritable = true := by
  induction es with
  | nil => simp [entriesWritable]
  | cons e rest ih => simp [entriesWritable, ih]

end Value

/-! ## JSON texts -/

namespace Json

theorem number_isWritable {cs rest : List Char} {v : Value} (h : number cs = .ok (v, rest)) :
    v.isWritable = true := by
  have hwhole (cs : List Char) : ∀ c ∈ (wholeDigits cs).1, isAsciiDigit c = true := by
    unfold wholeDigits
    split
    · simp [isAsciiDigit]
    · exact fun c hc => List.mem_takeWhile_imp hc
  unfold number at h
  dsimp only at h
  -- the sign is only looked at when the digits have been read
  split at h
  all_goals
    split at h
    · cases h
    split at h
    · split at h
      · cases h
      · rename_i hcount
        cases h
        exact Value.isWritable_of_digits (hwhole _) (Nat.not_lt.mp hcount) _
    · cases h
      rfl

theorem word_isWritable {cs rest : List Char} {v : Value} (h : word cs = .ok (v, rest)) :
    v.isWritable = true := by
  unfold word at h
  split at h
  case h_7 => exact number_isWritable h
  all_goals
    cases h
    rfl

mutual

theorem value_isWritable (fuel room : Nat) {cs rest : List Char} {v : Value}
    (h : value fuel room cs = .ok (v, rest)) : v.isWritable = true := by
  cases fuel with
  | zero => cases h
  | succ fuel =>
    unfold value at h
    split at h
    · obtain ⟨⟨s, rest⟩, -, hmade⟩ := Work.except_bind_eq_ok_iff.mp h
      cases hmade
      rfl
    · split at h
      · cases h
      · split at h
        · cases h
          rfl
        · exact items_isWritable fuel _ (by simp) h
    · split at h
      · cases h
      · split at h
        · cases h
          rfl
        · exact members_isWritable fuel _ (by simp) h
    · exact word_isWritable h

theorem items_isWritable (fuel room : Nat) {read : List Value} {cs rest : List Char} {v : Value}
    (hread : ∀ w ∈ read, w.isWritable = true) (h : items fuel room read cs = .ok (v, rest)) :
    v.isWritable = true := by
  cases fuel with
  | zero => cases h
  | succ fuel =>
    unfold items at h
    obtain ⟨⟨w, after⟩, hw, hmade⟩ := Work.except_bind_eq_ok_iff.mp h
    have hall : ∀ u ∈ w :: read, u.isWritable = true :=
      List.forall_mem_cons.mpr ⟨value_isWritable fuel room hw, hread⟩
    dsimp only at hmade
    split at hmade
    · cases hmade
      exact Value.allWritable_iff.mpr fun u hu => hall u (List.mem_reverse.mp hu)
    · exact items_isWritable fuel room hall hmade
    · cases hmade

theorem members_isWritable (fuel room : Nat) {read : List (String × Value)} {cs rest : List Char}
    {v : Value} (hread : ∀ e ∈ read, e.2.isWritable = true)
    (h : members fuel room read cs = .ok (v, rest)) : v.isWritable = true := by
  cases fuel with
  | zero => cases h
  | succ fuel =>
    unfold members at h
    split at h
    · obtain ⟨⟨name, afterName⟩, -, hmade⟩ := Work.except_bind_eq_ok_iff.mp h
      dsimp only at hmade
      split at hmade
      · obtain ⟨⟨w, after⟩, hw, hmade⟩ := Work.except_bind_eq_ok_iff.mp hmade
        have hall : ∀ e ∈ (name, w) :: read, e.2.isWritable = true :=
          List.forall_mem_cons.mpr ⟨value_isWritable fuel room hw, hread⟩
        dsimp only at hmade
        split at hmade
        · cases hmade
          exact Value.entriesWritable_iff.mpr fun e he =>
            hall e (List.mem_reverse.mp (Entries.mem_ofList he))
        · exact members_isWritable fuel room hall hmade
        · cases hmade
      · cases hmade
    · cases h

end

end Json

/-! ## Whole numbers in documents -/

namespace Document

open Text Decoder

/-- What a decoder makes of a value that can be written has a property. -/
def Decoder.Yields {α : Type} (d : Decoder α) (p : α → Prop) : Prop :=
  ∀ v ids a, v.isWritable = true → (d v ids).1 = .ok a → p a

def Fields.Yields {α : Type} (fields : Fields α) (p : α → Prop) : Prop :=
  ∀ (es : Entries Value) ids a, Value.entriesWritable es = true →
    (fields.read es ids).1 = .ok a → p a

section Yields

variable {α β : Type}

variable {first : Fields (α → β)} {fields : Fields α} {p : β → Prop} {q : α → Prop}

theorem Fields.Yields.seq (hfirst : first.Yields fun make => ∀ a, q a → p (make a))
    (hfields : fields.Yields q) : (first <*> fields).Yields p := by
  intro es ids b hes hb
  obtain ⟨make, a, hmake, ha, rfl⟩ := Checked.seq_eq_ok.mp hb
  exact hfirst es ids make hes hmake a (hfields es _ a hes ha)

theorem Decoder.Yields.given {d : Decoder α} (hd : d.Yields q) (name : String) {default : α}
    (hdefault : q default) : (Fields.given name default d).Yields q := by
  intro es ids a hes ha
  unfold Fields.given at ha
  cases hget : es.get? name with
  | some v =>
    rw [Fields.orElse_of_some hget, Checked.under_eq_ok] at ha
    exact hd v ids a (Value.entriesWritable_iff.mp hes _ (Entries.mem_of_get? hget)) ha
  | none =>
    rw [Fields.orElse_of_none hget, Checked.under_eq_ok] at ha
    cases ha
    exact hdefault

theorem Fields.Yields.openRecord (h : fields.Yields q) (model : String) :
    (fields.openRecord model).Yields q := by
  intro v ids a hv ha
  cases v with
  | map es => exact h es ids a hv ha
  | null | bool _ | int _ | float _ | text _ | list _ => cases ha

theorem Decoder.Yields.check {d : Decoder α} (hd : d.Yields q) {next : α → Checked α}
    (hnext : ∀ a b, next a = .ok b → b = a) : (d.check next).Yields q := by
  intro v ids b hv hb
  obtain ⟨a, hread, hmade⟩ := Checked.andThen_eq_ok.mp hb
  exact hnext a b hmade ▸ hd v ids a hv hread

end Yields

end Document

end Formwork
