import Formwork.Calendar.Format
import Formwork.Calendar.Iso
import Mathlib.Tactic.Common
/-!
# Numbers of a fixed width

A number that is written with zeros in front is read back from its digits, wherever they stand.
-/
namespace Formwork.Calendar

theorem ofDigitChars_padded (width n : Nat) :
    Nat.ofDigitChars 10 (padded width n).toList 0 = n := by
  simp only [padded, String.toList_append, String.toList_ofList]
  rw [Nat.ofDigitChars_append, Nat.ofDigitChars_replicate_zero, Nat.toString_eq_ofList_toDigits,
    String.toList_ofList, Nat.mul_zero, Nat.ofDigitChars_ten_toDigits]

namespace Iso

/-- The characters are digits, `count` of them, and spell the number. -/
structure Spells (count n : Nat) (cs : List Char) : Prop where
  length : cs.length = count
  digits : ∀ c ∈ cs, isDigit c = true
  value : Nat.ofDigitChars 10 cs 0 = n

theorem isDigit_eq (c : Char) : isDigit c = c.isDigit := rfl

theorem spells_padded {width n : Nat} (hwidth : 0 < width) (h : n < Nat.pow 10 width) :
    Spells width n (padded width n).toList where
  length := by
    have hlength := (Nat.length_toDigits_le_iff (by decide) hwidth).mpr h
    simp only [padded, Nat.toString_eq_ofList_toDigits, String.toList_append, String.toList_ofList,
      String.length_ofList, List.length_append, List.length_replicate]
    omega
  digits c hc := by
    simp only [padded, Nat.toString_eq_ofList_toDigits, String.toList_append, String.toList_ofList,
      List.mem_append, List.mem_replicate] at hc
    rcases hc with ⟨-, rfl⟩ | hc
    · rfl
    · rw [isDigit_eq]
      exact Nat.isDigit_of_mem_toDigits (by decide) (Nat.le_refl 10) hc
  value := ofDigitChars_padded width n

namespace Spells

variable {count n : Nat} {cs : List Char}

theorem number_eq (h : Spells count n cs) : number count cs = .ok n := by
  have hall : cs.all isDigit = true := List.all_eq_true.mpr h.digits
  have hvalue : cs.foldl (fun n c => 10 * n + (c.toNat - '0'.toNat)) 0 = n := h.value
  simp only [number, h.length, hall, and_self, if_true, hvalue]

theorem take_append (h : Spells count n cs) (rest : List Char) : (cs ++ rest).take count = cs :=
  List.take_left' h.length

theorem drop_append (h : Spells count n cs) (rest : List Char) : (cs ++ rest).drop count = rest :=
  List.drop_left' h.length

end Spells
end Iso
end Formwork.Calendar
