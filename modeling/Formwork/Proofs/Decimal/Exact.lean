import Mathlib
import Formwork.Data.Equality
import Formwork.Proofs.Decimal.Reach
/-!
# Floats as exact numbers

A float stands for a rational number or for one of two infinities, and the undefined float for
nothing. Two floats compare as what they stand for, and so does a whole number with a float; the
undefined float compares with nothing.
-/
namespace Formwork.Decimal

open Float.Model
open Float.Model.UnpackedFloat (Sign)

/-- A rational number that is written with a mantissa and an exponent. -/
def dyadic (m : Nat) (e : Int) : ℚ := m * 2 ^ e

/-- What a float read out of its bits stands for. -/
def exactOf : UnpackedFloat → Option (WithBotTop ℚ)
  | .notANumber => none
  | .infinity .positive => some ⊤
  | .infinity .negative => some ⊥
  | .zero _ => some ↑(0 : ℚ)
  | .finite .positive m e _ => some ↑(dyadic m e)
  | .finite .negative m e _ => some ↑(-dyadic m e)

/-- The exact value of a float; the undefined one has none. -/
def value? (x : Float) : Option (WithBotTop ℚ) := exactOf x.toModel.unpack

/-! ## Comparisons in step -/

theorem compare_congr {α β : Type} [LinearOrder α] [LinearOrder β] {a b : α} {x y : β}
    (hlt : a < b → x < y) (heq : a = b → x = y) (hgt : b < a → y < x) :
    compare x y = compare a b := by
  rcases lt_trichotomy a b with h | h | h
  · rw [compare_lt_iff_lt.mpr h, compare_lt_iff_lt.mpr (hlt h)]
  · rw [compare_eq_iff_eq.mpr h, compare_eq_iff_eq.mpr (heq h)]
  · rw [compare_gt_iff_gt.mpr h, compare_gt_iff_gt.mpr (hgt h)]

theorem compare_coe (p q : ℚ) : compare (p : WithBotTop ℚ) q = compare p q :=
  compare_congr WithBotTop.coe_lt_coe.mpr (congrArg _) WithBotTop.coe_lt_coe.mpr

theorem compare_neg (p q : ℚ) : compare (-p) (-q) = (compare p q).swap := by
  rw [← Std.OrientedCmp.eq_swap]
  exact compare_congr neg_lt_neg (fun h => congrArg _ h.symm) neg_lt_neg

theorem compare_coe_of_lt {p q : ℚ} (h : p < q) : compare (p : WithBotTop ℚ) q = .lt := by
  rw [compare_coe, compare_lt_iff_lt.mpr h]

theorem compare_coe_of_gt {p q : ℚ} (h : q < p) : compare (p : WithBotTop ℚ) q = .gt := by
  rw [compare_coe, compare_gt_iff_gt.mpr h]

/-! ## Mantissas that floats hold -/

/-- A mantissa and an exponent that a finite float is made of: all 53 digits of the mantissa are
used, unless the exponent is the least one. -/
structure Held (m : Nat) (e : Int) : Prop where
  digits : m < 2 ^ 53
  low : -1074 ≤ e
  high : e ≤ 971
  full : 2 ^ 52 ≤ m ∨ e = -1074

section Dyadic

variable {m n : Nat} {e g : Int}

theorem dyadic_pos (hm : 0 < m) : 0 < dyadic m e := by
  unfold dyadic
  positivity

theorem neg_dyadic_neg (hm : 0 < m) : -dyadic m e < 0 := neg_lt_zero.mpr (dyadic_pos hm)

theorem dyadic_lt_of_mantissa (h : m < n) : dyadic m e < dyadic n e :=
  mul_lt_mul_of_pos_right (by exact_mod_cast h) (by positivity)

/-- Of two numbers that floats hold, the one with the smaller exponent is smaller. -/
theorem dyadic_lt_of_exponent (hm : Held m e) (hn : Held n g) (h : e < g) :
    dyadic m e < dyadic n g := by
  have hfull : (2 ^ 52 : ℚ) ≤ n := by
    rcases hn.full with hfull | hleast
    · exact_mod_cast hfull
    · have := hm.low
      omega
  have hdigits : (m : ℚ) < 2 ^ 53 := by exact_mod_cast hm.digits
  calc dyadic m e < 2 ^ (53 : ℕ) * 2 ^ e := mul_lt_mul_of_pos_right hdigits (by positivity)
    _ = (2 : ℚ) ^ (53 + e) := by rw [zpow_add₀ (by norm_num)]; norm_num
    _ ≤ 2 ^ (52 + g) := zpow_le_zpow_right₀ (by norm_num) (by omega)
    _ = 2 ^ (52 : ℕ) * 2 ^ g := by rw [zpow_add₀ (by norm_num)]; norm_num
    _ ≤ dyadic n g := mul_le_mul_of_nonneg_right hfull (by positivity)

theorem compare_dyadic (hm : Held m e) (hn : Held n g) :
    compare (dyadic m e) (dyadic n g) = (compare e g).then (compare m n) := by
  rcases lt_trichotomy e g with hless | rfl | hmore
  · rw [compare_lt_iff_lt.mpr hless, compare_lt_iff_lt.mpr (dyadic_lt_of_exponent hm hn hless)]
    rfl
  · rw [compare_eq_iff_eq.mpr rfl]
    exact compare_congr dyadic_lt_of_mantissa (fun h => by rw [h]) dyadic_lt_of_mantissa
  · rw [compare_gt_iff_gt.mpr hmore, compare_gt_iff_gt.mpr (dyadic_lt_of_exponent hn hm hmore)]
    rfl

end Dyadic

/-! ## What the bits hold -/

/-- The first digit of a mantissa is not written down unless the exponent is the least one. -/
theorem leading_toNat (f : BitVec 52) : (1#1 ++ f).toNat = f.toNat + 2 ^ 52 := by
  rw [BitVec.toNat_append, ← Nat.shiftLeft_add_eq_or_of_lt f.isLt, Nat.add_comm]
  rfl

theorem held_of_unpack {b : BitVec Format.binary64.numBits} {s : Sign} {m : Nat} {e : Int}
    {hm : 0 < m} (h : UnpackedFloat.unpack Format.binary64 b = .finite s m e hm) : Held m e := by
  obtain ⟨hdigits, hexponent, hfinite⟩ := unpack_eq_finite h
  refine ⟨hdigits, by omega, by omega, ?_⟩
  unfold UnpackedFloat.unpack at h
  dsimp only at h
  split at h
  · split at h <;> cases h
  split at h
  · rename_i hzero
    right
    rw [hzero] at hexponent
    simpa using hexponent
  · left
    cases h
    rw [leading_toNat]
    omega

/-- What is finite is made of a mantissa and an exponent that floats hold. -/
def IsHeld : UnpackedFloat → Prop
  | .finite _ m e _ => Held m e
  | _ => True

theorem isHeld_unpack (b : BitVec Format.binary64.numBits) :
    IsHeld (UnpackedFloat.unpack Format.binary64 b) := by
  cases h : UnpackedFloat.unpack Format.binary64 b with
  | finite s m e hm => exact held_of_unpack h
  | notANumber | infinity s | zero s => trivial

/-! ## Comparing floats -/

theorem compare_exactOf {a b : UnpackedFloat} (ha : IsHeld a) (hb : IsHeld b) :
    a.compare b = Option.map₂ compare (exactOf a) (exactOf b) := by
  cases a with
  | notANumber => cases b <;> rfl
  | infinity s =>
    cases b with
    | notANumber | zero t => cases s <;> rfl
    | infinity t => cases s <;> cases t <;> rfl
    | finite t n g hn => cases s <;> cases t <;> rfl
  | zero s =>
    cases b with
    | notANumber | zero t => rfl
    | infinity t => cases t <;> rfl
    | finite t n g hn =>
      cases t with
      | positive => exact congrArg some (compare_coe_of_lt (dyadic_pos hn)).symm
      | negative => exact congrArg some (compare_coe_of_gt (neg_dyadic_neg hn)).symm
  | finite s m e hm =>
    cases b with
    | notANumber => cases s <;> rfl
    | infinity t => cases s <;> cases t <;> rfl
    | zero t =>
      cases s with
      | positive => exact congrArg some (compare_coe_of_gt (dyadic_pos hm)).symm
      | negative => exact congrArg some (compare_coe_of_lt (neg_dyadic_neg hm)).symm
    | finite t n g hn =>
      have hpositive : -dyadic n g < dyadic m e := (neg_dyadic_neg hn).trans (dyadic_pos hm)
      have hnegative : -dyadic m e < dyadic n g := (neg_dyadic_neg hm).trans (dyadic_pos hn)
      cases s with
      | positive =>
        cases t with
        | positive =>
          refine congrArg some ?_
          rw [compare_coe, compare_dyadic ha hb]
        | negative => exact congrArg some (compare_coe_of_gt hpositive).symm
      | negative =>
        cases t with
        | positive => exact congrArg some (compare_coe_of_lt hnegative).symm
        | negative =>
          refine congrArg some ?_
          rw [compare_coe, compare_neg, compare_dyadic ha hb]

theorem compare_value? (x y : Float) :
    x.toModel.unpack.compare y.toModel.unpack = Option.map₂ compare (value? x) (value? y) :=
  compare_exactOf (isHeld_unpack _) (isHeld_unpack _)

theorem lt_iff_value? (x y : Float) :
    x < y ↔ ∃ a b, value? x = some a ∧ value? y = some b ∧ a < b := by
  have hlt : x < y ↔ x.toModel.unpack.compare y.toModel.unpack = some .lt := by
    change decide (x.toModel.lt y.toModel = true) = true ↔ _
    rw [decide_eq_true_iff]
    exact beq_iff_eq
  rw [hlt, compare_value?]
  cases value? x with
  | none => simp
  | some a =>
    cases value? y with
    | none => simp
    | some b => simp [compare_lt_iff_lt]

theorem value?_zero : value? 0.0 = some ↑(0 : ℚ) := rfl

theorem beq_zero_iff_value? (x : Float) : (x == 0.0) = true ↔ value? x = some ↑(0 : ℚ) := by
  have hbeq : (x == 0.0) = true ↔
      x.toModel.unpack.compare (0.0 : Float).toModel.unpack = some .eq := by
    change (x.toModel.unpack.compare (0.0 : Float).toModel.unpack == some .eq) = true ↔ _
    exact beq_iff_eq
  rw [hbeq, compare_value?, value?_zero]
  cases value? x with
  | none => simp
  | some a => simp

/-! ## Comparing with whole numbers -/

/-- The exact value that was read from the bits of a finite float. -/
def Binary.value (b : Binary) : ℚ :=
  if b.negative then -dyadic b.mantissa b.exponent else dyadic b.mantissa b.exponent

theorem Binary.signed_eq (b : Binary) : (b.signed : ℚ) = b.value * b.denominator := by
  have hpower : (2 : ℚ) ^ b.exponent.toNat = 2 ^ b.exponent * 2 ^ (-b.exponent).toNat := by
    rw [← zpow_natCast, ← zpow_natCast, ← zpow_add₀ (by norm_num)]
    congr 1
    omega
  have hnumerator : (b.numerator : ℚ) = dyadic b.mantissa b.exponent * b.denominator := by
    unfold numerator denominator dyadic
    rw [Nat.pow_eq, Nat.pow_eq]
    push_cast
    rw [hpower, mul_assoc]
  unfold signed value
  split
  · push_cast
    rw [hnumerator, neg_mul]
  · exact_mod_cast hnumerator

theorem Binary.compareInt_eq (b : Binary) (n : Int) : b.compareInt n = compare b.value (n : ℚ) := by
  have hpos : (0 : ℚ) < b.denominator := by exact_mod_cast b.denominator_pos
  have hinteger (p : ℚ → ℚ → Prop) (h : p (b.value * b.denominator) (n * b.denominator)) :
      p (b.signed : ℚ) ((n * b.denominator : Int) : ℚ) := by
    rw [b.signed_eq]
    push_cast
    exact h
  apply compare_congr
  · intro h
    exact_mod_cast hinteger (· < ·) (mul_lt_mul_of_pos_right h hpos)
  · intro h
    exact_mod_cast hinteger (· = ·) (by rw [h])
  · intro h
    exact_mod_cast hinteger (fun p q => q < p) (mul_lt_mul_of_pos_right h hpos)

/-- The finite value of a float by its parts. -/
def binaryOf : UnpackedFloat → Option Binary
  | .finite s m e _ => some ⟨s == .negative, m, e⟩
  | .zero s => some ⟨s == .negative, 0, -1074⟩
  | .infinity _ | .notANumber => none

section Parts

variable (b : BitVec Format.binary64.numBits)

theorem unpackExponent_toNat :
    (UnpackedFloat.unpackExponent b).toNat = b.toNat / 2 ^ 52 % 2 ^ 11 := by
  rw [UnpackedFloat.unpackExponent_def, BitVec.extractLsb'_toNat, Nat.shiftRight_eq_div_pow]

theorem unpackMantissa_toNat : (UnpackedFloat.unpackMantissa b).toNat = b.toNat % 2 ^ 52 := by
  rw [UnpackedFloat.unpackMantissa_def, BitVec.extractLsb'_toNat, Nat.shiftRight_zero]

theorem unpackSign_eq :
    (Sign.ofBitVec (UnpackedFloat.unpackSign b) == .negative) = decide (2 ^ 63 ≤ b.toNat) := by
  have hlt : b.toNat < 2 ^ 64 := b.isLt
  have hbit : (UnpackedFloat.unpackSign b).toNat = b.toNat / 2 ^ 63 := by
    rw [UnpackedFloat.unpackSign_def, BitVec.extractLsb'_toNat, Nat.shiftRight_eq_div_pow]
    change b.toNat / 2 ^ 63 % 2 ^ 1 = _
    omega
  by_cases h : 2 ^ 63 ≤ b.toNat
  · have hone : UnpackedFloat.unpackSign b = 1#1 := by
      apply BitVec.eq_of_toNat_eq
      change _ = 1
      omega
    rw [hone, decide_eq_true h]
    rfl
  · have hzero : UnpackedFloat.unpackSign b = 0#1 := by
      apply BitVec.eq_of_toNat_eq
      change _ = 0
      omega
    rw [hzero, decide_eq_false h]
    rfl

end Parts

theorem ofFloat?_eq (x : Float) : Binary.ofFloat? x = binaryOf x.toModel.unpack := by
  obtain ⟨⟨bits, hvalid⟩⟩ := x
  obtain ⟨b, hb⟩ : ∃ b : BitVec Format.binary64.numBits, b = bits.toBitVec := ⟨_, rfl⟩
  have hbits : bits.toNat = b.toNat := by rw [hb]; rfl
  change (if bits.toNat / 2 ^ 52 % 2 ^ 11 = 2047 then none
    else if bits.toNat / 2 ^ 52 % 2 ^ 11 = 0 then
      some (Binary.mk (decide (2 ^ 63 ≤ bits.toNat)) (bits.toNat % 2 ^ 52) (-1074))
    else some ⟨decide (2 ^ 63 ≤ bits.toNat), bits.toNat % 2 ^ 52 + 2 ^ 52,
      ((bits.toNat / 2 ^ 52 % 2 ^ 11 : Nat) : Int) - 1075⟩) =
    binaryOf (UnpackedFloat.unpack Format.binary64 bits.toBitVec)
  rw [hbits, ← hb, ← unpackExponent_toNat, ← unpackMantissa_toNat, ← unpackSign_eq]
  unfold UnpackedFloat.unpack
  dsimp only
  split
  · rename_i hall
    have hinfinite : UnpackedFloat.unpackExponent b = -1#11 := BitVec.eq_of_toNat_eq hall
    rw [if_pos hinfinite]
    split <;> rfl
  rename_i hfinite
  rw [if_neg (fun h => hfinite (congrArg BitVec.toNat h))]
  split
  · rename_i hleast
    have hzero : UnpackedFloat.unpackExponent b = 0#11 := BitVec.eq_of_toNat_eq hleast
    rw [if_pos hzero]
    split
    · rename_i hnone
      rw [hnone]
      rfl
    · rw [hzero]
      rfl
  · rename_i hmore
    rw [if_neg (fun h => hmore (congrArg BitVec.toNat h))]
    change _ = some (Binary.mk _ _ _)
    rw [leading_toNat]
    rfl

theorem exactOf_of_binaryOf {f : UnpackedFloat} {b : Binary} (h : binaryOf f = some b) :
    exactOf f = some ↑b.value := by
  cases f with
  | notANumber | infinity s => cases h
  | zero s =>
    cases h
    cases s <;> simp [exactOf, Binary.value, dyadic]
  | finite s m e hm =>
    cases h
    cases s <;> rfl

theorem compareFloat?_eq (n : Int) (x : Float) :
    Value.compareFloat? n x = (value? x).map (compare ((n : ℚ) : WithBotTop ℚ)) := by
  unfold Value.compareFloat?
  rw [ofFloat?_eq]
  cases hread : binaryOf x.toModel.unpack with
  | some b =>
    dsimp only
    rw [value?, exactOf_of_binaryOf hread, Option.map_some, compare_coe, b.compareInt_eq,
      ← Std.OrientedCmp.eq_swap]
  | none =>
    have hnegative : x < 0.0 ↔ ∃ a, value? x = some a ∧ a < (0 : ℚ) := by
      simp [lt_iff_value?, value?_zero]
    have hnan : x.isNaN = x.toModel.unpack.isNaN := rfl
    simp only [hnegative, hnan, value?]
    cases hx : x.toModel.unpack with
    | notANumber => rfl
    | infinity s =>
      cases s with
      | positive =>
        have hless : compare ((n : ℚ) : WithBotTop ℚ) ⊤ = .lt :=
          compare_lt_iff_lt.mpr (lt_top_iff_ne_top.mpr (WithBotTop.coe_ne_top _))
        simp [exactOf, UnpackedFloat.isNaN, hless]
      | negative =>
        have hmore : compare ((n : ℚ) : WithBotTop ℚ) ⊥ = .gt :=
          compare_gt_iff_gt.mpr (bot_lt_iff_ne_bot.mpr (WithBotTop.coe_ne_bot _))
        simp [exactOf, UnpackedFloat.isNaN, hmore, bot_lt_iff_ne_bot]
    | zero s | finite s m e hm => simp [hx, binaryOf] at hread

end Formwork.Decimal
