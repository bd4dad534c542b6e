import Formwork.Proofs.Decimal.Exact
/-!
# Floats times 1024

Multiplying a float by 1024 moves its exponent and the zeros behind its mantissa, and drops no
digit, so the product is exact. Only where it leaves the range of floats is it an infinity instead.
-/
namespace Formwork.Decimal

open Float.Model
open Float.Model.UnpackedFloat (ExtendedMantissa Sign roundWithAccuracy)

/-! ## As far as floats reach -/

/-- A product as far as floats reach: from `2 ^ 1024` on it is infinite. -/
def reached (q : ℚ) : WithBotTop ℚ :=
  if 2 ^ 1024 ≤ q then ⊤ else if q ≤ -2 ^ 1024 then ⊥ else q

/-- What becomes of the number that a float stands for if it is multiplied. -/
def times (k : ℚ) : WithBotTop ℚ → WithBotTop ℚ
  | ⊥ => ⊥
  | (q : ℚ) => reached (q * k)
  | ⊤ => ⊤

theorem reached_of_abs_lt {q : ℚ} (h : |q| < 2 ^ 1024) : reached q = q := by
  obtain ⟨hlow, hhigh⟩ := abs_lt.mp h
  rw [reached, if_neg (not_le.mpr hhigh), if_neg (not_le.mpr hlow)]

theorem reached_of_le {q : ℚ} (h : 2 ^ 1024 ≤ q) : reached q = ⊤ := if_pos h

theorem reached_neg_of_le {q : ℚ} (h : 2 ^ 1024 ≤ q) : reached (-q) = ⊥ := by
  have hpos : 0 < q := lt_of_lt_of_le (by positivity) h
  have hneg : ¬ 2 ^ 1024 ≤ -q :=
    not_le.mpr ((neg_lt_zero.mpr hpos).trans (by positivity))
  rw [reached, if_neg hneg, if_pos (neg_le_neg h)]

theorem times_zero (k : ℚ) : times k ((0 : ℚ) : WithBotTop ℚ) = (0 : ℚ) := by
  change reached (0 * k) = _
  rw [zero_mul, reached_of_abs_lt (by rw [abs_zero]; positivity)]

/-- A product that left the range of floats does not come back by a larger factor. -/
theorem times_times (j : ℚ) {k : ℚ} (hk : 1 ≤ k) (a : WithBotTop ℚ) :
    times k (times j a) = times (j * k) a := by
  have hmore {q : ℚ} (hlarge : 2 ^ 1024 ≤ q) : 2 ^ 1024 ≤ q * k :=
    hlarge.trans (le_mul_of_one_le_right (le_trans (by positivity) hlarge) hk)
  induction a using WithBotTop.rec with
  | bot | top => rfl
  | coe q =>
    change times k (reached (q * j)) = reached (q * (j * k))
    rw [← mul_assoc]
    by_cases hsmall : |q * j| < 2 ^ 1024
    · rw [reached_of_abs_lt hsmall]
      rfl
    · rcases le_abs.mp (not_lt.mp hsmall) with hlarge | hlarge
      · rw [reached_of_le hlarge, reached_of_le (hmore hlarge)]
        rfl
      · rw [← neg_neg (q * j), reached_neg_of_le hlarge, neg_mul _ k,
          reached_neg_of_le (hmore hlarge)]
        rfl

theorem dyadic_lt_of_high {m : Nat} {e : Int} (hm : m < 2 ^ 53) (he : e ≤ 971) :
    dyadic m e < 2 ^ 1024 := by
  calc dyadic m e < 2 ^ (53 : ℕ) * 2 ^ e :=
        mul_lt_mul_of_pos_right (by exact_mod_cast hm) (by positivity)
    _ ≤ 2 ^ (53 : ℕ) * 2 ^ (971 : ℤ) :=
        mul_le_mul_of_nonneg_left (zpow_le_zpow_right₀ (by norm_num) he) (by positivity)
    _ = 2 ^ 1024 := by
        rw [← zpow_natCast, ← zpow_natCast, ← zpow_add₀ (by norm_num)]
        rfl

theorem le_dyadic_of_large {m : Nat} {e : Int} (hm : 2 ^ 52 ≤ m) (he : 972 ≤ e) :
    2 ^ 1024 ≤ dyadic m e := by
  calc (2 : ℚ) ^ 1024 = 2 ^ (52 : ℕ) * 2 ^ (972 : ℤ) := by
        rw [← zpow_natCast, ← zpow_natCast, ← zpow_add₀ (by norm_num)]
        rfl
    _ ≤ 2 ^ (52 : ℕ) * 2 ^ e :=
        mul_le_mul_of_nonneg_left (zpow_le_zpow_right₀ (by norm_num) he) (by positivity)
    _ ≤ dyadic m e := mul_le_mul_of_nonneg_right (by exact_mod_cast hm) (by positivity)

/-! ## Written down and read again -/

theorem unpack_packComponents (s : Sign) (x : BitVec 11) (f : BitVec 52) :
    UnpackedFloat.unpack Format.binary64 (UnpackedFloat.packComponents Format.binary64 s x f) =
      if x = -1#11 then if f = 0#52 then .infinity s else .notANumber
      else if x = 0#11 then
        if h : f = 0#52 then .zero s
        else .finite s f.toNat (-1074) (by simpa [BitVec.toNat_pos, BitVec.pos_iff_ne_zero])
      else .finite s (1#1 ++ f).toNat (x.toNat - 1075) (by rw [leading_toNat]; omega) := by
  unfold UnpackedFloat.unpack
  simp only [UnpackedFloat.unpackExponent_packComponents,
    UnpackedFloat.unpackMantissa_packComponents, UnpackedFloat.unpackSign_packComponents,
    Sign.ofBitVec_toBitVec]
  split
  · rfl
  split
  · rename_i hzero
    subst hzero
    rfl
  · rfl

theorem ofNat_ne {w n : Nat} {b : BitVec w} (hn : n < 2 ^ w) (h : n ≠ b.toNat) :
    BitVec.ofNat w n ≠ b := by
  rintro rfl
  exact h (by rw [BitVec.toNat_ofNat, Nat.mod_eq_of_lt hn])

section Pack

variable (s : Sign) {m : Nat} {e : Int} (hm : 0 < m)

theorem unpack_pack_of_full (hfull : 2 ^ 52 ≤ m) (hdigits : m < 2 ^ 53) (hlow : -1074 ≤ e)
    (hhigh : e ≤ 971) : (Float.Model.pack (.finite s m e hm)).unpack = .finite s m e hm := by
  change UnpackedFloat.unpack _ (UnpackedFloat.pack _ (.finite s m e hm)) = _
  have hbiased : (biased e : Int) = e + 1075 := by
    unfold biased
    omega
  have hlog : m.log2 = 52 := (Nat.log2_eq_iff (by omega)).mpr ⟨hfull, hdigits⟩
  have hexponent : (BitVec.ofNat 11 (biased e)).toNat = biased e := by
    rw [BitVec.toNat_ofNat, Nat.mod_eq_of_lt (by omega)]
  have hfinite : BitVec.ofNat 11 (biased e) ≠ -1#11 :=
    ofNat_ne (by omega) (show biased e ≠ 2047 by omega)
  have hnormal : BitVec.ofNat 11 (biased e) ≠ 0#11 :=
    ofNat_ne (by omega) (show biased e ≠ 0 by omega)
  rw [pack_finite, if_neg (by omega), if_pos (by omega), unpack_packComponents, if_neg hfinite,
    if_neg hnormal]
  congr 1
  · rw [leading_toNat, BitVec.toNat_ofNat]
    omega
  · rw [hexponent]
    omega

theorem unpack_pack_of_least (hpart : m < 2 ^ 52) :
    (Float.Model.pack (.finite s m (-1074) hm)).unpack = .finite s m (-1074) hm := by
  change UnpackedFloat.unpack _ (UnpackedFloat.pack _ (.finite s m (-1074) hm)) = _
  have hlog : m.log2 ≤ 51 := log2_le_of_lt (by omega)
  have hsome : BitVec.ofNat 52 m ≠ 0#52 := ofNat_ne hpart (show m ≠ 0 by omega)
  rw [pack_finite, if_neg (by decide), if_neg (by omega), unpack_packComponents,
    if_neg (by decide), if_pos rfl, dif_neg hsome]
  congr 1
  rw [BitVec.toNat_ofNat, Nat.mod_eq_of_lt hpart]

theorem unpack_pack_of_held (h : Held m e) :
    (Float.Model.pack (.finite s m e hm)).unpack = .finite s m e hm := by
  obtain ⟨hdigits, hlow, hhigh, hfull⟩ := h
  by_cases hall : 2 ^ 52 ≤ m
  · exact unpack_pack_of_full s hm hall hdigits hlow hhigh
  · obtain rfl := hfull.resolve_left hall
    exact unpack_pack_of_least s hm (by omega)

theorem unpack_pack_of_large (h : 972 ≤ e) :
    (Float.Model.pack (.finite s m e hm)).unpack = .infinity s := by
  change UnpackedFloat.unpack _ (UnpackedFloat.pack _ (.finite s m e hm)) = _
  have hbiased : 2 ^ 11 ≤ biased e + 1 := by
    unfold biased
    omega
  rw [pack_finite, if_pos hbiased]
  unfold UnpackedFloat.packedInfinity
  rw [unpack_packComponents]
  rfl

end Pack

/-! ## Cutting off zeros -/

theorem kept_exact {m k : Nat} (h : 2 ^ k ∣ m) : kept m k = ⟨m / 2 ^ k, false, false⟩ := by
  induction k with
  | zero => simp [kept_zero]
  | succ k ih =>
    obtain ⟨n, rfl⟩ := h
    have hdvd : 2 ^ k ∣ 2 ^ (k + 1) * n := ⟨2 * n, by ring⟩
    have hcut : 2 ^ (k + 1) * n / 2 ^ k = 2 * n := by
      rw [Nat.pow_succ, Nat.mul_assoc, Nat.mul_div_cancel_left _ (Nat.two_pow_pos k)]
    rw [kept_succ, ih hdvd, hcut, Nat.mul_div_cancel_left _ (Nat.two_pow_pos (k + 1))]
    simp [ExtendedMantissa.shiftRightOne]

/-- How many of the zeros are cut off that the factor puts behind a mantissa. -/
def zerosCut (m : Nat) (e : Int) : Nat := max m.log2 (-1032 - e).toNat

section Times

variable {m : Nat} {e : Int}

theorem zerosCut_le (h : Held m e) : zerosCut m e ≤ 52 := by
  have hlog : m.log2 ≤ 52 := log2_le_of_lt h.digits
  have hlow := h.low
  unfold zerosCut
  omega

theorem lastDigit_times (hm : 0 < m) :
    lastDigit (m * 2 ^ 52) (e + -42) = e + -42 + zerosCut m e := by
  unfold lastDigit zerosCut
  rw [← Nat.shiftLeft_eq, log2_shiftLeft (by omega)]
  omega

theorem rounded_times (hm : 0 < m) (h : Held m e) :
    rounded (m * 2 ^ 52) (e + -42) = m * 2 ^ (52 - zerosCut m e) := by
  have hcut : (lastDigit (m * 2 ^ 52) (e + -42) - (e + -42)).toNat = zerosCut m e := by
    rw [lastDigit_times hm]
    omega
  have hsplit : m * 2 ^ 52 = 2 ^ zerosCut m e * (m * 2 ^ (52 - zerosCut m e)) := by
    rw [Nat.mul_left_comm, ← Nat.pow_add, Nat.add_sub_cancel' (zerosCut_le h)]
  unfold rounded
  rw [hcut, hsplit, kept_exact (Nat.dvd_mul_right ..),
    Nat.mul_div_cancel_left _ (Nat.two_pow_pos _)]
  rfl

theorem times_lt (h : Held m e) : m * 2 ^ (52 - zerosCut m e) < 2 ^ 53 := by
  have hcut := zerosCut_le h
  have hmost : m < 2 ^ (m.log2 + 1) := Nat.lt_log2_self
  calc m * 2 ^ (52 - zerosCut m e) < 2 ^ (m.log2 + 1) * 2 ^ (52 - zerosCut m e) :=
        Nat.mul_lt_mul_of_pos_right hmost (Nat.two_pow_pos _)
    _ = 2 ^ (m.log2 + 1 + (52 - zerosCut m e)) := (Nat.pow_add ..).symm
    _ ≤ 2 ^ 53 := Nat.pow_le_pow_right (by decide) (by unfold zerosCut at hcut ⊢; omega)

/-- All digits are used again, unless the exponent of the product is the least one. -/
theorem times_full (hm : 0 < m) (h : Held m e) :
    2 ^ 52 ≤ m * 2 ^ (52 - zerosCut m e) ∨ e + -42 + zerosCut m e = -1074 := by
  have hcut := zerosCut_le h
  by_cases hlog : zerosCut m e = m.log2
  · left
    rw [hlog] at hcut ⊢
    calc 2 ^ 52 = 2 ^ m.log2 * 2 ^ (52 - m.log2) := by rw [← Nat.pow_add, Nat.add_sub_cancel' hcut]
      _ ≤ m * 2 ^ (52 - m.log2) := Nat.mul_le_mul_right _ (Nat.log2_self_le (by omega))
  · right
    unfold zerosCut at hlog ⊢
    omega

theorem dyadic_times (h : Held m e) :
    dyadic (m * 2 ^ (52 - zerosCut m e)) (e + -42 + zerosCut m e) = dyadic m e * 1024 := by
  have hcut := zerosCut_le h
  have hexponent : ((52 - zerosCut m e : Nat) : Int) + (e + -42 + zerosCut m e) = e + 10 := by omega
  unfold dyadic
  push_cast
  rw [← zpow_natCast, mul_assoc, mul_assoc, ← zpow_add₀ (by norm_num), hexponent,
    zpow_add₀ (by norm_num)]
  norm_num

/-- Rounding the product by 1024 moves the exponent and the zeros behind the mantissa, and no
digit. -/
theorem round_times (s : Sign) (hm : 0 < m) (h : Held m e) :
    roundWithAccuracy Format.binary64 s (m * 2 ^ 52) (e + -42) .exact =
      .finite s (m * 2 ^ (52 - zerosCut m e)) (e + -42 + zerosCut m e)
        (Nat.mul_pos hm (Nat.two_pow_pos _)) := by
  have hpos : m * 2 ^ (52 - zerosCut m e) ≠ 0 := (Nat.mul_pos hm (Nat.two_pow_pos _)).ne'
  have hlast := lastDigit_times (e := e) hm
  rw [roundWithAccuracy_eq s (by omega)]
  simp only [rounded_times hm h, hlast]
  rw [dif_neg hpos, if_pos (times_lt h)]

/-! ## The product -/

theorem exactOf_round_times (s : Sign) (hm : 0 < m) (h : Held m e) :
    exactOf (Float.Model.pack (roundWithAccuracy Format.binary64 s (m * 2 ^ 52) (e + -42)
      .exact)).unpack = (exactOf (.finite s m e hm)).map (times 1024) := by
  rw [round_times s hm h]
  have hpos := Nat.mul_pos hm (Nat.two_pow_pos (52 - zerosCut m e))
  have hlow : -1074 ≤ e + -42 + zerosCut m e := by
    unfold zerosCut
    omega
  by_cases hhigh : e + -42 + zerosCut m e ≤ 971
  · have hsmall : |dyadic m e * 1024| < 2 ^ 1024 := by
      rw [← dyadic_times h, abs_of_pos (dyadic_pos hpos)]
      exact dyadic_lt_of_high (times_lt h) hhigh
    rw [unpack_pack_of_held s hpos ⟨times_lt h, hlow, hhigh, times_full hm h⟩]
    cases s with
    | positive =>
      change some ↑(dyadic _ _) = some (reached (dyadic m e * 1024))
      rw [reached_of_abs_lt hsmall, dyadic_times h]
    | negative =>
      change some ↑(-dyadic _ _) = some (reached (-dyadic m e * 1024))
      rw [neg_mul, reached_of_abs_lt ((abs_neg _).trans_lt hsmall), dyadic_times h]
  · have hlarge : 2 ^ 1024 ≤ dyadic m e * 1024 := by
      rw [← dyadic_times h]
      exact le_dyadic_of_large ((times_full hm h).resolve_right (by omega)) (by omega)
    rw [unpack_pack_of_large s hpos (by omega)]
    cases s with
    | positive =>
      change some ⊤ = some (reached (dyadic m e * 1024))
      rw [reached_of_le hlarge]
    | negative =>
      change some ⊥ = some (reached (-dyadic m e * 1024))
      rw [neg_mul, reached_neg_of_le hlarge]

end Times

theorem value?_mul_1024 (x : Float) : value? (x * 1024.0) = (value? x).map (times 1024) := by
  have hfactor : (1024.0 : Float).toModel.unpack =
      .finite .positive (2 ^ 52) (-42) (by decide) := by rfl
  change exactOf (Float.Model.pack (UnpackedFloat.mul Format.binary64 x.toModel.unpack
    (1024.0 : Float).toModel.unpack)).unpack = (exactOf x.toModel.unpack).map (times 1024)
  rw [hfactor]
  cases hx : x.toModel.unpack with
  | notANumber => decide
  | infinity s => cases s <;> decide
  | zero s =>
    have hleft : exactOf (Float.Model.pack (.zero (s * .positive))).unpack = some ↑(0 : ℚ) := by
      cases s <;> rfl
    change exactOf (Float.Model.pack (.zero (s * .positive))).unpack =
      some (times 1024 ((0 : ℚ) : WithBotTop ℚ))
    rw [hleft, times_zero]
  | finite s m e hm =>
    have hsign : s * .positive = s := by cases s <;> rfl
    change exactOf (Float.Model.pack (roundWithAccuracy Format.binary64 (s * .positive)
      (m * 2 ^ 52) (e + -42) .exact)).unpack = _
    rw [hsign]
    exact exactOf_round_times s hm (held_of_unpack hx)

end Formwork.Decimal
