import Mathlib
import Formwork.Decimal.Binary
/-!
# How far floats reach

A whole number is rounded to the nearest float, and a number that lies at least half a step beyond
the largest float is rounded to infinity: these are the numbers from `2 ^ 1024 - 2 ^ 970` on, and
they are the only ones that no float is near to. The rounding keeps 53 digits of a number in base
two. It says infinity where the number has more than 1024 digits, or has 1024 of them and the
rounding carries into another one.
-/
namespace Formwork.Decimal

open Float.Model
open Float.Model.UnpackedFloat (ExtendedMantissa Sign roundWithAccuracy shiftToTargetExponent
  shiftToExponent)

/-! ## Keeping digits -/

/-- A whole number with all but its last `k` digits in base two kept, and with the mark of the
digits that are not. -/
def kept (m k : Nat) : ExtendedMantissa := ExtendedMantissa.ofMantissaAndAccuracy m .exact >>> k

theorem kept_zero (m : Nat) : kept m 0 = ⟨m, false, false⟩ := rfl

theorem kept_succ (m k : Nat) : kept m (k + 1) = (kept m k).shiftRightOne := rfl

theorem kept_mantissa (m k : Nat) : (kept m k).mantissa = m / 2 ^ k := by
  induction k with
  | zero => simp [kept_zero]
  | succ k ih =>
    rw [kept_succ]
    simp only [ExtendedMantissa.shiftRightOne]
    rw [ih, Nat.div_div_eq_div_mul, Nat.pow_succ]

/-! The digits that were put on are cut off again, and more. -/

theorem kept_shifted (n j k : Nat) : (kept (n <<< j) (k + j)).mantissa = n / 2 ^ k := by
  rw [kept_mantissa, Nat.shiftLeft_eq, Nat.pow_add, Nat.mul_div_mul_right _ _ (Nat.two_pow_pos j)]

theorem kept_shifted_mantissa (n j k : Nat) :
    (kept (n <<< j) (k + 1 + j)).mantissa = n / 2 ^ k / 2 := by
  rw [kept_shifted, Nat.pow_succ, Nat.div_div_eq_div_mul]

theorem kept_shifted_roundBit (n j k : Nat) :
    (kept (n <<< j) (k + 1 + j)).roundBit = (n / 2 ^ k % 2 != 0) := by
  rw [Nat.add_right_comm, kept_succ, ← kept_shifted n j k]
  rfl

/-- Rounding goes to one of the two neighbours, and not up where the next digit is zero. -/
theorem roundedMantissa_cases (em : ExtendedMantissa) :
    em.roundedMantissa = em.mantissa ∨
      em.roundedMantissa = em.mantissa + 1 ∧ em.roundBit = true := by
  rcases em with ⟨m, round, sticky⟩
  cases round <;> cases sticky <;>
    simp [ExtendedMantissa.roundedMantissa, ExtendedMantissa.accuracy,
      UnpackedFloat.Accuracy.roundToNearestEven]
  omega

theorem roundedMantissa_of_odd {em : ExtendedMantissa} (hbit : em.roundBit = true)
    (hodd : em.mantissa % 2 = 1) : em.roundedMantissa = em.mantissa + 1 := by
  rcases em with ⟨m, round, sticky⟩
  cases sticky <;>
    simp_all [ExtendedMantissa.roundedMantissa, ExtendedMantissa.accuracy,
      UnpackedFloat.Accuracy.roundToNearestEven]

/-! ## Rounding -/

/-- The exponent of the last digit that is kept of a number. -/
def lastDigit (m : Nat) (e : Int) : Int := max (m.log2 + e - 52) (-1074)

theorem targetExponent_eq (m : Nat) (e : Int) :
    Format.binary64.targetExponent (totalExponent m e) = lastDigit m e := by
  simp only [Format.targetExponent, totalExponent, Format.mantissaBits, Format.minExponent,
    lastDigit]
  omega

theorem shiftToTargetExponent_eq (m : Nat) (e : Int) :
    shiftToTargetExponent Format.binary64 m e .exact =
      (kept m (lastDigit m e - e).toNat, e + (lastDigit m e - e).toNat) := by
  unfold shiftToTargetExponent shiftToExponent
  rw [targetExponent_eq]
  rfl

/-- The digits that rounding keeps of a number. -/
def rounded (m : Nat) (e : Int) : Nat := (kept m (lastDigit m e - e).toNat).roundedMantissa

theorem log2_le_of_lt {m k : Nat} (h : m < 2 ^ (k + 1)) : m.log2 ≤ k := by
  by_cases hm : m = 0
  · simp [hm]
  · have := (Nat.log2_lt hm).mpr h
    omega

theorem rounded_le (m : Nat) (e : Int) : rounded m e ≤ 2 ^ 53 := by
  have hround := roundedMantissa_cases (kept m (lastDigit m e - e).toNat)
  rw [kept_mantissa] at hround
  have hlt : m / 2 ^ (lastDigit m e - e).toNat < 2 ^ 53 := by
    apply (Nat.div_lt_iff_lt_mul (Nat.two_pow_pos _)).mpr
    rw [← Nat.pow_add]
    calc m < 2 ^ (m.log2 + 1) := Nat.lt_log2_self
      _ ≤ 2 ^ (53 + (lastDigit m e - e).toNat) :=
        Nat.pow_le_pow_right (by decide) (by unfold lastDigit; omega)
  unfold rounded
  omega

/-- Rounding keeps up to 53 digits; where it carries into another one, the last digit goes. -/
theorem roundWithAccuracy_eq (s : Sign) {m : Nat} {e : Int} (he : e ≤ lastDigit m e) :
    roundWithAccuracy Format.binary64 s m e .exact =
      if h : rounded m e = 0 then .zero s
      else if rounded m e < 2 ^ 53 then
        .finite s (rounded m e) (lastDigit m e) (Nat.pos_of_ne_zero h)
      else .finite s (2 ^ 52) (lastDigit m e + 1) (by decide) := by
  have hlow : -1074 ≤ lastDigit m e := by
    unfold lastDigit
    omega
  have hend : e + ((lastDigit m e - e).toNat : Int) = lastDigit m e := by omega
  -- The number is cut a second time, in case the first cut carried.
  have hagain (k : Nat) (hk : k = (lastDigit (rounded m e) (lastDigit m e) - lastDigit m e).toNat) :
      roundWithAccuracy Format.binary64 s m e .exact =
        if h : rounded m e / 2 ^ k = 0 then .zero s
        else .finite s (rounded m e / 2 ^ k) (lastDigit m e + k) (Nat.pos_of_ne_zero h) := by
    subst hk
    unfold roundWithAccuracy
    rw [shiftToTargetExponent_eq, hend]
    dsimp only
    rw [shiftToTargetExponent_eq]
    simp only [kept_mantissa]
    rfl
  by_cases hsmall : rounded m e < 2 ^ 53
  · have hlog : (rounded m e).log2 ≤ 52 := log2_le_of_lt hsmall
    rw [hagain 0 (by unfold lastDigit at hlow ⊢; omega)]
    simp only [hsmall, ↓reduceIte, Nat.pow_zero, Nat.div_one, Int.natCast_zero, Int.add_zero]
  · have hcarry : rounded m e = 2 ^ 53 := by
      have := rounded_le m e
      omega
    have hlog : (2 ^ 53 : Nat).log2 = 53 := Nat.log2_two_pow
    rw [hagain 1 (by rw [hcarry]; unfold lastDigit at hlow ⊢; omega)]
    simp only [hcarry]
    rfl

theorem roundWithAccuracy_cases (s : Sign) {m : Nat} {e : Int} (he : e ≤ lastDigit m e) :
    roundWithAccuracy Format.binary64 s m e .exact = .zero s ∨
      ∃ m' e' hm', roundWithAccuracy Format.binary64 s m e .exact = .finite s m' e' hm' ∧
        lastDigit m e ≤ e' ∧ e' ≤ lastDigit m e + 1 := by
  rw [roundWithAccuracy_eq s he]
  split
  · exact .inl rfl
  · rename_i hzero
    split
    · exact .inr ⟨_, _, Nat.pos_of_ne_zero hzero, rfl, by omega, by omega⟩
    · exact .inr ⟨_, _, by decide, rfl, by omega, by omega⟩

/-! ## Infinite floats -/

theorem unpack_isInf_iff (b : BitVec Format.binary64.numBits) :
    (UnpackedFloat.unpack Format.binary64 b).isInf = true ↔
      UnpackedFloat.unpackExponent b = -1#11 ∧ UnpackedFloat.unpackMantissa b = 0#52 := by
  unfold UnpackedFloat.unpack
  dsimp only
  split
  · rename_i hexponent
    split
    · rename_i hmantissa
      simpa [UnpackedFloat.isInf] using ⟨hexponent, hmantissa⟩
    · rename_i hmantissa
      simp only [UnpackedFloat.isInf, Bool.false_eq_true, false_iff]
      exact fun h => hmantissa h.2
  · rename_i hexponent
    have hno (f : UnpackedFloat) (h : f.isInf = false) : f.isInf = true ↔
        UnpackedFloat.unpackExponent b = -1#11 ∧ UnpackedFloat.unpackMantissa b = 0#52 := by
      rw [h]
      simpa using fun hb => absurd hb hexponent
    split
    · split
      · exact hno _ rfl
      · exact hno _ rfl
    · exact hno _ rfl

/-- The exponent that a finite float is written down with, in the eleven bits that there are. -/
def biased (e : Int) : Nat := (e + 1023 + 52).toNat

theorem pack_finite (s : Sign) (m : Nat) (e : Int) (hm : 0 < m) :
    UnpackedFloat.pack Format.binary64 (.finite s m e hm) =
      if 2 ^ 11 ≤ biased e + 1 then UnpackedFloat.packedInfinity _ s
      else if m.log2 + 1 = 53 then
        UnpackedFloat.packComponents Format.binary64 s (BitVec.ofNat 11 (biased e)) (BitVec.ofNat 52 m)
      else UnpackedFloat.packComponents Format.binary64 s 0#11 (BitVec.ofNat 52 m) := rfl

theorem isInf_pack_finite_iff (s : Sign) (m : Nat) {e : Int} (hm : 0 < m) :
    (Float.Model.pack (.finite s m e hm)).isInf = true ↔ 972 ≤ e := by
  change (UnpackedFloat.unpack _ (UnpackedFloat.pack _ (.finite s m e hm))).isInf = true ↔ _
  rw [unpack_isInf_iff, pack_finite]
  unfold biased
  split
  · rename_i hlarge
    have : 972 ≤ e := by omega
    simp [UnpackedFloat.packedInfinity, this]
  · rename_i hlarge
    have hsmall : ¬ 972 ≤ e := by omega
    simp only [hsmall, iff_false, not_and]
    intro hexponent
    exfalso
    split at hexponent
    · rw [UnpackedFloat.unpackExponent_packComponents] at hexponent
      have hbits := congrArg BitVec.toNat hexponent
      rw [BitVec.toNat_ofNat, Nat.mod_eq_of_lt (by omega)] at hbits
      change _ = 2047 at hbits
      omega
    · rw [UnpackedFloat.unpackExponent_packComponents] at hexponent
      exact absurd hexponent (by decide)

theorem isInf_pack_zero (s : Sign) : (Float.Model.pack (.zero s)).isInf = false := by
  cases s <;> decide

theorem isInf_round_iff (s : Sign) {m : Nat} {e : Int} (he : e ≤ lastDigit m e) :
    (Float.Model.pack (roundWithAccuracy Format.binary64 s m e .exact)).isInf = true ↔
      0 < rounded m e ∧ 972 ≤ if rounded m e < 2 ^ 53 then lastDigit m e else lastDigit m e + 1 := by
  rw [roundWithAccuracy_eq s he]
  split
  · rename_i hzero
    simp [isInf_pack_zero, hzero]
  · rename_i hzero
    split
    · rw [isInf_pack_finite_iff]
      simp [Nat.pos_of_ne_zero hzero]
    · rw [isInf_pack_finite_iff]
      simp [Nat.pos_of_ne_zero hzero]

theorem unpack_eq_finite {b : BitVec Format.binary64.numBits} {s : Sign} {m : Nat} {e : Int}
    {hm : 0 < m} (h : UnpackedFloat.unpack Format.binary64 b = .finite s m e hm) :
    m < 2 ^ 53 ∧ e = max ((UnpackedFloat.unpackExponent b).toNat : Int) 1 - 1075 ∧
      (UnpackedFloat.unpackExponent b).toNat < 2047 := by
  have hmantissa := (UnpackedFloat.unpackMantissa b).isLt
  have hbits := (UnpackedFloat.unpackExponent b).isLt
  change (UnpackedFloat.unpackMantissa b).toNat < 2 ^ 52 at hmantissa
  change (UnpackedFloat.unpackExponent b).toNat < 2 ^ 11 at hbits
  unfold UnpackedFloat.unpack at h
  dsimp only at h
  split at h
  · split at h <;> cases h
  rename_i hfinite
  have hlt : (UnpackedFloat.unpackExponent b).toNat ≠ 2047 :=
    fun hall => hfinite (BitVec.eq_of_toNat_eq hall)
  split at h
  · rename_i hzero
    split at h
    · cases h
    · cases h
      rw [hzero]
      refine ⟨by omega, by decide, by decide⟩
  · rename_i hnonzero
    have hpos : (UnpackedFloat.unpackExponent b).toNat ≠ 0 :=
      fun h => hnonzero (BitVec.eq_of_toNat_eq h)
    cases h
    refine ⟨(1#1 ++ UnpackedFloat.unpackMantissa b).isLt, ?_, by omega⟩
    change ((UnpackedFloat.unpackExponent b).toNat : Int) - 1075 = _
    omega

theorem exponent_le_of_unpack_pack {s s' : Sign} {m m' : Nat} {e e' : Int} {hm : 0 < m}
    {hm' : 0 < m'} (he : -1074 ≤ e)
    (h : (Float.Model.pack (.finite s m e hm)).unpack = .finite s' m' e' hm') :
    m' < 2 ^ 53 ∧ e' ≤ e := by
  obtain ⟨hmantissa, hexponent, hfinite⟩ := unpack_eq_finite h
  refine ⟨hmantissa, ?_⟩
  change e' = max ((UnpackedFloat.unpackExponent
    (UnpackedFloat.pack Format.binary64 (.finite s m e hm))).toNat : Int) 1 - 1075 at hexponent
  rw [pack_finite] at hexponent
  have hbiased : (biased e : Int) = e + 1075 := by
    unfold biased
    omega
  split at hexponent
  · rename_i hlarge
    change (UnpackedFloat.unpackExponent
      (UnpackedFloat.pack Format.binary64 (.finite s m e hm))).toNat < 2047 at hfinite
    rw [pack_finite, if_pos hlarge] at hfinite
    simp [UnpackedFloat.packedInfinity] at hfinite
  · split at hexponent
    · rw [UnpackedFloat.unpackExponent_packComponents, BitVec.toNat_ofNat] at hexponent
      have := Nat.mod_le (biased e) (2 ^ 11)
      change e' = max ((biased e % 2 ^ 11 : Nat) : Int) 1 - 1075 at hexponent
      omega
    · rw [UnpackedFloat.unpackExponent_packComponents] at hexponent
      change e' = max ((0 : Nat) : Int) 1 - 1075 at hexponent
      omega

theorem isInf_neg (x : Float) : (-x).isInf = x.isInf := by
  change (Float.Model.pack x.toModel.unpack.neg).isInf = x.toModel.unpack.isInf
  cases hx : x.toModel.unpack with
  | notANumber => decide
  | infinity s => cases s <;> decide
  | zero s => exact isInf_pack_zero _
  | finite s m e hm =>
    obtain ⟨-, hexponent, hfinite⟩ := unpack_eq_finite hx
    have hsmall : ¬ (Float.Model.pack (.finite (-s) m e hm)).isInf = true := by
      rw [isInf_pack_finite_iff]
      omega
    exact Bool.not_eq_true _ ▸ hsmall

/-! ## Whole numbers -/

theorem log2_shiftLeft {m : Nat} (hm : m ≠ 0) (k : Nat) : (m <<< k).log2 = m.log2 + k := by
  induction k with
  | zero => simp
  | succ k ih =>
    have hne : m <<< k ≠ 0 := by
      simpa [Nat.shiftLeft_eq] using hm
    rw [Nat.shiftLeft_succ, Nat.log2_two_mul hne, ih, Nat.add_assoc]

theorem round_small {n : Nat} (hn : n ≠ 0) (hlt : n < 2 ^ 53) :
    UnpackedFloat.round Format.binary64 .positive n 0 = .zero .positive ∨
      ∃ m e hm, UnpackedFloat.round Format.binary64 .positive n 0 = .finite .positive m e hm ∧
        -1074 ≤ e ∧ e ≤ 1 := by
  have hlog : n.log2 ≤ 52 := log2_le_of_lt hlt
  have hlast : lastDigit n 0 = n.log2 - 52 := by
    unfold lastDigit
    omega
  have hshifted : lastDigit (n <<< (0 - lastDigit n 0).toNat) (0 - (0 - lastDigit n 0).toNat) =
      lastDigit n 0 := by
    rw [hlast]
    unfold lastDigit
    rw [log2_shiftLeft hn]
    omega
  unfold UnpackedFloat.round UnpackedFloat.decreaseExponent
  dsimp only
  rw [targetExponent_eq]
  rcases roundWithAccuracy_cases .positive (m := n <<< (0 - lastDigit n 0).toNat)
    (e := 0 - (0 - lastDigit n 0).toNat) (by omega) with hzero | ⟨m, e, hm, hfinite, hlow, hhigh⟩
  · exact .inl hzero
  · exact .inr ⟨m, e, hm, hfinite, by omega, by omega⟩

theorem ofScientific_small {n : Nat} (hn : n ≠ 0) (hlt : n < 2 ^ 53) :
    Float.ofScientific n false 0 = Float.ofModel (Float.Model.pack (UnpackedFloat.mul
      Format.binary64 (Float.Model.pack (UnpackedFloat.round Format.binary64 .positive n 0)).unpack
      (.finite .positive (2 ^ 52) (-52) (by decide)))) := by
  have hone : (Float.ofBits 0x3FF0000000000000).toModel.unpack =
      .finite .positive (2 ^ 52) (-52) (by decide) := by rfl
  have hvalue : (UnpackedFloat.ofUInt64 Format.binary64 n.toUInt64) =
      UnpackedFloat.round Format.binary64 .positive n 0 := by
    have hword : n.toUInt64.toNat = n := UInt64.toNat_ofNat_of_lt' (Nat.lt_trans hlt (by decide))
    unfold UnpackedFloat.ofUInt64 UnpackedFloat.ofNat UnpackedFloat.ofInt UnpackedFloat.normalize
    rw [hword, Int.compare_eq_gt.mpr (by omega)]
    rfl
  unfold Float.ofScientific
  rw [dif_pos ⟨hlt, by decide⟩, ← hone, ← hvalue]
  rfl

theorem isInf_mul_one {m : Nat} {e : Int} (hm : 0 < m) (hlow : -1074 ≤ e) (hhigh : e ≤ 1) :
    (Float.Model.pack (UnpackedFloat.mul Format.binary64
      (Float.Model.pack (.finite .positive m e hm)).unpack
      (.finite .positive (2 ^ 52) (-52) (by decide)))).isInf = false := by
  have hfactor : (Float.Model.pack (.finite .positive m e hm)).isInf = false := by
    rw [← Bool.not_eq_true, isInf_pack_finite_iff]
    omega
  cases hread : (Float.Model.pack (.finite .positive m e hm)).unpack with
  | notANumber => decide
  | infinity s =>
    change (Float.Model.pack (.finite .positive m e hm)).unpack.isInf = false at hfactor
    rw [hread] at hfactor
    cases hfactor
  | zero s => exact isInf_pack_zero _
  | finite s m' e' hm' =>
    obtain ⟨hdigits, hexponent⟩ := exponent_le_of_unpack_pack hlow hread
    have hlog : m'.log2 ≤ 52 := log2_le_of_lt hdigits
    have hproduct : lastDigit (m' * 2 ^ 52) (e' + -52) = max (m'.log2 + e' - 52) (-1074) := by
      rw [← Nat.shiftLeft_eq]
      unfold lastDigit
      rw [log2_shiftLeft (by omega)]
      omega
    change (Float.Model.pack (roundWithAccuracy Format.binary64 (s * .positive) (m' * 2 ^ 52)
      (e' + -52) .exact)).isInf = false
    rcases roundWithAccuracy_cases (s * .positive) (m := m' * 2 ^ 52) (e := e' + -52)
      (by omega) with hzero | ⟨m'', e'', hm'', hround, -, hend⟩
    · rw [hzero]
      exact isInf_pack_zero _
    · rw [hround, ← Bool.not_eq_true, isInf_pack_finite_iff]
      omega

theorem isInf_ofScientific_small {n : Nat} (hn : n ≠ 0) (hlt : n < 2 ^ 53) :
    (Float.ofScientific n false 0).isInf = false := by
  rw [ofScientific_small hn hlt]
  change (Float.Model.pack _).isInf = false
  rcases round_small hn hlt with hzero | ⟨m, e, hm, hfinite, hlow, hhigh⟩
  · rw [hzero]
    decide
  · rw [hfinite]
    exact isInf_mul_one hm hlow hhigh

theorem ofScientific_large {n : Nat} (hn : 2 ^ 53 ≤ n) :
    Float.ofScientific n false 0 = Float.ofModel (Float.Model.pack
      (roundWithAccuracy Format.binary64 .positive (n <<< 53) (-53) .exact)) := by
  have hne : n ≠ 0 := by omega
  have hproduct : UnpackedFloat.ofScientific Format.binary64 n 0 =
      roundWithAccuracy Format.binary64 .positive (n <<< 53 * 10 ^ 0) (-53 + 0) .exact := by
    unfold UnpackedFloat.ofScientific
    rw [dif_neg hne, if_neg (by decide), if_neg (by simp), if_pos (by decide)]
    unfold UnpackedFloat.mul
    rfl
  unfold Float.ofScientific
  rw [dif_neg (by omega)]
  simp only [Bool.false_eq_true, ↓reduceIte]
  unfold Float.Model.ofScientific
  rw [show Int.ofNat 0 = 0 from rfl, hproduct, Nat.pow_zero, Nat.mul_one, Int.add_zero]

section Large

variable {n : Nat}

theorem lastDigit_shifted (hn : 2 ^ 53 ≤ n) : lastDigit (n <<< 53) (-53) = n.log2 - 52 := by
  have hlog : 53 ≤ n.log2 := (Nat.le_log2 (by omega)).mpr hn
  unfold lastDigit
  rw [log2_shiftLeft (by omega)]
  omega

theorem rounded_shifted (hn : 2 ^ 53 ≤ n) :
    rounded (n <<< 53) (-53) = (kept (n <<< 53) (n.log2 + 1)).roundedMantissa := by
  unfold rounded
  rw [lastDigit_shifted hn]
  congr 2
  omega

theorem rounded_shifted_pos (hn : 2 ^ 53 ≤ n) : 0 < rounded (n <<< 53) (-53) := by
  have hround := roundedMantissa_cases (kept (n <<< 53) (n.log2 + 1))
  have hmantissa : 0 < (kept (n <<< 53) (n.log2 + 1)).mantissa := by
    rw [kept_mantissa, Nat.shiftLeft_eq]
    apply Nat.div_pos _ (Nat.two_pow_pos _)
    have hself := Nat.log2_self_le (n := n) (by omega)
    rw [Nat.pow_succ]
    exact Nat.mul_le_mul hself (by decide)
  rw [rounded_shifted hn]
  omega

/-- Of a number with 1024 digits 53 are kept, and rounding carries if all of them and the next one
are ones. -/
theorem rounded_lt_iff (hlog : n.log2 = 1023) :
    rounded (n <<< 53) (-53) < 2 ^ 53 ↔ n < 2 ^ 1024 - 2 ^ 970 := by
  have hne : n ≠ 0 := by
    rintro rfl
    simp at hlog
  obtain ⟨hlow, hhigh⟩ := (Nat.log2_eq_iff hne).mp hlog
  have hn : 2 ^ 53 ≤ n := Nat.le_trans (Nat.pow_le_pow_right (by decide) (by decide)) hlow
  have hround := roundedMantissa_cases (kept (n <<< 53) 1024)
  have hodd := @roundedMantissa_of_odd (kept (n <<< 53) 1024)
  have hmantissa : (kept (n <<< 53) 1024).mantissa = n / 2 ^ 970 / 2 :=
    kept_shifted_mantissa n 53 970
  have hbit : (kept (n <<< 53) 1024).roundBit = (n / 2 ^ 970 % 2 != 0) :=
    kept_shifted_roundBit n 53 970
  have hdigits : n / 2 ^ 970 < 2 ^ 54 := by omega
  have hbound : n < 2 ^ 1024 - 2 ^ 970 ↔ n / 2 ^ 970 < 2 ^ 54 - 1 := by omega
  rw [rounded_shifted hn, hlog, show 1023 + 1 = 1024 from rfl, hbound]
  rw [hmantissa, hbit] at hround hodd
  generalize n / 2 ^ 970 = q at *
  constructor
  · intro h
    by_contra hlarge
    have hall : q = 2 ^ 54 - 1 := by omega
    have := hodd (by simp [hall]) (by omega)
    omega
  · intro h
    rcases hround with hround | ⟨hround, hone⟩
    · omega
    · have : q % 2 = 1 := by
        have : q % 2 ≠ 0 := by simpa using hone
        omega
      omega

/-- From 54 digits on, a number is infinite if it has more than 1024 of them, or if it has as many
and rounding carries. -/
theorem isInf_ofScientific_large (hn : 2 ^ 53 ≤ n) :
    (Float.ofScientific n false 0).isInf = true ↔ 2 ^ 1024 - 2 ^ 970 ≤ n := by
  have hne : n ≠ 0 := by omega
  have hexponent : (Float.ofScientific n false 0).isInf = true ↔
      972 ≤ if rounded (n <<< 53) (-53) < 2 ^ 53 then (n.log2 : Int) - 52 else n.log2 - 52 + 1 := by
    have hlog : 53 ≤ n.log2 := (Nat.le_log2 hne).mpr hn
    have hlast := lastDigit_shifted hn
    rw [ofScientific_large hn]
    change (Float.Model.pack _).isInf = true ↔ _
    rw [isInf_round_iff _ (by omega), hlast]
    simp only [rounded_shifted_pos hn, true_and]
  rw [hexponent]
  rcases Nat.lt_trichotomy n.log2 1023 with hless | hequal | hmore
  · have hlt : n < 2 ^ 1023 := by
      rw [← Nat.log2_lt hne]
      exact hless
    have hsmall : ¬ 2 ^ 1024 - 2 ^ 970 ≤ n := by omega
    simp only [hsmall, iff_false]
    split <;> omega
  · rw [← Nat.not_lt, ← rounded_lt_iff hequal, hequal]
    split <;> simp_all
  · have hge : 2 ^ 1024 ≤ n := by
      rw [← Nat.le_log2 hne]
      exact hmore
    have hlarge : 2 ^ 1024 - 2 ^ 970 ≤ n := Nat.le_trans (Nat.sub_le _ _) hge
    simp only [hlarge, iff_true]
    split <;> omega

end Large

/-- A whole number that no float is near to is at least half a step beyond the largest float. -/
theorem ofInt?_eq_none_iff (n : Int) : ofInt? n = none ↔ 2 ^ 1024 - 2 ^ 970 ≤ n.natAbs := by
  have hsign (magnitude : Float) :
      (if decide (n < 0) = true then -magnitude else magnitude).isInf = magnitude.isInf := by
    split
    · exact isInf_neg magnitude
    · rfl
  have hinf : ofInt? n = none ↔ (nearest (decide (n < 0)) n.natAbs 0).isInf = true := by
    unfold ofInt?
    dsimp only
    split
    · simp [*]
    · simp [*]
  rw [hinf]
  unfold nearest
  dsimp only
  rw [hsign]
  by_cases hzero : n.natAbs = 0
  · rw [if_pos (.inl hzero), hzero]
    decide +kernel
  by_cases hlong : 400 < digitCount n.natAbs
  · have hpower : 10 ^ 400 ≤ n.natAbs := by
      by_contra hlt
      have hshort : digitCount n.natAbs ≤ 400 :=
        (Nat.length_toDigits_le_iff (by decide) (by decide)).mpr (by omega)
      omega
    have hinfinite : (Float.ofBits 0x7FF0000000000000).isInf = true := by decide
    rw [if_neg (by omega), if_pos (by omega)]
    exact iff_of_true hinfinite (by omega)
  rw [if_neg (by omega), if_neg (by omega)]
  change (Float.ofScientific n.natAbs false 0).isInf = true ↔ _
  by_cases hsmall : n.natAbs < 2 ^ 53
  · rw [isInf_ofScientific_small hzero hsmall]
    exact iff_of_false (by decide) (by omega)
  · exact isInf_ofScientific_large (Nat.not_lt.mp hsmall)

end Formwork.Decimal
