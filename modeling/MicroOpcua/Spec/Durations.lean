import MicroOpcua.Core.Script
import MicroOpcua.Lib.BitPattern

namespace MicroOpcua

open Lib.BitPattern

variable {b : Build} {bits : UInt64}

section Value

def exponentField (bits : UInt64) : Nat := bits.toNat / 2 ^ 52 % 2 ^ 11

def fractionField (bits : UInt64) : Nat := bits.toNat % 2 ^ 52

def signBit (bits : UInt64) : Bool := 2 ^ 63 ≤ bits.toNat

def doubleScale : Nat := 2 ^ 1074

theorem doubleScale_pos : 0 < doubleScale := by
  unfold doubleScale
  positivity

def doubleMagnitude (bits : UInt64) : ℚ :=
  if exponentField bits = 0 then fractionField bits * (2 : ℚ) ^ (-1074 : Int)
  else (2 ^ 52 + fractionField bits : Nat) * (2 : ℚ) ^ ((exponentField bits : Int) - 1075)

/-- The whole part of a pattern, clamped: a set sign gives the least value, an infinity or a NaN the
greatest. -/
def clampedFloor (lo hi : Nat) (bits : UInt64) : Nat :=
  if signBit bits then lo else if exponentField bits = 2047 then
    hi else max lo (min ⌊doubleMagnitude bits⌋₊ hi)

theorem exponentField_eq (h : signBit bits = false) : exponentField bits = bits.toNat / 2 ^ 52 := by
  have hlt : bits.toNat < 2 ^ 63 := Nat.not_le.mp (of_decide_eq_false h)
  exact Nat.mod_eq_of_lt (by omega)

theorem doubleMagnitude_eq (h : signBit bits = false) :
    doubleMagnitude bits = (units 52 bits.toNat : ℚ) / doubleScale := by
  have htwo : (2 : ℚ) ≠ 0 := two_ne_zero
  rw [doubleMagnitude, exponentField_eq h, fractionField, units, doubleScale]
  split
  · rw [zpow_neg, ← div_eq_mul_inv, Nat.cast_pow, ← zpow_natCast]
    rfl
  · rename_i hnormal
    obtain ⟨k, hk⟩ : ∃ k, bits.toNat / 2 ^ 52 = k + 1 := ⟨bits.toNat / 2 ^ 52 - 1, by omega⟩
    have hpower : ((k + 1 : Nat) : Int) - 1075 = (k : Int) - (1074 : Nat) := by omega
    rw [hk, hpower, zpow_sub₀ htwo, zpow_natCast, zpow_natCast, Nat.add_sub_cancel,
      Nat.cast_mul, Nat.cast_pow, Nat.cast_pow, mul_div_assoc]
    rfl

theorem floor_doubleMagnitude (h : signBit bits = false) :
    ⌊doubleMagnitude bits⌋₊ = units 52 bits.toNat / doubleScale := by
  rw [doubleMagnitude_eq h, Nat.floor_div_eq_div]

end Value

section Shift

theorem exponent_toNat (bits : UInt64) :
    (((bits >>> 52) &&& 0x7FF).toUInt32).toNat = exponentField bits := by
  have hshift : (bits >>> 52).toNat = bits.toNat / 2 ^ 52 := by
    rw [UInt64.toNat_shiftRight, Nat.shiftRight_eq_div_pow]
    rfl
  have hmask : ((bits >>> 52) &&& 0x7FF).toNat = exponentField bits := by
    rw [UInt64.toNat_and, hshift]
    exact Nat.and_two_pow_sub_one_eq_mod _ 11
  rw [UInt64.toNat_toUInt32, hmask]
  exact Nat.mod_eq_of_lt (Nat.lt_trans (Nat.mod_lt _ (by decide)) (by decide))

theorem mantissa_toNat (bits : UInt64) :
    (((1 : UInt64) <<< (52 : UInt64)) ||| (bits &&& 0x000FFFFFFFFFFFFF)).toNat =
      2 ^ 52 + fractionField bits := by
  have hmask : (bits &&& 0x000FFFFFFFFFFFFF).toNat = fractionField bits := by
    rw [UInt64.toNat_and]
    exact Nat.and_two_pow_sub_one_eq_mod _ 52
  have hlt : fractionField bits < 2 ^ 52 := Nat.mod_lt _ (by decide)
  have hlead : ((1 : UInt64) <<< (52 : UInt64)).toNat = 2 ^ 52 * 1 := by decide
  rw [UInt64.toNat_or, hmask, hlead, ← Nat.two_pow_add_eq_or_of_lt hlt, Nat.mul_one]

theorem durationBitsToMs_toNat (hlow : 1023 ≤ exponentField bits) (hhigh : exponentField bits < 1055) :
    (durationBitsToMs bits).toNat = (2 ^ 52 + fractionField bits) / 2 ^ (1075 - exponentField bits) := by
  have hexponent := exponent_toNat bits
  have hmantissa := mantissa_toNat bits
  have hfraction : fractionField bits < 2 ^ 52 := Nat.mod_lt _ (by decide)
  simp only [durationBitsToMs]
  generalize ((bits >>> 52) &&& 0x7FF).toUInt32 = exponent at hexponent
  generalize ((1 : UInt64) <<< (52 : UInt64)) ||| (bits &&& 0x000FFFFFFFFFFFFF) = mantissa at hmantissa
  have hunbiased : (exponent - 1023).toNat = exponentField bits - 1023 := by
    rw [UInt32.toNat_sub_of_le _ _ (UInt32.le_iff_toNat_le.mpr (by rw [hexponent]; exact hlow)),
      hexponent]
    rfl
  have hsmall : ¬ exponent - 1023 ≥ 52 := by
    rw [ge_iff_le, UInt32.le_iff_toNat_le, hunbiased]
    change ¬ 52 ≤ _
    omega
  have hshift : (52 - (exponent - 1023)).toUInt64.toNat % 64 = 1075 - exponentField bits := by
    rw [UInt32.toNat_toUInt64, UInt32.toNat_sub_of_le _ _ (UInt32.le_of_lt (UInt32.not_le.mp hsmall)),
      hunbiased]
    change (52 - _) % 64 = _
    omega
  rw [if_neg hsmall, UInt64.toNat_toUInt32, UInt64.toNat_shiftRight, hshift, hmantissa,
    Nat.shiftRight_eq_div_pow]
  apply Nat.mod_eq_of_lt
  rw [Nat.div_lt_iff_lt_mul (Nat.two_pow_pos _), ← pow_add]
  calc 2 ^ 52 + fractionField bits < 2 ^ 53 := by omega
    _ ≤ 2 ^ (32 + (1075 - exponentField bits)) := Nat.pow_le_pow_right (by decide) (by omega)

theorem sign_iff (bits : UInt64) : bits &&& 0x8000000000000000 ≠ 0 ↔ signBit bits = true := by
  have hlt := bits.toNat_lt
  have hand : (bits &&& 0x8000000000000000).toNat = (bits.toNat.testBit 63).toNat * 2 ^ 63 := by
    rw [UInt64.toNat_and]
    exact Nat.and_two_pow _ 63
  have htest : bits.toNat.testBit 63 = signBit bits := by
    rw [Nat.testBit_eq_decide_div_mod_eq, signBit]
    apply decide_eq_decide.mpr
    omega
  rw [ne_eq, ← UInt64.toNat_inj, hand, htest]
  cases signBit bits
  · simp
  · simp

end Shift

section Clamp

variable {lo hi : Nat} {loBits hiBits : UInt64}

theorem durationBitsToMs_floor (hsign : signBit bits = false) (hlow : 1023 * 2 ^ 52 ≤ bits.toNat)
    (hhigh : bits.toNat < 1055 * 2 ^ 52) :
    (durationBitsToMs bits).toNat = units 52 bits.toNat / doubleScale := by
  have hexponent := exponentField_eq hsign
  have hbounds : 1023 ≤ bits.toNat / 2 ^ 52 ∧ bits.toNat / 2 ^ 52 < 1055 := by omega
  have hfields : bits.toNat = bits.toNat / 2 ^ 52 * 2 ^ 52 + fractionField bits :=
    (Nat.div_add_mod' _ _).symm
  have hfraction : fractionField bits < 2 ^ 52 := Nat.mod_lt _ (by decide)
  rw [durationBitsToMs_toNat (hexponent ▸ hbounds.1) (hexponent ▸ hbounds.2), hexponent]
  generalize bits.toNat / 2 ^ 52 = e at hfields hbounds
  rw [hfields, doubleScale, units_div (by omega) hfraction (by omega)]

theorem clampedFloor_eq (hlo : units 52 loBits.toNat = lo * doubleScale)
    (hhi : units 52 hiBits.toNat = hi * doubleScale) (hle : lo ≤ hi)
    (hlow : 1023 * 2 ^ 52 ≤ loBits.toNat) (hhigh : hiBits.toNat < 1055 * 2 ^ 52)
    (hbits : loBits ≤ hiBits) (bits : UInt64) :
    clampedFloor lo hi bits =
      if bits &&& 0x8000000000000000 ≠ 0 ∨ bits < loBits then lo
      else if bits > hiBits then hi
      else (durationBitsToMs bits).toNat := by
  have hmono := units_strictMono 52
  simp only [sign_iff, clampedFloor]
  cases hsign : signBit bits with
  | true => simp only [if_true, true_or]
  | false =>
    have hexponent := exponentField_eq hsign
    simp only [Bool.false_eq_true, if_false, false_or, floor_doubleMagnitude hsign, gt_iff_lt,
      UInt64.lt_iff_toNat_lt]
    rw [UInt64.le_iff_toNat_le] at hbits
    by_cases hbelow : bits.toNat < loBits.toNat
    · have hfloor : units 52 bits.toNat / doubleScale < lo := by
        rw [Nat.div_lt_iff_lt_mul doubleScale_pos, ← hlo]
        exact hmono hbelow
      rw [if_pos hbelow, if_neg (by omega)]
      omega
    · rw [if_neg hbelow]
      by_cases habove : hiBits.toNat < bits.toNat
      · rw [if_pos habove]
        split
        · rfl
        · have hfloor : hi ≤ units 52 bits.toNat / doubleScale := by
            rw [Nat.le_div_iff_mul_le doubleScale_pos, ← hhi]
            exact (hmono habove).le
          omega
      · have hfloor : lo ≤ units 52 bits.toNat / doubleScale := by
          rw [Nat.le_div_iff_mul_le doubleScale_pos, ← hlo]
          exact hmono.monotone (Nat.not_lt.mp hbelow)
        have hfloor' : units 52 bits.toNat / doubleScale ≤ hi := by
          rw [← Nat.mul_div_cancel hi doubleScale_pos, ← hhi]
          exact Nat.div_le_div_right (hmono.monotone (Nat.not_lt.mp habove))
        rw [if_neg habove, if_neg (by omega), durationBitsToMs_floor hsign (by omega) (by omega)]
        omega

theorem units_whole {e f k m : Nat} (he : 0 < e) (hf : f < 2 ^ 52) (hk : k + (e - 1) = 1074)
    (hm : 2 ^ 52 + f = m * 2 ^ k) : units 52 (e * 2 ^ 52 + f) = m * doubleScale := by
  rw [units_of_fields he hf, hm, mul_assoc, ← pow_add, hk, doubleScale]

theorem sessionTimeout_eq (bits : UInt64) :
    (durationBitsToMs (clampTimeoutBits bits)).toNat = clampedFloor 10000 3600000 bits := by
  have hlo : units 52 sessionTimeoutMinBits.toNat = 10000 * doubleScale :=
    units_whole (e := 1036) (f := 0x3880000000000) (k := 39) (m := 10000) (by decide) (by decide)
      (by decide) (by decide)
  have hhi : units 52 sessionTimeoutMaxBits.toNat = 3600000 * doubleScale :=
    units_whole (e := 1044) (f := 0xb774000000000) (k := 31) (m := 3600000) (by decide) (by decide)
      (by decide) (by decide)
  rw [clampedFloor_eq hlo hhi (by decide) (by decide) (by decide) (by decide), clampTimeoutBits]
  by_cases hsign : bits &&& 0x8000000000000000 ≠ 0
  · rw [if_pos hsign, if_pos (.inl hsign)]
    decide
  · by_cases hbelow : bits < sessionTimeoutMinBits
    · rw [if_neg hsign, if_pos hbelow, if_pos (.inr hbelow)]
      decide
    · rw [if_neg hsign, if_neg hbelow, if_neg (not_or.mpr ⟨hsign, hbelow⟩)]
      split
      · decide
      · rfl

theorem publishingInterval_eq (hmin : b.minPublishingIntervalMs = 50)
    (hmax : b.maxPublishingIntervalMs = 60000) (bits : UInt64) :
    (publishingIntervalBitsToMs b bits).toNat = clampedFloor 50 60000 bits := by
  have hlo : units 52 publishingIntervalMinBits.toNat = 50 * doubleScale :=
    units_whole (e := 1028) (f := 0x9000000000000) (k := 47) (m := 50) (by decide) (by decide)
      (by decide) (by decide)
  have hhi : units 52 publishingIntervalMaxBits.toNat = 60000 * doubleScale :=
    units_whole (e := 1038) (f := 0xd4c0000000000) (k := 37) (m := 60000) (by decide) (by decide)
      (by decide) (by decide)
  rw [clampedFloor_eq hlo hhi (by decide) (by decide) (by decide) (by decide),
    publishingIntervalBitsToMs, hmin, hmax]
  split
  · rfl
  · split
    · rfl
    · rfl

end Clamp

section Encode

def leadingBit (value exponent : UInt32) : UInt32 :=
  if value >>> 1 ≠ 0 then leadingBit (value >>> 1) (exponent + 1) else exponent
termination_by value.toNat
decreasing_by
  rename_i h
  have hhalf : (value >>> 1).toNat = value.toNat / 2 := by
    rw [UInt32.toNat_shiftRight, Nat.shiftRight_eq_div_pow]
    rfl
  have hpos : (value >>> 1).toNat ≠ 0 := fun hzero => h (UInt32.toNat_inj.mp hzero)
  omega

theorem log2_lt (m : UInt32) : m.toNat.log2 < 32 := by
  by_cases hzero : m.toNat = 0
  · rw [hzero]
    decide
  · exact (Nat.log2_lt hzero).mpr m.toNat_lt

theorem toNat_log2 (m : UInt32) : m.log2.toNat = m.toNat.log2 := rfl

theorem leadingBit_eq (value exponent : UInt32) : leadingBit value exponent = exponent + value.log2 := by
  have hhalf (value : UInt32) : (value >>> 1).toNat = value.toNat / 2 := by
    rw [UInt32.toNat_shiftRight, Nat.shiftRight_eq_div_pow]
    rfl
  induction value, exponent using leadingBit.induct with
  | case1 value exponent hmore ih =>
    have hge : 2 ≤ value.toNat := by
      have hpos : (value >>> 1).toNat ≠ 0 := fun hzero => hmore (UInt32.toNat_inj.mp hzero)
      rw [hhalf] at hpos
      omega
    have hlog : ((1 : UInt32) + (value >>> 1).log2).toNat = value.log2.toNat := by
      have hlt := log2_lt (value >>> 1)
      rw [UInt32.toNat_add, toNat_log2, toNat_log2, Nat.log2_def value.toNat,
        if_pos hge, ← hhalf, Nat.add_comm]
      exact Nat.mod_eq_of_lt (Nat.lt_of_le_of_lt hlt (by decide))
    rw [leadingBit, if_pos hmore, ih, UInt32.add_assoc, UInt32.toNat_inj.mp hlog]
  | case2 value exponent hlast =>
    have hlt : ¬ 2 ≤ value.toNat := by
      have hzero : (value >>> 1).toNat = 0 := congrArg UInt32.toNat (not_not.mp hlast)
      rw [hhalf] at hzero
      omega
    have hlog : value.log2.toNat = (0 : UInt32).toNat := by
      rw [toNat_log2, Nat.log2_def, if_neg hlt]
      rfl
    rw [leadingBit, if_neg hlast, UInt32.toNat_inj.mp hlog, UInt32.add_zero]

variable {m : UInt32}

theorem fraction_lt (hm : m ≠ 0) :
    2 ^ m.toNat.log2 ≤ m.toNat ∧ (m.toNat - 2 ^ m.toNat.log2) * 2 ^ (52 - m.toNat.log2) < 2 ^ 52 := by
  have hpos : m.toNat ≠ 0 := fun hzero => hm (UInt32.toNat_inj.mp hzero)
  have hself := Nat.log2_self_le hpos
  have hnext : m.toNat < 2 ^ (m.toNat.log2 + 1) := Nat.lt_log2_self
  have hlt := log2_lt m
  refine ⟨hself, ?_⟩
  generalize m.toNat.log2 = e at *
  have hsplit : 2 ^ 52 = 2 ^ e * 2 ^ (52 - e) := by
    rw [← pow_add]
    congr 1
    omega
  rw [pow_succ] at hnext
  rw [hsplit]
  exact Nat.mul_lt_mul_of_pos_right (by omega) (Nat.two_pow_pos _)

theorem publishingIntervalMsToBits_toNat (hm : m ≠ 0) : (publishingIntervalMsToBits m).toNat =
      (m.toNat.log2 + 1023) * 2 ^ 52 + (m.toNat - 2 ^ m.toNat.log2) * 2 ^ (52 - m.toNat.log2) := by
  obtain ⟨hself, hfraction⟩ := fraction_lt hm
  have hlt := log2_lt m
  have hexponent := toNat_log2 m
  simp only [publishingIntervalMsToBits]
  generalize m.log2 = exponent at hexponent
  generalize m.toNat.log2 = e at *
  have hlead : ((1 : UInt64) <<< exponent.toUInt64).toNat = 2 ^ e := by
    rw [UInt64.toNat_shiftLeft, UInt32.toNat_toUInt64, hexponent, Nat.shiftLeft_eq,
      Nat.mod_eq_of_lt (by omega : e < 64)]
    rw [Nat.mod_eq_of_lt]
    · exact Nat.one_mul _
    · exact (Nat.one_mul (2 ^ e)).symm ▸ Nat.pow_lt_pow_right (by decide) (by omega)
  have hdiff : (m.toUInt64 - (1 : UInt64) <<< exponent.toUInt64).toNat = m.toNat - 2 ^ e := by
    rw [UInt64.toNat_sub_of_le, hlead, UInt32.toNat_toUInt64]
    rw [UInt64.le_iff_toNat_le, hlead, UInt32.toNat_toUInt64]
    exact hself
  have hshift : (52 - exponent).toUInt64.toNat = 52 - e := by
    rw [UInt32.toNat_toUInt64, UInt32.toNat_sub_of_le, hexponent]
    · rfl
    · rw [UInt32.le_iff_toNat_le, hexponent]
      change e ≤ 52
      omega
  have hlow : ((m.toUInt64 - (1 : UInt64) <<< exponent.toUInt64) <<< (52 - exponent).toUInt64).toNat =
      (m.toNat - 2 ^ e) * 2 ^ (52 - e) := by
    rw [UInt64.toNat_shiftLeft, hdiff, hshift, Nat.shiftLeft_eq,
      Nat.mod_eq_of_lt (by omega : 52 - e < 64)]
    exact Nat.mod_eq_of_lt (Nat.lt_trans hfraction (by decide))
  have hhigh : ((exponent + 1023).toUInt64 <<< (52 : UInt64)).toNat = 2 ^ 52 * (e + 1023) := by
    have hsum : (exponent + 1023).toNat = e + 1023 := by
      rw [UInt32.toNat_add, hexponent]
      change (e + 1023) % 2 ^ 32 = e + 1023
      omega
    rw [UInt64.toNat_shiftLeft, UInt32.toNat_toUInt64, hsum, Nat.shiftLeft_eq]
    change (e + 1023) * 2 ^ 52 % 2 ^ 64 = _
    omega
  rw [UInt64.toNat_or, hhigh, hlow, ← Nat.two_pow_add_eq_or_of_lt hfraction, Nat.mul_comm (2 ^ 52)]

theorem publishingIntervalMsToBits_units (hm : m ≠ 0) :
    units 52 (publishingIntervalMsToBits m).toNat = m.toNat * doubleScale := by
  obtain ⟨hself, hfraction⟩ := fraction_lt hm
  have hlt := log2_lt m
  rw [publishingIntervalMsToBits_toNat hm]
  generalize m.toNat.log2 = e at *
  apply units_whole (k := 52 - e) (by omega) hfraction (by omega)
  have hsplit : 2 ^ 52 = 2 ^ e * 2 ^ (52 - e) := by
    rw [← pow_add]
    congr 1
    omega
  rw [hsplit, ← Nat.add_mul, Nat.add_sub_cancel' hself]

theorem publishingIntervalMsToBits_sign (hm : m ≠ 0) :
    signBit (publishingIntervalMsToBits m) = false := by
  obtain ⟨-, hfraction⟩ := fraction_lt hm
  have hlt := log2_lt m
  apply decide_eq_false
  rw [publishingIntervalMsToBits_toNat hm]
  omega

theorem publishingIntervalMsToBits_exponent (hm : m ≠ 0) :
    exponentField (publishingIntervalMsToBits m) = m.toNat.log2 + 1023 := by
  obtain ⟨-, hfraction⟩ := fraction_lt hm
  have hlt := log2_lt m
  rw [exponentField_eq (publishingIntervalMsToBits_sign hm), publishingIntervalMsToBits_toNat hm]
  omega

theorem publishingIntervalMsToBits_value (hm : m ≠ 0) :
    doubleMagnitude (publishingIntervalMsToBits m) = m.toNat := by
  have hscale : (doubleScale : ℚ) ≠ 0 := Nat.cast_ne_zero.mpr doubleScale_pos.ne'
  rw [doubleMagnitude_eq (publishingIntervalMsToBits_sign hm), publishingIntervalMsToBits_units hm,
    Nat.cast_mul, mul_div_cancel_right₀ _ hscale]

def Denotes (bits : UInt64) (n : Nat) : Prop :=
  signBit bits = false ∧ exponentField bits ≠ 2047 ∧ doubleMagnitude bits = n

theorem publishingIntervalMsToBits_denotes (m : UInt32) :
    Denotes (publishingIntervalMsToBits m) m.toNat ↔ m ≠ 0 := by
  constructor
  · rintro ⟨hsign, -, -⟩ rfl
    exact absurd hsign (by decide)
  · intro hm
    have hlt := log2_lt m
    refine ⟨publishingIntervalMsToBits_sign hm, ?_, publishingIntervalMsToBits_value hm⟩
    rw [publishingIntervalMsToBits_exponent hm]
    omega

end Encode

section Shifts

/-- The shifts `duration_bits_to_ms` makes of this pattern are by less than the width of its operand. -/
def ShiftsInRange (bits : UInt64) : Prop :=
  let unbiased := ((bits >>> 52) &&& 0x7FF).toUInt32 - 1023
  (unbiased ≥ 52 → (unbiased - 52).toNat < 64) ∧ (¬ unbiased ≥ 52 → (52 - unbiased).toNat < 64)

theorem shiftsInRange {loBits hiBits : UInt64} (hlow : 1023 * 2 ^ 52 ≤ loBits.toNat)
    (hhigh : hiBits.toNat < 1055 * 2 ^ 52) (hlo : ¬ bits < loBits) (hhi : ¬ bits > hiBits) :
    ShiftsInRange bits := by
  have hexponent := exponent_toNat bits
  rw [UInt64.lt_iff_toNat_lt] at hlo
  rw [gt_iff_lt, UInt64.lt_iff_toNat_lt] at hhi
  have hfield : exponentField bits = bits.toNat / 2 ^ 52 := Nat.mod_eq_of_lt (by omega)
  simp only [ShiftsInRange]
  generalize ((bits >>> 52) &&& 0x7FF).toUInt32 = exponent at hexponent
  have hunbiased : (exponent - 1023).toNat = exponentField bits - 1023 := by
    have hle : (1023 : UInt32) ≤ exponent := by
      rw [UInt32.le_iff_toNat_le, hexponent]
      change 1023 ≤ _
      omega
    rw [UInt32.toNat_sub_of_le _ _ hle, hexponent]
    rfl
  have hle : exponent - 1023 ≤ 52 := by
    rw [UInt32.le_iff_toNat_le, hunbiased]
    change _ ≤ 52
    omega
  refine ⟨fun hlarge => ?_, fun _ => ?_⟩
  · rw [UInt32.toNat_sub_of_le _ _ hlarge, hunbiased]
    omega
  · rw [UInt32.toNat_sub_of_le _ _ hle]
    exact Nat.lt_of_le_of_lt (Nat.sub_le _ _) (by decide)

theorem clampTimeoutBits_shifts (bits : UInt64) : ShiftsInRange (clampTimeoutBits bits) := by
  have hinside :
      ¬ clampTimeoutBits bits < sessionTimeoutMinBits ∧
      ¬ clampTimeoutBits bits > sessionTimeoutMaxBits := by
    unfold clampTimeoutBits
    split
    · decide
    · split
      · decide
      · rename_i hbelow
        split
        · decide
        · rename_i habove
          exact ⟨hbelow, habove⟩
  exact shiftsInRange (by decide) (by decide) hinside.1 hinside.2

end Shifts

/-- The conversions between a Duration and milliseconds, where the bounds in milliseconds are those of
the patterns. -/
theorem durations_are_exact (hmin : b.minPublishingIntervalMs = 50)
    (hmax : b.maxPublishingIntervalMs = 60000) :
    (∀ bits, (durationBitsToMs (clampTimeoutBits bits)).toNat = clampedFloor 10000 3600000 bits ∧
      ShiftsInRange (clampTimeoutBits bits)) ∧
    (∀ bits, (publishingIntervalBitsToMs b bits).toNat = clampedFloor 50 60000 bits ∧
      (¬ (bits &&& 0x8000000000000000 ≠ 0 ∨ bits < publishingIntervalMinBits) →
        ¬ bits > publishingIntervalMaxBits → ShiftsInRange bits)) ∧ ∀ m : UInt32, 50 ≤ m → m ≤ 60000 →
      (leadingBit m 0 = m.log2 ∧ m.log2.toNat < 64 ∧ (52 - m.log2).toNat < 64) ∧
      Denotes (publishingIntervalMsToBits m) m.toNat ∧
      publishingIntervalBitsToMs b (publishingIntervalMsToBits m) = m := by
  have hpos {m : UInt32} (h : 50 ≤ m) : m ≠ 0 := by
    rintro rfl
    exact absurd h (by decide)
  refine ⟨fun bits => ⟨sessionTimeout_eq bits, clampTimeoutBits_shifts bits⟩, fun bits =>
    ⟨?_, fun hlow hhigh => ?_⟩, fun m hlow hhigh => ⟨?_, ?_, ?_⟩⟩
  · exact publishingInterval_eq hmin hmax bits
  · exact shiftsInRange (by decide) (by decide) (not_or.mp hlow).2 hhigh
  · have hlt := log2_lt m
    have hle : m.log2 ≤ 52 := by
      rw [UInt32.le_iff_toNat_le, toNat_log2]
      change _ ≤ 52
      omega
    rw [leadingBit_eq, UInt32.zero_add, UInt32.toNat_sub_of_le _ _ hle, toNat_log2]
    exact ⟨rfl, by omega, Nat.lt_of_le_of_lt (Nat.sub_le _ _) (by decide)⟩
  · exact (publishingIntervalMsToBits_denotes m).mpr (hpos hlow)
  · have hlt := log2_lt m
    rw [← UInt32.toNat_inj, publishingInterval_eq hmin hmax, clampedFloor,
      publishingIntervalMsToBits_sign (hpos hlow), publishingIntervalMsToBits_exponent (hpos hlow),
      publishingIntervalMsToBits_value (hpos hlow), Nat.floor_natCast, if_neg Bool.false_ne_true,
        if_neg (by omega)]
    have hlow : 50 ≤ m.toNat := UInt32.le_iff_toNat_le.mp hlow
    have hhigh : m.toNat ≤ 60000 := UInt32.le_iff_toNat_le.mp hhigh
    omega

theorem durations_are_exact_default :
    publishingIntervalBitsToMs Script.build (publishingIntervalMsToBits 1000) = 1000 :=
  ((durations_are_exact (b := Script.build) rfl rfl).2.2 1000 (by decide) (by decide)).2.2

/-- The whole part of 100.5, and a NaN. -/
example : publishingIntervalBitsToMs Script.build 0x4059200000000000 = 100 ∧
    durationBitsToMs (clampTimeoutBits 0x7FF8000000000000) = 3600000 := by decide

end MicroOpcua
