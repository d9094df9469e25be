import Mathlib

namespace MicroOpcua.Lib.BitPattern

variable {p n e f : Nat}

/-- The magnitude of a floating-point pattern with `p` fraction bits below its exponent field, in units
of the least positive number. An exponent field of zero has no leading bit. -/
def units (p n : Nat) : Nat :=
  if n / 2 ^ p = 0 then n % 2 ^ p else (2 ^ p + n % 2 ^ p) * 2 ^ (n / 2 ^ p - 1)

theorem units_of_fields (he : 0 < e) (hf : f < 2 ^ p) :
    units p (e * 2 ^ p + f) = (2 ^ p + f) * 2 ^ (e - 1) := by
  have hpos : 0 < 2 ^ p := Nat.two_pow_pos p
  have hdiv : (e * 2 ^ p + f) / 2 ^ p = e := by
    rw [Nat.add_comm, Nat.add_mul_div_right _ _ hpos, Nat.div_eq_of_lt hf, Nat.zero_add]
  have hmod : (e * 2 ^ p + f) % 2 ^ p = f := by
    rw [Nat.add_comm, Nat.add_mul_mod_self_right, Nat.mod_eq_of_lt hf]
  rw [units, hdiv, hmod, if_neg he.ne']

theorem units_of_lt (h : n < 2 ^ p) : units p n = n := by
  rw [units, Nat.div_eq_of_lt h, if_pos rfl, Nat.mod_eq_of_lt h]

theorem units_succ (p n : Nat) : units p n < units p (n + 1) := by
  have hpos : 0 < 2 ^ p := Nat.two_pow_pos p
  have hlt : n % 2 ^ p < 2 ^ p := Nat.mod_lt n hpos
  have hn : n = n / 2 ^ p * 2 ^ p + n % 2 ^ p := (Nat.div_add_mod' n _).symm
  generalize n / 2 ^ p = e at hn
  generalize n % 2 ^ p = f at hn hlt
  subst hn
  obtain hfits | hcarry : f + 1 < 2 ^ p ∨ f + 1 = 2 ^ p := by omega
  · obtain rfl | he := Nat.eq_zero_or_pos e
    · rw [units_of_lt (by omega), units_of_lt (by omega)]
      omega
    · rw [Nat.add_assoc, units_of_fields he hlt, units_of_fields he hfits]
      apply Nat.mul_lt_mul_of_pos_right (by omega) (Nat.two_pow_pos _)
  · have hnext : e * 2 ^ p + f + 1 = (e + 1) * 2 ^ p + 0 := by
      rw [Nat.add_mul]
      omega
    rw [hnext, units_of_fields (Nat.succ_pos e) hpos, Nat.add_zero, Nat.succ_sub_one]
    obtain rfl | he := Nat.eq_zero_or_pos e
    · rw [units_of_lt (by omega), Nat.pow_zero]
      omega
    · obtain ⟨k, rfl⟩ : ∃ k, e = k + 1 := ⟨e - 1, by omega⟩
      rw [units_of_fields he hlt, Nat.add_sub_cancel, pow_succ, mul_comm (2 ^ k) 2, ← mul_assoc]
      apply Nat.mul_lt_mul_of_pos_right (by omega) (Nat.two_pow_pos _)

theorem units_strictMono (p : Nat) : StrictMono (units p) := strictMono_nat_of_lt_succ (units_succ p)

/-- The whole part of a pattern whose leading bit is not below the unit place: `q` is the scale of the
least number. -/
theorem units_div {q : Nat} (he : 0 < e) (hf : f < 2 ^ p) (hlow : e ≤ q + 1) :
    units p (e * 2 ^ p + f) / 2 ^ q = (2 ^ p + f) / 2 ^ (q + 1 - e) := by
  have hsplit : 2 ^ q = 2 ^ (q + 1 - e) * 2 ^ (e - 1) := by
    rw [← pow_add]
    congr 1
    omega
  rw [units_of_fields he hf, hsplit, Nat.mul_div_mul_right _ _ (Nat.two_pow_pos _)]

end MicroOpcua.Lib.BitPattern
