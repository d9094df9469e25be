import Mathlib

namespace MicroOpcua.Lib.Exact

section Words

variable {x y : UInt64}

def add? (x y : UInt64) : Option UInt64 := if x.toNat + y.toNat < 2 ^ 64 then some (x + y) else none

def sub? (x y : UInt64) : Option UInt64 := if y.toNat ≤ x.toNat then some (x - y) else none

def mul? (x y : UInt64) : Option UInt64 := if x.toNat * y.toNat < 2 ^ 64 then some (x * y) else none

theorem add?_exact (h : x.toNat + y.toNat < 2 ^ 64) :
    add? x y = some (x + y) ∧ (x + y).toNat = x.toNat + y.toNat := by
  refine ⟨if_pos h, ?_⟩
  rw [UInt64.toNat_add, Nat.mod_eq_of_lt h]

theorem sub?_exact (h : y.toNat ≤ x.toNat) :
    sub? x y = some (x - y) ∧ (x - y).toNat = x.toNat - y.toNat :=
  ⟨if_pos h, UInt64.toNat_sub_of_le _ _ (UInt64.le_iff_toNat_le.mpr h)⟩

theorem mul?_exact (h : x.toNat * y.toNat < 2 ^ 64) :
    mul? x y = some (x * y) ∧ (x * y).toNat = x.toNat * y.toNat := by
  refine ⟨if_pos h, ?_⟩
  rw [UInt64.toNat_mul, Nat.mod_eq_of_lt h]

theorem add?_eq_some {z : UInt64} (h : add? x y = some z) : z = x + y ∧ z.toNat = x.toNat + y.toNat := by
  by_cases hfits : x.toNat + y.toNat < 2 ^ 64
  · obtain ⟨hsome, hvalue⟩ := add?_exact hfits
    cases hsome.symm.trans h
    exact ⟨rfl, hvalue⟩
  · rw [add?, if_neg hfits] at h
    cases h

end Words

section Periods

variable {interval next now : Nat}

/-- The times `next + k * interval`, `k` at least 1, that lie after `now`. -/
def dueAfter (interval next now : Nat) : Set Nat :=
  { t | now < t ∧ ∃ k, 1 ≤ k ∧ t = next + k * interval }

def firstDue (interval next now : Nat) : Nat := next + ((now - next) / interval + 1) * interval

theorem firstDue_isLeast (hpos : 0 < interval) (h : next ≤ now) :
    IsLeast (dueAfter interval next now) (firstDue interval next now) := by
  refine ⟨⟨?_, _, Nat.le_add_left _ _, rfl⟩, ?_⟩
  · have hlt := Nat.lt_mul_div_succ (now - next) hpos
    rw [Nat.mul_comm] at hlt
    rw [firstDue]
    omega
  · rintro t ⟨hafter, k, -, rfl⟩
    have hlt : (now - next) / interval < k := by
      rw [Nat.div_lt_iff_lt_mul hpos]
      omega
    exact Nat.add_le_add_left (Nat.mul_le_mul_right _ hlt) _

theorem firstDue_of_lt (hpos : 0 < interval) (hnear : now < next + interval) :
    firstDue interval next now = next + interval := by
  have hzero : (now - next) / interval = 0 := Nat.div_eq_of_lt (by omega)
  rw [firstDue, hzero, Nat.zero_add, Nat.one_mul]

theorem firstDue_step (hpos : 0 < interval) (hfar : next + interval ≤ now) :
    firstDue interval next now = firstDue interval (next + interval) now := by
  have hdiv : (now - next) / interval = (now - (next + interval)) / interval + 1 := by
    rw [← Nat.add_div_right _ hpos]
    congr 1
    omega
  rw [firstDue, firstDue, hdiv, Nat.add_mul _ 1 interval, Nat.one_mul]
  omega

end Periods

end MicroOpcua.Lib.Exact
