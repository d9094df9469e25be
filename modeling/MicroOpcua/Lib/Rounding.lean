import Mathlib

namespace MicroOpcua.Lib.Rounding

section Nearest

variable {e m n : Nat}

/-- The integer nearest to `n / 2 ^ e`, the even one of two. -/
def nearestEven (e n : Nat) : Nat :=
  if 2 ^ e < 2 * (n % 2 ^ e) ∨ 2 * (n % 2 ^ e) = 2 ^ e ∧ n / 2 ^ e % 2 = 1 then
    n / 2 ^ e + 1 else n / 2 ^ e

theorem le_nearestEven (e n : Nat) : n / 2 ^ e ≤ nearestEven e n := by
  unfold nearestEven
  split <;> omega

theorem nearestEven_le (e n : Nat) : nearestEven e n ≤ n / 2 ^ e + 1 := by
  unfold nearestEven
  split <;> omega

theorem nearestEven_mono (e : Nat) (h : m ≤ n) : nearestEven e m ≤ nearestEven e n := by
  have hdiv : m / 2 ^ e ≤ n / 2 ^ e := Nat.div_le_div_right h
  obtain hlt | heq := Nat.lt_or_eq_of_le hdiv
  · exact (nearestEven_le e m).trans (Nat.le_trans hlt (le_nearestEven e n))
  · have hmod : m % 2 ^ e ≤ n % 2 ^ e := by
      have hm := Nat.div_add_mod m (2 ^ e)
      have hn := Nat.div_add_mod n (2 ^ e)
      rw [heq] at hm
      omega
    unfold nearestEven
    rw [heq]
    split
    · rename_i hup
      rw [if_pos]
      obtain habove | ⟨htie, hodd⟩ := hup
      · exact .inl (by omega)
      · obtain hmore | hsame := Nat.lt_or_eq_of_le hmod
        · exact .inl (by omega)
        · exact .inr ⟨by omega, hodd⟩
    · split <;> omega

theorem nearestEven_zero (n : Nat) : nearestEven 0 n = n := by
  simp [nearestEven, Nat.mod_one]

end Nearest

section Precision

variable {p m n : Nat}

def excess (p n : Nat) : Nat := n.log2 + 1 - p

def roundNat (p n : Nat) : Nat := nearestEven (excess p n) n * 2 ^ excess p n

theorem excess_mono (p : Nat) (h : m ≤ n) : excess p m ≤ excess p n := by
  have hlog : m.log2 ≤ n.log2 := by
    rw [Nat.log2_eq_log_two, Nat.log2_eq_log_two]
    exact Nat.log_mono_right h
  unfold excess
  omega

theorem roundNat_small (hp : 0 < p) (h : n < 2 ^ p) : roundNat p n = n := by
  have hexcess : excess p n = 0 := by
    unfold excess
    by_cases hzero : n = 0
    · rw [hzero, Nat.log2_zero]
      omega
    · have hlog := (Nat.log2_lt hzero).mpr h
      omega
  rw [roundNat, hexcess, nearestEven_zero, pow_zero, mul_one]

theorem roundNat_le (p n : Nat) : roundNat p n ≤ 2 ^ (n.log2 + 1) := by
  have hlt : n < 2 ^ (n.log2 + 1) := Nat.lt_log2_self
  unfold roundNat
  by_cases hexcess : excess p n = 0
  · rw [hexcess, nearestEven_zero, pow_zero, mul_one]
    exact hlt.le
  · have hsum : n.log2 + 1 = p + excess p n := by
      unfold excess at hexcess ⊢
      omega
    rw [hsum, pow_add] at hlt ⊢
    have hdiv : n / 2 ^ excess p n < 2 ^ p := Nat.div_lt_of_lt_mul (by rwa [mul_comm])
    exact Nat.mul_le_mul_right _ ((nearestEven_le _ n).trans hdiv)

theorem le_roundNat (hp : 0 < p) (hexcess : excess p n ≠ 0) : 2 ^ n.log2 ≤ roundNat p n := by
  have hne : n ≠ 0 := by
    rintro rfl
    rw [excess, Nat.log2_zero] at hexcess
    omega
  have hle : 2 ^ n.log2 ≤ n := Nat.log2_self_le hne
  have hsum : n.log2 = p - 1 + excess p n := by
    unfold excess at hexcess ⊢
    omega
  rw [roundNat]
  rw [hsum, pow_add] at hle ⊢
  have hdiv : 2 ^ (p - 1) ≤ n / 2 ^ excess p n := (Nat.le_div_iff_mul_le (Nat.two_pow_pos _)).mpr hle
  exact Nat.mul_le_mul_right _ (hdiv.trans (le_nearestEven _ n))

/-- Rounding keeps the order: two numbers with as many bits are rounded at the same place, and a power of
two lies between the roundings of two others. -/
theorem roundNat_mono (hp : 0 < p) (h : m ≤ n) : roundNat p m ≤ roundNat p n := by
  obtain hlt | heq := Nat.lt_or_eq_of_le (excess_mono p h)
  · have hlog : m.log2 + 1 ≤ n.log2 := by
      unfold excess at hlt
      omega
    calc roundNat p m ≤ 2 ^ (m.log2 + 1) := roundNat_le p m
      _ ≤ 2 ^ n.log2 := Nat.pow_le_pow_right (by decide) hlog
      _ ≤ roundNat p n := le_roundNat hp (by omega)
  · unfold roundNat
    rw [heq]
    exact Nat.mul_le_mul_right _ (nearestEven_mono _ h)

theorem roundNat_even (h : 2 ^ p ≤ n) : roundNat p n % 2 = 0 := by
  have hne : n ≠ 0 := by
    have := Nat.two_pow_pos p
    omega
  have hexcess : excess p n ≠ 0 := by
    have hlog : p ≤ n.log2 := (Nat.le_log2 hne).mpr h
    unfold excess
    omega
  obtain ⟨e, he⟩ := Nat.exists_eq_succ_of_ne_zero hexcess
  rw [roundNat, he, pow_succ, ← mul_assoc]
  exact Nat.mul_mod_left _ 2

def roundInt (p : Nat) (x : Int) : Int := if 0 ≤ x then roundNat p x.natAbs else -roundNat p x.natAbs

theorem roundInt_mono (hp : 0 < p) {x y : Int} (h : x ≤ y) : roundInt p x ≤ roundInt p y := by
  unfold roundInt
  split
  · rename_i hx
    rw [if_pos (hx.trans h)]
    exact Int.ofNat_le.mpr (roundNat_mono hp (by omega))
  · split
    · omega
    · exact Int.neg_le_neg (Int.ofNat_le.mpr (roundNat_mono hp (by omega)))

end Precision

section First

variable {α : Type} {β : Type} [LinearOrder β] {f : α → β} {l : List α} {a : α}

theorem argmin_eq_some_iff [DecidableEq α] (hle : ∀ x ∈ l, f a ≤ f x) :
    l.argmin f = some a ↔ l.find? (fun x => decide (f x = f a)) = some a := by
  induction l using List.reverseRecOn with
  | nil => simp
  | append_singleton l x ih =>
    have hinit : ∀ x ∈ l, f a ≤ f x := fun y hy => hle y (List.mem_append_left _ hy)
    have hlast : f a ≤ f x := hle x (by simp)
    rw [List.argmin_concat, List.find?_append]
    cases hmin : l.argmin f with
    | none =>
      have hnil : l = [] := List.argmin_eq_none.mp hmin
      subst hnil
      simp only [List.find?_nil, Option.none_or, List.find?_cons]
      constructor
      · intro h
        cases h
        simp
      · intro h
        split at h
        · exact h
        · cases h
    | some c =>
      have hc : c ∈ l := List.argmin_mem hmin
      have hbelow (y : α) (hy : y ∈ l) : f c ≤ f y := List.le_of_mem_argmin hy hmin
      dsimp only
      constructor
      · intro h
        split at h
        · rename_i hsmaller
          cases h
          have hnone : l.find? (fun y => decide (f y = f a)) = none := by
            rw [List.find?_eq_none]
            intro y hy
            rw [decide_eq_true_eq]
            exact (hsmaller.trans_le (hbelow y hy)).ne'
          rw [hnone]
          simp
        · cases h
          rw [(ih hinit).mp hmin]
          rfl
      · intro h
        cases hfound : l.find? (fun y => decide (f y = f a)) with
        | some z =>
          rw [hfound] at h
          cases h
          have hsame := hmin.symm.trans ((ih hinit).mpr hfound)
          cases hsame
          rw [if_neg hlast.not_gt]
        | none =>
          rw [hfound] at h
          have hx : x = a := by
            simp only [Option.none_or, List.find?_cons] at h
            split at h
            · exact Option.some.inj h
            · cases h
          have hne := List.find?_eq_none.mp hfound c hc
          rw [decide_eq_true_eq] at hne
          rw [hx, if_pos (lt_of_le_of_ne (hinit c hc) (Ne.symm hne))]

end First

end MicroOpcua.Lib.Rounding
