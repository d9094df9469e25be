import MicroOpcua.Services.SecureChannel

namespace MicroOpcua

/-- `mu_sequence_validator_t` as the source lays it out. -/
structure Validator where
  lastSequenceNumber : UInt32
  isInitialized : Bool
deriving DecidableEq

def Validator.init : Validator := ⟨0, false⟩

def Validator.validate (v : Validator) (sequenceNumber : UInt32) : StatusCode × Validator :=
  if ¬ v.isInitialized then (good, ⟨sequenceNumber, true⟩)
  else if sequenceNumber = v.lastSequenceNumber + 1 then
    (good, { v with lastSequenceNumber := sequenceNumber })
  else if v.lastSequenceNumber > 4294966271 ∧ sequenceNumber < 1024 then
    (good, { v with lastSequenceNumber := sequenceNumber })
  else (Fault.securityChecksFailed.code, v)

def Validator.number (v : Validator) : SequenceValidator :=
  if v.isInitialized then some v.lastSequenceNumber else none

/-- The successor modulo `2 ^ 32`, or a wrap step. -/
def Follows (last n : UInt32) : Prop := n = last + 1 ∨ last > 4294966271 ∧ n < 1024

theorem Validator.validate_cases (v : Validator) (n : UInt32) :
    (v.validate n = (good, ⟨n, true⟩) ∧ (v.isInitialized = true → Follows v.lastSequenceNumber n)) ∨
      v.validate n = (Fault.securityChecksFailed.code, v) ∧ v.isInitialized = true ∧
        ¬ Follows v.lastSequenceNumber n := by
  obtain ⟨last, initialized⟩ := v
  cases initialized with
  | false => exact .inl ⟨rfl, nofun⟩
  | true =>
    by_cases hnext : n = last + 1
    · exact .inl ⟨by simp [validate, hnext], fun _ => .inl hnext⟩
    · by_cases hwrap : last > 4294966271 ∧ n < 1024
      · exact .inl ⟨by simp [validate, hnext, hwrap], fun _ => .inr hwrap⟩
      · refine .inr ⟨by simp [validate, hnext, hwrap], rfl, fun h => ?_⟩
        exact h.elim hnext hwrap

/-- The validator of a secure channel takes the same steps. -/
theorem Validator.sequenceValidate_number (v : Validator) (n : UInt32) : sequenceValidate v.number n =
      if (v.validate n).1 = good then .ok (v.validate n).2.number else .error .securityChecksFailed := by
  obtain ⟨last, initialized⟩ := v
  cases initialized with
  | false => rfl
  | true =>
    by_cases hnext : n = last + 1
    · simp [sequenceValidate, validate, number, hnext]
    · by_cases hwrap : last > 4294966271 ∧ n < 1024
      · simp [sequenceValidate, validate, number, hnext, hwrap]
      · have hcode : Fault.securityChecksFailed.code ≠ good := by decide
        simp [sequenceValidate, validate, number, hnext, hwrap, hcode]

section Runs

def Validator.after (v : Validator) (numbers : List UInt32) : Validator :=
  numbers.foldl (fun v n => (v.validate n).2) v

def Validator.accepted (v : Validator) : List UInt32 → List UInt32
  | [] => []
  | n :: numbers =>
    if (v.validate n).1 = good then
      n :: accepted (v.validate n).2 numbers else accepted (v.validate n).2 numbers

theorem Validator.accepted_initialized (numbers : List UInt32) (last : UInt32) :
    List.IsChain Follows (last :: accepted ⟨last, true⟩ numbers) := by
  induction numbers generalizing last with
  | nil => exact List.isChain_singleton _
  | cons n numbers ih =>
    rw [accepted]
    obtain ⟨hstep, hfollows⟩ | ⟨hstep, -⟩ := validate_cases ⟨last, true⟩ n
    · rw [hstep, if_pos rfl]
      exact List.isChain_cons_cons.mpr ⟨hfollows rfl, ih n⟩
    · have hcode : ¬ Fault.securityChecksFailed.code = good := by decide
      rw [hstep, if_neg hcode]
      exact ih last

theorem Validator.accepted_chain (numbers : List UInt32) :
    List.IsChain Follows (init.accepted numbers) := by
  cases numbers with
  | nil => exact List.isChain_nil
  | cons n numbers => exact accepted_initialized numbers n

/-- Where `k` steps from `x` can lead: straight on, past one wrap after `w` of them, or the steps are
many. -/
def Wandered (x k y : Nat) : Prop :=
  y = x + k ∨ (∃ w, 1 ≤ w ∧ w ≤ k ∧ 2 ^ 32 - 1023 ≤ w + x ∧ y ≤ 1023 + (k - w)) ∨ 2 ^ 32 - 2046 ≤ k

theorem Wandered.step {x k : Nat} {last n : UInt32} (h : Wandered x k last.toNat) (hn : Follows last n) :
    Wandered x (k + 1) n.toNat := by
  have hmove : n.toNat = last.toNat + 1 ∨ 2 ^ 32 - 1024 ≤ last.toNat ∧ n.toNat ≤ 1023 := by
    obtain rfl | ⟨hlate, hearly⟩ := hn
    · have hlt := last.toNat_lt
      rw [UInt32.toNat_add]
      change (last.toNat + 1) % 2 ^ 32 = _ ∨ _ ∧ (last.toNat + 1) % 2 ^ 32 ≤ _
      omega
    · have hlate' : (4294966271 : UInt32).toNat < last.toNat := hlate
      have hearly' : n.toNat < (1024 : UInt32).toNat := hearly
      exact .inr ⟨hlate', Nat.le_of_lt_succ hearly'⟩
  obtain heq | ⟨w, hw, hwk, hx, hle⟩ | hmany := h
  · obtain hnext | ⟨hlate, hearly⟩ := hmove
    · exact .inl (by omega)
    · exact .inr (.inl ⟨k + 1, by omega, le_rfl, by omega, by omega⟩)
  · obtain hnext | ⟨hlate, -⟩ := hmove
    · exact .inr (.inl ⟨w, hw, by omega, hx, by omega⟩)
    · exact .inr (.inr (by omega))
  · exact .inr (.inr (by omega))

theorem Wandered.back {x k : Nat} (h : Wandered x k x) (hk : 0 < k) : 2 ^ 32 - 2046 ≤ k := by
  obtain heq | ⟨w, -, hwk, hx, hle⟩ | hmany := h <;> omega

theorem wandered_of_chain {l : List UInt32} (h : List.IsChain Follows l) {i k : Nat} {x y : UInt32}
    (hx : l[i]? = some x) (hy : l[i + k]? = some y) : Wandered x.toNat k y.toNat := by
  induction k generalizing y with
  | zero =>
    obtain rfl := Option.some.inj (hx.symm.trans hy)
    exact .inl rfl
  | succ k ih =>
    obtain ⟨hlt, hget⟩ := List.getElem?_eq_some_iff.mp hy
    have hstep := List.isChain_iff_getElem.mp h (i + k) hlt
    have hlast : l[i + k]? = some l[i + k] := List.getElem?_eq_getElem (Nat.lt_of_succ_lt hlt)
    exact (ih hlast).step (hget ▸ hstep)

end Runs

theorem accepted_numbers_fresh (numbers : List UInt32) :
    (∀ i j n, i < j → (Validator.init.accepted numbers)[i]? = some n →
      (Validator.init.accepted numbers)[j]? = some n → 2 ^ 32 - 2048 ≤ j - i - 1) ∧
    (∀ i last n, (Validator.init.accepted numbers)[i]? = some last →
      (Validator.init.accepted numbers)[i + 1]? = some n → n = last + 1 ∨ last > 4294966271 ∧ n < 1024) ∧
    ∀ pre n, pre ++ [n] <+: numbers → ((Validator.init.after pre).validate n).1 ≠ good →
      ((Validator.init.after pre).validate n).2 = Validator.init.after pre := by
  have hchain := Validator.accepted_chain numbers
  refine ⟨fun i j n hij hi hj => ?_, fun i last n hlast hn => ?_, fun pre n _ hrejected => ?_⟩
  · obtain ⟨k, rfl⟩ := Nat.exists_eq_add_of_lt hij
    have hback := (wandered_of_chain hchain (k := k + 1) hi hj).back (Nat.succ_pos k)
    omega
  · obtain ⟨hlt, hget⟩ := List.getElem?_eq_some_iff.mp hn
    have hstep := List.isChain_iff_getElem.mp hchain i hlt
    rw [List.getElem?_eq_getElem (Nat.lt_of_succ_lt hlt)] at hlast
    rw [Option.some.inj hlast, hget] at hstep
    exact hstep
  · obtain ⟨hstep, -⟩ | ⟨hstep, -⟩ := (Validator.init.after pre).validate_cases n
    · exact absurd (congrArg Prod.fst hstep) hrejected
    · exact congrArg Prod.snd hstep

end MicroOpcua
