import Mathlib

namespace MicroOpcua.Lib.Slots

variable {κ : Type} {l : List (Option κ)} {i : Nat} {k : κ}

theorem reduceOption_set_some (h : l[i]? = some none) :
    (l.set i (some k)).reduceOption.Perm (k :: l.reduceOption) := by
  induction l generalizing i with
  | nil => cases h
  | cons x l ih =>
    cases i with
    | zero =>
      obtain rfl : x = none := by simpa using h
      simp
    | succ i =>
      have ih := ih (i := i) (by simpa using h)
      cases x with
      | none => simpa using ih
      | some y => simpa using (ih.cons y).trans (.swap k y _)

theorem reduceOption_set_none (h : l[i]? = some (some k)) :
    l.reduceOption.Perm (k :: (l.set i none).reduceOption) := by
  obtain ⟨hlt, hk⟩ := List.getElem?_eq_some_iff.mp h
  have hfree : (l.set i none)[i]? = some none := List.getElem?_set_self hlt
  have hfill : (l.set i none).set i (some k) = l := by
    rw [List.set_set, ← hk, List.set_getElem_self]
  have hperm := reduceOption_set_some (k := k) hfree
  rwa [hfill] at hperm

theorem mem_reduceOption : k ∈ l.reduceOption ↔ ∃ i : Nat, l[i]? = some (some k) := by
  rw [List.reduceOption_mem_iff, List.mem_iff_getElem?]

theorem eq_of_nodup {β : Type} {f : κ → β} {j : Nat} {k' : κ} (h : (l.reduceOption.map f).Nodup)
    (hi : l[i]? = some (some k)) (hj : l[j]? = some (some k')) (heq : f k = f k') : i = j := by
  by_contra hne
  have hj' : (l.set i none)[j]? = some (some k') := by rwa [List.getElem?_set_ne hne]
  have hperm := ((reduceOption_set_none hi).map f).nodup_iff.mp h
  refine (List.nodup_cons.mp hperm).1 ?_
  rw [heq]
  exact List.mem_map_of_mem (mem_reduceOption.mpr ⟨j, hj'⟩)

section Candidates

variable [DecidableEq κ] {f g : Nat → κ} {z : κ} {n : Nat} {taken : List κ}

/-- Of `n + 1` candidates one is free while less than `n` keys are taken. The candidates are pairwise
different, except that one of them may be replaced. -/
theorem exists_candidate_notMem (hinj : ∀ i ≤ n, ∀ j ≤ n, g i = g j → i = j)
    (hf : ∀ i, g i ≠ z → f i = g i) (hlen : taken.length < n) : ∃ i ≤ n, f i ∉ taken := by
  by_contra hall
  push Not at hall
  have hnodup : ((List.range (n + 1)).map g).Nodup := by
    refine List.Nodup.map_on (fun i hi j hj h => ?_) List.nodup_range
    rw [List.mem_range] at hi hj
    exact hinj i (by omega) j (by omega) h
  have hsubset : ((List.range (n + 1)).map g).erase z ⊆ taken := by
    intro x hx
    obtain ⟨hne, hmem⟩ := hnodup.mem_erase_iff.mp hx
    obtain ⟨i, hi, rfl⟩ := List.mem_map.mp hmem
    rw [List.mem_range] at hi
    rw [← hf i hne]
    exact hall i (by omega)
  have hlength := ((hnodup.erase z).subperm hsubset).length_le
  have herase : n ≤ (((List.range (n + 1)).map g).erase z).length := by
    rw [List.length_erase]
    split <;> simp
  omega

end Candidates

end MicroOpcua.Lib.Slots
