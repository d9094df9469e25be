import Mathlib

namespace MicroOpcua.Lib.SwapRemove

variable {α : Type} {l : List α} {i : Nat} {p : α → Bool}

def swapRemove (l : List α) (i : Nat) : List α :=
  match l.getLast? with
  | none => l
  | some last => (l.set i last).dropLast

/-- Go through an array and swap out what meets `p`; the entry that was moved in is looked at next. -/
def removeAll (p : α → Bool) : (steps i : Nat) → List α → List α
  | 0, _, l => l
  | steps + 1, i, l =>
    if l[i]?.any p then removeAll p steps i (swapRemove l i) else removeAll p steps (i + 1) l

theorem swapRemove_append (front : List α) (last : α) (i : Nat) :
    swapRemove (front ++ [last]) i = ((front ++ [last]).set i last).dropLast := by
  simp [swapRemove]

theorem swapRemove_length (h : l ≠ []) : (swapRemove l i).length = l.length - 1 := by
  obtain ⟨last, hlast⟩ := Option.isSome_iff_exists.mp (List.getLast?_isSome.mpr h)
  simp [swapRemove, hlast]

theorem swapRemove_perm (hi : i < l.length) : (swapRemove l i).Perm (l.eraseIdx i) := by
  have hne : l ≠ [] := List.ne_nil_of_length_pos (by omega)
  obtain ⟨front, last, rfl⟩ : ∃ front last, l = front ++ [last] :=
    ⟨l.dropLast, l.getLast hne, (List.dropLast_append_getLast hne).symm⟩
  rw [swapRemove_append]
  by_cases hlast : i = front.length
  · subst hlast
    rw [List.set_append_right _ _ (Nat.le_refl _), List.eraseIdx_append_of_length_le (Nat.le_refl _),
      Nat.sub_self]
    simp
  · have hlt : i < front.length := by
      simp only [List.length_append, List.length_singleton] at hi
      omega
    rw [List.set_append_left _ _ hlt, List.dropLast_concat, List.eraseIdx_append_of_lt_length hlt]
    exact (List.set_perm_cons_eraseIdx hlt last).trans (List.perm_append_singleton last _).symm

theorem swapRemove_take (hi : i < l.length) : (swapRemove l i).take i = l.take i := by
  have hne : l ≠ [] := List.ne_nil_of_length_pos (by omega)
  obtain ⟨front, last, rfl⟩ : ∃ front last, l = front ++ [last] :=
    ⟨l.dropLast, l.getLast hne, (List.dropLast_append_getLast hne).symm⟩
  have hle : i ≤ front.length := by
    simp only [List.length_append, List.length_singleton] at hi
    omega
  have hmin : min i (((front ++ [last]).set i last).length - 1) = i := by
    simp only [List.length_set, List.length_append, List.length_singleton, Nat.add_sub_cancel,
      Nat.min_eq_left hle]
  rw [swapRemove_append, List.dropLast_eq_take, List.take_take, hmin,
    List.take_set_of_le (Nat.le_refl _)]

theorem map_range_set (f : Nat → α) (n : Nat) (x : α) :
    ((List.range n).map f).set i x = (List.range n).map (Function.update f i x) := by
  apply List.ext_getElem
  · simp
  · intro k hk hk'
    rw [List.getElem_set]
    by_cases hik : i = k
    · subst hik
      simp
    · simp [hik, Function.update_of_ne (Ne.symm hik)]

theorem swapRemove_range (f : Nat → α) {last : Nat} (hi : i ≤ last) :
    swapRemove ((List.range (last + 1)).map f) i =
      (List.range last).map (Function.update f i (f last)) := by
  rw [List.range_succ, List.map_append, List.map_singleton, swapRemove_append]
  obtain hlt | rfl := Nat.lt_or_eq_of_le hi
  · rw [List.set_append_left _ _ (by simpa using hlt), List.dropLast_concat, map_range_set]
  · rw [List.set_append_right _ _ (by simp)]
    simp

theorem removeAll_perm (steps : Nat) (hsteps : l.length = i + steps)
    (hfront : ∀ x ∈ l.take i, p x = false) : (removeAll p steps i l).Perm (l.filter (!p ·)) := by
  induction steps generalizing i l with
  | zero =>
    have hall : l.filter (!p ·) = l := by
      rw [List.filter_eq_self]
      intro x hx
      rw [hfront x (by rwa [List.take_of_length_le (by omega)])]
      rfl
    rw [hall]
    exact .refl l
  | succ steps ih =>
    have hi : i < l.length := by omega
    rw [removeAll, List.getElem?_eq_getElem hi, Option.any_some]
    by_cases hp : p l[i] = true
    · have hlength := swapRemove_length (i := i) (List.ne_nil_of_length_pos (by omega : 0 < l.length))
      rw [if_pos hp]
      refine (ih (by omega) ?_).trans ?_
      · rw [swapRemove_take hi]
        exact hfront
      · have hwhole := (List.getElem_cons_eraseIdx_perm hi).filter (!p ·)
        rw [List.filter_cons_of_neg (by simp [hp])] at hwhole
        exact ((swapRemove_perm hi).filter _).trans hwhole
    · rw [if_neg hp]
      apply ih (by omega)
      intro x hx
      rw [List.take_succ_eq_append_getElem hi] at hx
      obtain hx | hx := List.mem_append.mp hx
      · exact hfront x hx
      · rw [List.mem_singleton.mp hx]
        exact Bool.eq_false_iff.mpr hp

end MicroOpcua.Lib.SwapRemove
