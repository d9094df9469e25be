import Mathlib

namespace MicroOpcua.Lib.Ring

variable {α : Type} {xs : List α} {d : α} {m head count j k : Nat}

def contents (d : α) (m : Nat) (xs : List α) (head count : Nat) : List α :=
  (List.range count).map fun k => xs.getD ((head + k) % m) d

@[simp] theorem length_contents (d : α) (m : Nat) (xs : List α) (head count : Nat) :
    (contents d m xs head count).length = count := by
  simp [contents]

theorem contents_succ (h : head < m) :
    contents d m xs head (count + 1) = xs.getD head d :: contents d m xs ((head + 1) % m) count := by
  have hstep (k : Nat) : (head + (k + 1)) % m = ((head + 1) % m + k) % m := by
    rw [Nat.mod_add_mod, Nat.add_assoc, Nat.add_comm 1 k]
  simp only [contents, List.range_succ_eq_map, List.map_cons, List.map_map, Nat.add_zero,
    Nat.mod_eq_of_lt h]
  congr 1
  apply List.map_congr_left
  intro k _
  exact congrArg (fun i => xs.getD i d) (hstep k)

theorem getElem?_contents (hk : k < count) :
    (contents d m xs head count)[k]? = some (xs.getD ((head + k) % m) d) := by
  simp [contents, List.getElem?_range hk]

theorem contents_drop (d : α) (m : Nat) (xs : List α) (head count k : Nat) :
    contents d m xs ((head + k) % m) (count - k) = (contents d m xs head count).drop k := by
  apply List.ext_getElem?
  intro i
  rw [List.getElem?_drop]
  by_cases hi : k + i < count
  · rw [getElem?_contents (by omega), getElem?_contents hi, Nat.mod_add_mod, Nat.add_assoc]
  · rw [List.getElem?_eq_none (by rw [length_contents]; omega),
      List.getElem?_eq_none (by rw [length_contents]; omega)]

theorem contents_concat (d : α) (m : Nat) (xs : List α) (head count : Nat) :
    contents d m xs head (count + 1) = contents d m xs head count ++
      [xs.getD ((head + count) % m) d] := by
  simp only [contents, List.range_succ, List.map_append, List.map_cons, List.map_nil]

theorem cell_inj (hj : j < m) (hk : k < m) (h : (head + j) % m = (head + k) % m) : j = k := by
  have hmod : j % m = k % m := Nat.ModEq.add_left_cancel' head h
  rwa [Nat.mod_eq_of_lt hj, Nat.mod_eq_of_lt hk] at hmod

theorem contents_modify (head : Nat) (f : α → α) (hm : m ≤ xs.length) (hcount : count ≤ m) (hj : j < m) :
    contents d m (xs.modify ((head + j) % m) f) head count =
      (contents d m xs head count).modify j f := by
  apply List.ext_getElem?
  intro k
  rw [List.getElem?_modify]
  by_cases hk : k < count
  · have hcell : (head + k) % m < xs.length := lt_of_lt_of_le (Nat.mod_lt _ (by omega)) hm
    simp only [contents, List.getElem?_map, List.getElem?_range hk, Option.map_some,
      List.getD_eq_getElem?_getD, List.getElem?_modify, List.getElem?_eq_getElem hcell]
    by_cases heq : j = k
    · subst heq
      simp
    · have hne : (head + j) % m ≠ (head + k) % m := fun h => heq (cell_inj hj (by omega) h)
      simp [heq, hne]
  · have hlen (ys : List α) : (contents d m ys head count)[k]? = none :=
      List.getElem?_eq_none (by rw [length_contents]; omega)
    simp [hlen]

theorem contents_push (head : Nat) (a : α) (hm : m ≤ xs.length) (hcount : count < m) :
    contents d m (xs.set ((head + count) % m) a) head (count + 1) =
      contents d m xs head count ++ [a] := by
  rw [List.set_eq_modify, contents_modify _ _ hm hcount hcount, contents_concat, ← List.set_eq_modify]
  simp

theorem contents_replace (head : Nat) (a : α) (hm : m ≤ xs.length) (hcount : count < m) :
    contents d m (xs.set ((head + count) % m) a) head (count + 1) =
      (contents d m xs head (count + 1)).dropLast ++ [a] := by
  rw [contents_push head a hm hcount, contents_concat, List.dropLast_concat]

theorem contents_rotate (a : α) (hm : m ≤ xs.length) (hhead : head < m) :
    contents d m (xs.set head a) ((head + 1) % m) m = (contents d m xs head m).tail ++ [a] := by
  obtain ⟨n, rfl⟩ : ∃ n, m = n + 1 := ⟨m - 1, by omega⟩
  have hcell : ((head + 1) % (n + 1) + n) % (n + 1) = head := by
    rw [Nat.mod_add_mod, Nat.add_assoc, Nat.add_comm 1 n, Nat.add_mod_right, Nat.mod_eq_of_lt hhead]
  have hpush := contents_push (d := d) ((head + 1) % (n + 1)) a hm (Nat.lt_succ_self n)
  rw [hcell] at hpush
  rw [hpush, contents_succ hhead, List.tail_cons]

end MicroOpcua.Lib.Ring
