import Mathlib

namespace MicroOpcua.Lib.Table

variable {α : Type} {l : List α} {i : Nat} {f : α → α} {y : α}

theorem exists_mem_of_mem_modify (h : y ∈ l.modify i f) : ∃ x ∈ l, y = x ∨ y = f x := by
  obtain ⟨j, hj⟩ := List.mem_iff_getElem?.mp h
  rw [List.getElem?_modify] at hj
  obtain ⟨x, hx, rfl⟩ := Option.map_eq_some_iff.mp hj
  refine ⟨x, List.mem_of_getElem? hx, ?_⟩
  split
  · exact .inr rfl
  · exact .inl rfl

variable {p : α → Bool} {x : α}

/-- An entry of a table after one entry was replaced: the new one, or one that any replacement keeps. -/
theorem mem_set_of_mem_set (h : y ∈ l.set i x) : y = x ∨ ∀ z, y ∈ l.set i z := by
  obtain ⟨j, hj⟩ := List.mem_iff_getElem?.mp h
  by_cases hij : i = j
  · subst hij
    exact (List.mem_or_eq_of_mem_set h).elim (fun _ => .inl (Option.some.inj (hj.symm.trans
      (List.getElem?_set_self (by simpa using (List.getElem?_eq_some_iff.mp hj).1))))) .inl
  · refine .inr (fun z => List.mem_of_getElem? (i := j) ?_)
    rw [List.getElem?_set_ne hij] at hj ⊢
    exact hj

theorem foldl_rel {β : Type} {R : β → β → Prop} [Std.Refl R] [IsTrans β R] {f : β → α → β}
    (h : ∀ b a, R b (f b a)) (l : List α) (b : β) : R b (l.foldl f b) := by
  induction l generalizing b with
  | nil => exact refl b
  | cons a l ih => exact IsTrans.trans _ _ _ (h b a) (ih (f b a))

theorem foldl_range_modify {τ : Type} {table : τ → List α} {step : τ → Nat → τ}
    (h : ∀ t i, table (step t i) = (table t).modify i f) (t : τ) :
    table ((List.range (table t).length).foldl step t) = (table t).map f := by
  have hloop (n j : Nat) : (table ((List.range n).foldl step t))[j]? =
      if j < n then (table t)[j]?.map f else (table t)[j]? := by
    induction n generalizing j with
    | zero => rfl
    | succ n ih =>
      rw [List.range_succ, List.foldl_append, List.foldl_cons, List.foldl_nil, h,
        List.getElem?_modify, ih]
      by_cases hj : j = n
      · subst hj
        simp
      · have hlt : j < n + 1 ↔ j < n := by omega
        simp [Ne.symm hj, hlt]
  apply List.ext_getElem?
  intro j
  rw [hloop, List.getElem?_map]
  by_cases hj : j < (table t).length
  · rw [if_pos hj]
  · rw [if_neg hj, List.getElem?_eq_none (by omega)]
    rfl

theorem modify_eq_set (hi : l[i]? = some x) : l.modify i f = l.set i (f x) := by
  obtain ⟨hlt, rfl⟩ := List.getElem?_eq_some_iff.mp hi
  apply List.ext_getElem?
  intro j
  rw [List.getElem?_modify, List.getElem?_set]
  by_cases hij : i = j
  · subst hij
    simp [hlt]
  · simp [hij]

/-- A change of the one entry that a function changes is the function on the whole table. -/
theorem modify_eq_map {g : α → α} (hi : l[i]? = some x) (hx : g x = f x)
    (hother : ∀ (j : Nat) (y : α), l[j]? = some y → j ≠ i → g y = y) : l.modify i f = l.map g := by
  apply List.ext_getElem?
  intro j
  rw [modify_eq_set hi, List.getElem?_map]
  by_cases hij : i = j
  · subst hij
    rw [List.getElem?_set_self (List.getElem?_eq_some_iff.mp hi).1, hi, Option.map_some, hx]
  · rw [List.getElem?_set_ne hij]
    cases hj : l[j]? with
    | none => rfl
    | some y => rw [Option.map_some, hother j y hj (Ne.symm hij)]

theorem map_set_eq {β : Type} {g : α → β} (hi : l[i]? = some x) (h : g y = g x) :
    (l.set i y).map g = l.map g := by
  obtain ⟨hlt, rfl⟩ := List.getElem?_eq_some_iff.mp hi
  rw [List.map_set, h, ← List.map_set, List.set_getElem_self]

theorem countP_set_le (found : l[i]? = some x)
    (h : p y = true → p x = true) : (l.set i y).countP p ≤ l.countP p := by
  obtain ⟨hlt, rfl⟩ := List.getElem?_eq_some_iff.mp found
  rw [List.countP_set hlt]
  by_cases hx : p l[i] = true
  · have hpos : 0 < l.countP p := List.countP_pos_iff.mpr ⟨l[i], List.getElem_mem hlt, hx⟩
    rw [if_pos hx]
    split <;> omega
  · have hy : ¬ p y = true := fun hy => hx (h hy)
    rw [if_neg hx, if_neg hy]
    omega

theorem countP_set_le_succ (l : List α) (i : Nat) (y : α) : (l.set i y).countP p ≤ l.countP p + 1 := by
  by_cases hlt : i < l.length
  · rw [List.countP_set hlt]
    split <;> split <;> omega
  · rw [List.set_eq_of_length_le (by omega)]
    omega

theorem countP_set_lt (hi : l[i]? = some x) (hx : p x = true) (hy : p y = false) :
    (l.set i y).countP p < l.countP p := by
  obtain ⟨hlt, rfl⟩ := List.getElem?_eq_some_iff.mp hi
  have hpos : 0 < l.countP p := List.countP_pos_iff.mpr ⟨l[i], List.getElem_mem hlt, hx⟩
  rw [List.countP_set hlt, if_pos hx, if_neg (Bool.not_eq_true _ ▸ hy)]
  omega

section Edits

variable {p q : α → Prop} {R : α → α → Prop} {xs ys zs : List α} {x : α}

/-- `ys` is `xs`, or one entry of `xs` that meets `p` became another one, as `R` says. -/
def Edits (p : α → Prop) (R : α → α → Prop) (xs ys : List α) : Prop :=
  ys = xs ∨ ∃ i x y, xs[i]? = some x ∧ p x ∧ R x y ∧ ys = xs.set i y

theorem Edits.modify (hi : xs[i]? = some x) (hp : p x) (hR : R x (f x)) : Edits p R xs (xs.modify i f) :=
  .inr ⟨i, x, f x, hi, hp, hR, modify_eq_set hi⟩

theorem Edits.map_eq {β : Type} {g : α → β} (h : Edits p R xs ys) (hg : ∀ x y, R x y → g y = g x) :
    ys.map g = xs.map g := by
  obtain rfl | ⟨i, x, y, hi, -, hR, rfl⟩ := h
  · rfl
  · exact map_set_eq hi (hg x y hR)

def SameOn (q : α → Prop) (xs ys : List α) : Prop :=
  ∀ (i : Nat) (x : α), q x → (xs[i]? = some x ↔ ys[i]? = some x)

theorem SameOn.refl (xs : List α) : SameOn q xs xs := fun _ _ _ => Iff.rfl

theorem SameOn.trans (h : SameOn q xs ys) (h' : SameOn q ys zs) : SameOn q xs zs :=
  fun i x hx => (h i x hx).trans (h' i x hx)

theorem SameOn.mem_iff (h : SameOn q xs ys) (hx : q x) : x ∈ xs ↔ x ∈ ys := by
  rw [List.mem_iff_getElem?, List.mem_iff_getElem?]
  exact exists_congr (fun i => h i x hx)

theorem SameOn.set (hi : xs[i]? = some x) (hx : ¬ q x) (hy : ¬ q y) : SameOn q xs (xs.set i y) := by
  intro j z hz
  have hlt := (List.getElem?_eq_some_iff.mp hi).1
  by_cases hij : i = j
  · subst hij
    rw [hi, List.getElem?_set_self hlt]
    exact ⟨fun h => absurd (Option.some.inj h ▸ hz) hx, fun h => absurd (Option.some.inj h ▸ hz) hy⟩
  · rw [List.getElem?_set_ne hij]

theorem SameOn.map (h : ∀ x, q x ∨ q (f x) → f x = x) : SameOn q xs (xs.map f) := by
  intro i x hx
  rw [List.getElem?_map, Option.map_eq_some_iff]
  constructor
  · exact fun hi => ⟨x, hi, h x (.inl hx)⟩
  · rintro ⟨z, hi, rfl⟩
    rwa [h z (.inr hx)]

theorem Edits.sameOn (h : Edits p R xs ys) (hold : ∀ x, p x → ¬ q x)
    (hnew : ∀ x y, p x → R x y → ¬ q y) : SameOn q xs ys := by
  obtain rfl | ⟨i, x, y, hi, hp, hR, rfl⟩ := h
  · exact .refl _
  · exact .set hi (hold x hp) (hnew x y hp hR)

end Edits

section Entrywise

variable {R : α → α → Prop} {l' l'' : List α} {x : α}

theorem forall₂_trans [IsTrans α R] (h : List.Forall₂ R l l') (h' : List.Forall₂ R l' l'') :
    List.Forall₂ R l l'' := by
  induction h generalizing l'' with
  | nil => exact h'
  | cons hxy _ ih =>
    cases h' with
    | cons hyz h' => exact .cons (IsTrans.trans _ _ _ hxy hyz) (ih h')

theorem exists_getElem?_of_forall₂ (h : List.Forall₂ R l l') (hy : l'[i]? = some y) :
    ∃ x, l[i]? = some x ∧ R x y := by
  induction h generalizing i with
  | nil => cases hy
  | cons hxy _ ih =>
    cases i with
    | zero =>
      obtain rfl := Option.some.inj hy
      exact ⟨_, rfl, hxy⟩
    | succ i => exact ih hy

theorem map_eq_of_forall₂ {β : Type} {g : α → β} (h : List.Forall₂ R l l')
    (hg : ∀ x y, R x y → g y = g x) : l'.map g = l.map g := by
  induction h with
  | nil => rfl
  | cons hxy _ ih => rw [List.map_cons, List.map_cons, hg _ _ hxy, ih]

theorem forall_of_forall₂ {p : α → Prop} (h : List.Forall₂ R l l') (hp : ∀ x y, R x y → p x → p y)
    (hl : ∀ x ∈ l, p x) : ∀ y ∈ l', p y := by
  intro y hy
  obtain ⟨i, hi⟩ := List.mem_iff_getElem?.mp hy
  obtain ⟨x, hx, hxy⟩ := exists_getElem?_of_forall₂ h hi
  exact hp x y hxy (hl x (List.mem_of_getElem? hx))

theorem forall₂_set (hrefl : ∀ x, R x x) (hi : l[i]? = some x) (hxy : R x y) :
    List.Forall₂ R l (l.set i y) := by
  induction l generalizing i with
  | nil => cases hi
  | cons z l ih =>
    cases i with
    | zero =>
      obtain rfl := Option.some.inj hi
      exact .cons hxy (List.forall₂_same.mpr (fun x _ => hrefl x))
    | succ i => exact .cons (hrefl z) (ih hi)

theorem forall₂_replicate {n : Nat} (hlen : l.length = n) (hy : ∀ x, R x y) :
    List.Forall₂ R l (List.replicate n y) := by
  subst hlen
  induction l with
  | nil => exact .nil
  | cons x l ih => exact .cons (hy x) ih

theorem Edits.forall₂ {p : α → Prop} {S : α → α → Prop} (h : Edits p S l l') (hrefl : ∀ x, R x x)
    (hS : ∀ x y, S x y → R x y) : List.Forall₂ R l l' := by
  obtain rfl | ⟨i, x, y, hi, -, hxy, rfl⟩ := h
  · exact List.forall₂_same.mpr (fun x _ => hrefl x)
  · exact forall₂_set hrefl hi (hS x y hxy)

end Entrywise

end MicroOpcua.Lib.Table
