import Mathlib

namespace MicroOpcua.Lib.SortedIndex

open Std

variable {κ : Type} {cmp : κ → κ → Ordering} [TransCmp cmp] {key : Nat → κ}

section Insertion

/-- Move the entries below `position` that are above the new one up by a place, from the right, and put
`i` in the gap. -/
def insertAt (above : Nat → Bool) (i : Nat) : (order : List Nat) → (position : Nat) → List Nat
  | order, 0 => order.set 0 i
  | order, position + 1 =>
    if above (order.getD position 0) then
      insertAt above i (order.set (position + 1) (order.getD position 0)) position
    else order.set (position + 1) i

def buildOrder (above : Nat → Nat → Bool) (n : Nat) (order : List Nat) : List Nat :=
  (List.range n).foldl (fun order i => insertAt (above · i) i order i) order

variable {above : Nat → Bool} {i n : Nat} {order : List Nat}

theorem set_eq_take_append {x : Nat} (h : i < order.length) :
    order.set i x = order.take i ++ x :: order.drop (i + 1) :=
  List.set_eq_take_append_cons_drop.trans (if_pos h)

theorem insertAt_split (above : Nat → Bool) (i position : Nat) (h : position < order.length) :
    ∃ l r, order.take position = l ++ r ∧ (∀ x ∈ r, above x = true) ∧
      (∀ x ∈ l.getLast?, above x = false) ∧ insertAt above i order position =
        l ++ i :: r ++ order.drop (position + 1) := by
  induction position generalizing order with
  | zero =>
    refine ⟨[], [], rfl, by simp, by simp, ?_⟩
    simpa [insertAt] using set_eq_take_append (x := i) h
  | succ position ih =>
    have hlt : position < order.length := by omega
    have hget : order.getD position 0 = order[position] := by simp [List.getD, hlt]
    have htake : order.take (position + 1) = order.take position ++ [order[position]] := by simp
    rw [insertAt, hget]
    by_cases habove : above order[position] = true
    · have hlength : position < (order.set (position + 1) order[position]).length := by simpa using hlt
      obtain ⟨l, r, hlr, hr, hl, hresult⟩ := ih hlength
      rw [List.take_set_of_le (Nat.le_succ position)] at hlr
      refine ⟨l, r ++ [order[position]], ?_, ?_, hl, ?_⟩
      · rw [htake, hlr, List.append_assoc]
      · intro x hx
        obtain hx | hx := List.mem_append.mp hx
        · exact hr x hx
        · rw [List.mem_singleton.mp hx]
          exact habove
      · have hdrop : (order.set (position + 1) order[position]).drop (position + 1) =
            order[position] :: order.drop (position + 2) := by
          rw [set_eq_take_append h, List.drop_append_of_le_length (by simp; omega)]
          simp
        rw [if_pos habove, hresult, hdrop]
        simp
    · refine ⟨order.take (position + 1), [], (List.append_nil _).symm, by simp, ?_, ?_⟩
      · intro x hx
        rw [htake, List.getLast?_append_of_ne_nil _ (by simp)] at hx
        obtain rfl : order[position] = x := by simpa using hx
        exact Bool.not_eq_true _ ▸ habove
      · rw [if_neg habove, set_eq_take_append h]
        simp

theorem insertAt_length (position : Nat) : (insertAt above i order position).length = order.length := by
  induction position generalizing order with
  | zero => simp [insertAt]
  | succ position ih =>
    rw [insertAt]
    split
    · rw [ih, List.length_set]
    · rw [List.length_set]

theorem insertAt_take (position : Nat) (h : position < order.length) :
    ((insertAt above i order position).take (position + 1)).Perm (i :: order.take position) := by
  obtain ⟨l, r, hlr, -, -, hresult⟩ := insertAt_split above i position h
  have hlength : (l ++ i :: r).length = position + 1 := by
    have htake := congrArg List.length hlr
    simp only [List.length_take, List.length_append, List.length_cons] at htake ⊢
    omega
  rw [hresult, hlr, List.take_left' hlength]
  exact List.perm_middle

/-- The prefix stays sorted, since what is left of the gap is not above the new entry and what is right
of it is. -/
theorem insertAt_sorted (habove : ∀ x, above x = true ↔ cmp (key x) (key i) = .gt) (position : Nat)
    (h : position < order.length)
    (hsorted : (order.take position).Pairwise (fun x y => (cmp (key x) (key y)).isLE)) :
    ((insertAt above i order position).take (position + 1)).Pairwise (fun x y =>
      (cmp (key x) (key y)).isLE) := by
  obtain ⟨l, r, hlr, hr, hl, hresult⟩ := insertAt_split above i position h
  have hlength : (l ++ i :: r).length = position + 1 := by
    have htake := congrArg List.length hlr
    simp only [List.length_take, List.length_append, List.length_cons] at htake ⊢
    omega
  rw [hlr, List.pairwise_append] at hsorted
  obtain ⟨hsl, hsr, hcross⟩ := hsorted
  have hbelow (x : Nat) (hx : x ∈ l) : (cmp (key x) (key i)).isLE := by
    have hne : l ≠ [] := List.ne_nil_of_mem hx
    have hlast := hl _ (List.getLast?_eq_some_getLast hne)
    have hlast' : (cmp (key (l.getLast hne)) (key i)).isLE :=
      Ordering.isLE_iff_ne_gt.mpr (fun hgt => Bool.false_ne_true (hlast.symm.trans ((habove _).mpr hgt)))
    have hparts := List.dropLast_append_getLast hne
    rw [← hparts, List.pairwise_append] at hsl
    rw [← hparts] at hx
    obtain hx | hx := List.mem_append.mp hx
    · exact TransCmp.isLE_trans (hsl.2.2 x hx _ (List.mem_singleton_self _)) hlast'
    · rw [List.mem_singleton.mp hx]
      exact hlast'
  rw [hresult, List.take_left' hlength, List.pairwise_append, List.pairwise_cons]
  refine ⟨hsl, ⟨fun x hx => ?_, hsr⟩, ?_⟩
  · rw [OrientedCmp.gt_iff_lt.mp ((habove x).mp (hr x hx))]
    rfl
  · intro x hx y hy
    obtain rfl | hy := List.mem_cons.mp hy
    · exact hbelow x hx
    · exact hcross x hx y hy

theorem buildOrder_spec {above : Nat → Nat → Bool}
    (habove : ∀ x i, above x i = true ↔ cmp (key x) (key i) = .gt) (h : n ≤ order.length) :
    (buildOrder above n order).length = order.length ∧
      ((buildOrder above n order).take n).Perm (List.range n) ∧
      ((buildOrder above n order).take n).Pairwise (fun x y => (cmp (key x) (key y)).isLE) := by
  induction n with
  | zero => exact ⟨rfl, .nil, .nil⟩
  | succ n ih =>
    obtain ⟨hlength, hperm, hsorted⟩ := ih (by omega)
    have hstep :
        buildOrder above (n + 1) order = insertAt (above · n) n (buildOrder above n order) n := by
      simp [buildOrder, List.range_succ]
    have hlt : n < (buildOrder above n order).length := by omega
    rw [hstep]
    refine ⟨(insertAt_length n).trans hlength, ?_, insertAt_sorted (fun x => habove x n) n hlt hsorted⟩
    rw [List.range_succ]
    calc ((insertAt (above · n) n (buildOrder above n order) n).take (n + 1)).Perm
          (n :: (buildOrder above n order).take n) := insertAt_take n hlt
      _ |>.Perm (n :: List.range n) := hperm.cons n
      _ |>.Perm (List.range n ++ [n]) := (List.perm_append_singleton n _).symm

end Insertion

section Search

def search (test : Nat → Ordering) (order : List Nat) (left right : Nat) : Option Nat :=
  if left < right then
    let mid := left + (right - left) / 2
    match test (order.getD mid 0) with
    | .lt => search test order (mid + 1) right
    | .gt => search test order left mid
    | .eq => some (order.getD mid 0)
  else none
termination_by right - left

variable {test : Nat → Ordering} {k : κ} {order : List Nat} {count : Nat}

/-- What the search keeps: entries left of the interval are below what is sought, those right of it
above. -/
theorem search_between (left right : Nat) (htest : ∀ j, test j = cmp (key j) k)
    (hsorted : ∀ p q, p ≤ q → q < count → (cmp (key (order.getD p 0)) (key (order.getD q 0))).isLE)
    (hright : right ≤ count) (hbelow : ∀ p, p < left → test (order.getD p 0) = .lt)
    (habove : ∀ p, right ≤ p → p < count → test (order.getD p 0) = .gt) :
    match search test order left right with
    | some j => test j = .eq ∧ ∃ p, p < count ∧ order.getD p 0 = j
    | none => ∀ p, p < count → test (order.getD p 0) ≠ .eq := by
  fun_induction search test order left right with
  | case1 left right hlr mid hcmp ih =>
    refine ih hright (fun p hp => ?_) habove
    rw [htest] at hcmp ⊢
    exact TransCmp.lt_of_isLE_of_lt (hsorted p mid (by omega) (by omega)) hcmp
  | case2 left right hlr mid hcmp ih =>
    refine ih (by omega) hbelow (fun p hp hcount => ?_)
    rw [htest] at hcmp ⊢
    apply OrientedCmp.gt_iff_lt.mpr
    exact TransCmp.lt_of_lt_of_isLE (OrientedCmp.gt_iff_lt.mp hcmp) (hsorted mid p hp hcount)
  | case3 left right hlr mid hcmp => exact ⟨hcmp, mid, by omega, rfl⟩
  | case4 left right hlr =>
    intro p hp
    by_cases hleft : p < left
    · rw [hbelow p hleft]
      exact Ordering.noConfusion
    · rw [habove p (by omega) hp]
      exact Ordering.noConfusion

/-- The search of a whole sorted array finds an entry that compares equal, or there is none. -/
theorem search_spec (htest : ∀ j, test j = cmp (key j) k) (hcount : count ≤ order.length)
    (hsorted : (order.take count).Pairwise (fun x y => (cmp (key x) (key y)).isLE)) :
    match search test order 0 count with
    | some j => test j = .eq ∧ j ∈ order.take count
    | none => ∀ j ∈ order.take count, test j ≠ .eq := by
  have hget (p : Nat) (hp : p < count) : (order.take count)[p]? = some (order.getD p 0) := by
    rw [List.getElem?_take_of_lt hp, List.getD_eq_getElem?_getD, List.getElem?_eq_getElem (by omega)]
    rfl
  have hle (p q : Nat) (hpq : p ≤ q) (hq : q < count) :
      (cmp (key (order.getD p 0)) (key (order.getD q 0))).isLE := by
    obtain rfl | hlt := Nat.eq_or_lt_of_le hpq
    · have hself : cmp (key (order.getD p 0)) (key (order.getD p 0)) = .eq := ReflCmp.compare_self
      rw [hself]
      rfl
    · obtain ⟨hlp, hp⟩ := List.getElem?_eq_some_iff.mp (hget p (by omega))
      obtain ⟨hlq, hq⟩ := List.getElem?_eq_some_iff.mp (hget q hq)
      have hpairs := List.pairwise_iff_getElem.mp hsorted p q hlp hlq hlt
      rw [hp, hq] at hpairs
      exact hpairs
  have hsearch := search_between 0 count htest hle (Nat.le_refl _) (fun p hp => by omega)
    (fun p hp hlt => by omega)
  split at hsearch
  · obtain ⟨heq, p, hp, rfl⟩ := hsearch
    exact ⟨heq, List.mem_of_getElem? (hget p hp)⟩
  · intro j hj
    obtain ⟨p, hp⟩ := List.mem_iff_getElem?.mp hj
    have hlt : p < count := by
      have hlength := (List.getElem?_eq_some_iff.mp hp).1
      rw [List.length_take] at hlength
      omega
    rw [hget p hlt] at hp
    obtain rfl := Option.some.inj hp
    exact hsearch p hlt

end Search

end MicroOpcua.Lib.SortedIndex
