import MicroOpcua.AddressSpace.Space
import MicroOpcua.Lib.SortedIndex

namespace MicroOpcua

open Std Lib.SortedIndex

variable {W : Type} {capacity : Nat}

/-- `mu_address_space_index_t` with room for `capacity` nodes (`MU_MAX_ADDRESS_SPACE_NODES`). The entries
are 16-bit numbers; only indices below 2^16 are stored. -/
structure SpaceIndex (capacity : Nat) where
  order : List Nat
  count : Nat
  indexed : Bool
  builtFor : Option SpaceRef
  builtCount : Nat
  sized : order.length = capacity

def SpaceIndex.init : SpaceIndex capacity where
  order := List.replicate capacity 0
  count := 0
  indexed := false
  builtFor := none
  builtCount := 0
  sized := List.length_replicate

def CArray.above (space : AddressSpace W) (previous current : Nat) : Bool :=
  (space.idAt previous).compareDirect (space.idAt current) = .gt

theorem buildOrder_length (above : Nat → Nat → Bool) (n : Nat) (order : List Nat) :
    (buildOrder above n order).length = order.length := by
  induction n with
  | zero => rfl
  | succ n ih =>
    have hstep :
        buildOrder above (n + 1) order = insertAt (above · n) n (buildOrder above n order) n := by
      simp [buildOrder, List.range_succ]
    rw [hstep, insertAt_length, ih]

def rebuildIndex (m : Spaces W) (a : SpaceRef) (index : SpaceIndex capacity) : SpaceIndex capacity :=
  let space := m.get a
  if space.count > capacity ∨ space.count > 0xffff then
    { index with builtFor := some a, builtCount := space.count, count := 0, indexed := false }
  else
    { order := buildOrder space.above space.count index.order
      count := space.count
      indexed := true
      builtFor := some a
      builtCount := space.count
      sized := (buildOrder_length _ _ _).trans index.sized }

def findNodeLinear (space : AddressSpace W) (id : RawNodeId) : Option Nat :=
  space.items.findIdx? (fun node => node.nodeId.equal id)

def findNodeIndexed (space : AddressSpace W) (index : SpaceIndex capacity)
    (id : RawNodeId) : Option Nat :=
  search (fun j => (space.idAt j).compareDirect id) index.order 0 index.count

def findNodeBinaryDirect (space : AddressSpace W) (id : RawNodeId) : Option Nat :=
  search (fun j => (space.idAt j).compareDirect id) (List.range space.count) 0 space.count

def findNodeDirect (m : Spaces W) (a : SpaceRef) (id : RawNodeId) : Option Nat :=
  if (m.get a).data = none then none
  else if a = .base then findNodeBinaryDirect (m.get a) id
  else findNodeLinear (m.get a) id

/-- The index a lookup works with: it is built again unless it was built for this address and this
count. -/
def currentIndex (m : Spaces W) (a : SpaceRef) (index : SpaceIndex capacity) : SpaceIndex capacity :=
  if index.builtFor ≠ some a ∨ index.builtCount ≠ (m.get a).count then rebuildIndex m a index else index

def findNode (m : Spaces W) (a : SpaceRef) (id : RawNodeId) (index : SpaceIndex capacity) :
    Option Nat × SpaceIndex capacity :=
  if (m.get a).data = none then (none, index)
  else if (currentIndex m a index).indexed then
    (findNodeIndexed (m.get a) (currentIndex m a index) id, currentIndex m a index)
  else (findNodeLinear (m.get a) id, currentIndex m a index)

def validate (m : Spaces W) (a : SpaceRef) : Except Fault Unit :=
  let space := m.get a
  if space.data = none ∧ space.count > 0 then .error .internalError
  else if (List.range space.count).any (fun i => (List.range space.count).any (fun j =>
      decide (i < j) && (space.idAt i).equal (space.idAt j))) then .error .internalError
  else if space.items.any (fun node => (node.references.count > 0 && node.references.data.isNone) ||
      node.references.items.any (fun r => (findNodeDirect m a r.targetId).isNone)) then
        .error .internalError
  else .ok ()

def findUserNode (m : Spaces W) (user : Option SpaceRef) (id : RawNodeId) (index : SpaceIndex capacity) :
    Option (SpaceRef × Nat) × SpaceIndex capacity :=
  match user with
  | none => (none, index)
  | some a =>
    match findNode m a id index with
    | (i, index) => (i.map (a, ·), index)

def resolveNode (m : Spaces W) (user extra : Option SpaceRef) (id : RawNodeId)
    (index : SpaceIndex capacity) : Option (SpaceRef × Nat) × SpaceIndex capacity :=
  match findUserNode m user id index with
  | (some p, index) => (some p, index)
  | (none, index) =>
    match extra.bind (fun a => (findNodeDirect m a id).map (a, ·)) with
    | some p => (some p, index)
    | none => ((findNodeDirect m .base id).map (.base, ·), index)

section Linear

variable {m : Spaces W} {a : SpaceRef} {space : AddressSpace W} {id : RawNodeId}
    {index : SpaceIndex capacity}

def CArray.Distinct (space : AddressSpace W) : Prop :=
  ∀ i j, i < j → j < space.count → (space.idAt i).equal (space.idAt j) = false

theorem CArray.items_length (h : space.data ≠ none) : space.items.length = space.count := by
  obtain ⟨l, hl⟩ := Option.ne_none_iff_exists'.mp h
  rw [CArray.items, hl]
  exact space.sized l hl

theorem CArray.idAt_eq {i : Nat} (hi : i < space.items.length) :
    space.idAt i = space.items[i].nodeId := by
  simp [CArray.idAt, hi]

theorem findNodeLinear_eq_some_iff {i : Nat} : findNodeLinear space id = some i ↔
    i < space.items.length ∧ (space.idAt i).equal id = true ∧ ∀ j, j < i →
      (space.idAt j).equal id = false := by
  unfold findNodeLinear
  rw [List.findIdx?_eq_some_iff_getElem]
  constructor
  · rintro ⟨hi, hequal, hfirst⟩
    refine ⟨hi, ?_, fun j hj => ?_⟩
    · rw [CArray.idAt_eq hi]
      exact hequal
    · rw [CArray.idAt_eq (hj.trans hi)]
      exact Bool.eq_false_iff.mpr (hfirst j hj)
  · rintro ⟨hi, hequal, hfirst⟩
    rw [CArray.idAt_eq hi] at hequal
    refine ⟨hi, hequal, fun j hj => ?_⟩
    have hj' := hfirst j hj
    rw [CArray.idAt_eq (hj.trans hi)] at hj'
    exact Bool.eq_false_iff.mp hj'

theorem findNodeLinear_eq_none_iff : findNodeLinear space id = none ↔
    ∀ j, j < space.items.length → (space.idAt j).equal id = false := by
  unfold findNodeLinear
  rw [List.findIdx?_eq_none_iff]
  constructor
  · intro h j hj
    rw [CArray.idAt_eq hj]
    exact h _ (List.getElem_mem hj)
  · intro h node hnode
    obtain ⟨j, hj, rfl⟩ := List.mem_iff_getElem.mp hnode
    have hequal := h j hj
    rw [CArray.idAt_eq hj] at hequal
    exact hequal

theorem search_eq_linear {order : List Nat} (hdata : space.data ≠ none) (hdistinct : space.Distinct)
    (hcount : space.count ≤ order.length)
    (hperm : (order.take space.count).Perm (List.range space.count))
    (hsorted : (order.take space.count).Pairwise (fun x y =>
      ((space.idAt x).compareDirect (space.idAt y)).isLE))
    (hid : id.Supported) :
    search (fun j => (space.idAt j).compareDirect id) order 0 space.count = findNodeLinear space id := by
  have hlength := CArray.items_length hdata
  have hspec := search_spec (k := id) (fun j => rfl) hcount hsorted
  split at hspec
  · rename_i i hi
    obtain ⟨heq, hmem⟩ := hspec
    have hlt : i < space.count := List.mem_range.mp (hperm.mem_iff.mp hmem)
    rw [hi]
    refine (findNodeLinear_eq_some_iff.mpr ⟨hlength ▸ hlt, (RawNodeId.equal_iff _ hid).mpr heq, ?_⟩).symm
    intro j hj
    refine Bool.eq_false_iff.mpr (fun hequal => ?_)
    have hboth : (space.idAt j).compareDirect (space.idAt i) = .eq :=
      TransCmp.eq_trans ((RawNodeId.equal_iff _ hid).mp hequal) (OrientedCmp.eq_symm heq)
    have htwice := (RawNodeId.equal_iff _ (hid.of_compare heq)).mpr hboth
    exact Bool.false_ne_true ((hdistinct j i hj hlt).symm.trans htwice)
  · rename_i hi
    rw [hi]
    refine (findNodeLinear_eq_none_iff.mpr (fun j hj => ?_)).symm
    have hne := hspec j (hperm.mem_iff.mpr (List.mem_range.mpr (hlength ▸ hj)))
    exact Bool.eq_false_iff.mpr (fun hequal => hne ((RawNodeId.equal_iff _ hid).mp hequal))

end Linear

end MicroOpcua
