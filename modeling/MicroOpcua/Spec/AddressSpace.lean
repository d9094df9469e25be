import MicroOpcua.AddressSpace.Lookup

namespace MicroOpcua

open Std Lib.SortedIndex

variable {W : Type} {capacity : Nat} {m : Spaces W} {a : SpaceRef} {id : RawNodeId}
    {index : SpaceIndex capacity}

section Base

theorem BaseFlags.rows_sorted (f : BaseFlags) : (f.rows.map BaseRow.id).Pairwise (· < ·) := by
  have hrows : ∀ typeSystem standard,
      ((BaseFlags.rows ⟨true, typeSystem, standard⟩).map BaseRow.id).Pairwise (· < ·) := by decide
  exact hrows f.baseTypeSystem f.subscriptionsStandard

theorem BaseFlags.baseSpace_idAt {f : BaseFlags} (hbase : f.baseNodes = true) (i : Nat) :
    (f.baseSpace : AddressSpace W).idAt i = .ns0 ((f.rows.map BaseRow.id)[i]?.getD 0) := by
  unfold CArray.idAt BaseFlags.baseSpace
  rw [if_pos hbase]
  simp only [CArray.items, CArray.ofList, Option.getD_some, List.getElem?_map]
  cases f.rows[i]? with
  | none => rfl
  | some r => rfl

theorem BaseFlags.baseSpace_lt {f : BaseFlags} (hbase : f.baseNodes = true) {i j : Nat} (hij : i < j)
    (hj : j < (f.baseSpace : AddressSpace W).count) :
    ((f.baseSpace : AddressSpace W).idAt i).compareDirect ((f.baseSpace : AddressSpace W).idAt j) =
      .lt := by
  have hcount : (f.baseSpace : AddressSpace W).count = (f.rows.map BaseRow.id).length := by
    unfold BaseFlags.baseSpace
    rw [if_pos hbase]
    simp [CArray.ofList]
  rw [hcount] at hj
  have hlt := List.pairwise_iff_getElem.mp f.rows_sorted i j (hij.trans hj) hj hij
  rw [baseSpace_idAt hbase, baseSpace_idAt hbase, List.getElem?_eq_getElem hj,
    List.getElem?_eq_getElem (hij.trans hj)]
  have hcompare : compare (f.rows.map BaseRow.id)[i] (f.rows.map BaseRow.id)[j] = .lt := by
    rw [Std.compare_eq_lt]
    exact hlt
  exact hcompare

theorem findNodeDirect_eq_linear (m : Spaces W) (a : SpaceRef) (hid : id.Supported) :
    findNodeDirect m a id = findNodeLinear (m.get a) id := by
  unfold findNodeDirect
  by_cases hdata : (m.get a).data = none
  · have hitems : (m.get a).items = [] := by rw [CArray.items, hdata, Option.getD_none]
    rw [if_pos hdata, findNodeLinear, hitems]
    rfl
  rw [if_neg hdata]
  by_cases ha : a = .base
  · subst ha
    have hbase : m.flags.baseNodes = true := by
      by_contra hbase
      exact hdata (by simp [Spaces.get, BaseFlags.baseSpace, hbase, CArray.null])
    have htake :
        (List.range (m.get .base).count).take (m.get .base).count = List.range (m.get .base).count :=
      List.take_of_length_le (Nat.le_of_eq List.length_range)
    rw [if_pos rfl]
    apply search_eq_linear hdata
    · intro i j hij hj
      have hne : ((m.get .base).idAt i).compareDirect ((m.get .base).idAt j) ≠ .eq :=
        ne_of_eq_of_ne (BaseFlags.baseSpace_lt hbase hij hj) Ordering.noConfusion
      have hsupported : ((m.get .base).idAt j).Supported := by
        rw [Spaces.get, BaseFlags.baseSpace_idAt hbase]
        exact Nat.zero_le 1
      exact Bool.eq_false_iff.mpr (fun hequal => hne ((RawNodeId.equal_iff _ hsupported).mp hequal))
    · exact Nat.le_of_eq List.length_range.symm
    · rw [htake]
    · rw [htake]
      refine List.pairwise_iff_getElem.mpr (fun i j hi hj hij => ?_)
      rw [List.length_range] at hj
      have hlt := BaseFlags.baseSpace_lt (W := W) hbase hij hj
      rw [List.getElem_range, List.getElem_range, Spaces.get, hlt]
      rfl
    · exact hid
  · rw [if_neg ha]

end Base

section Index

structure SpaceIndex.Sound (m : Spaces W) (index : SpaceIndex capacity) : Prop where
  order : ∀ a, index.builtFor = some a → index.builtCount = (m.get a).count → index.indexed = true →
    index.count = (m.get a).count ∧ index.count ≤ capacity ∧
      (index.order.take index.count).Perm (List.range index.count) ∧
      (index.order.take index.count).Pairwise
        (fun x y => (((m.get a).idAt x).compareDirect ((m.get a).idAt y)).isLE)

theorem SpaceIndex.init_sound : (SpaceIndex.init : SpaceIndex capacity).Sound m := ⟨nofun⟩

theorem rebuildIndex_sound (m : Spaces W) (a : SpaceRef) (index : SpaceIndex capacity) :
    (rebuildIndex m a index).Sound m := by
  unfold rebuildIndex
  dsimp only
  split
  · exact ⟨nofun⟩
  · rename_i hfits
    have hcapacity : (m.get a).count ≤ capacity := by omega
    have habove (x i : Nat) : (m.get a).above x i = true ↔
        ((m.get a).idAt x).compareDirect ((m.get a).idAt i) = .gt := decide_eq_true_iff
    obtain ⟨-, hperm, hsorted⟩ := buildOrder_spec habove (hcapacity.trans_eq index.sized.symm)
    refine ⟨fun a' ha' _ _ => ?_⟩
    obtain rfl := Option.some.inj ha'
    exact ⟨rfl, hcapacity, hperm, hsorted⟩

theorem SpaceIndex.Sound.current (h : index.Sound m) (a : SpaceRef) :
    (currentIndex m a index).Sound m := by
  unfold currentIndex
  split
  · exact rebuildIndex_sound m a index
  · exact h

theorem findNode_index (m : Spaces W) (a : SpaceRef) (id : RawNodeId) (index : SpaceIndex capacity) :
    (findNode m a id index).2 = index ∨ (findNode m a id index).2 = currentIndex m a index := by
  unfold findNode
  split
  · exact .inl rfl
  · split
    · exact .inr rfl
    · exact .inr rfl

def IndexRuns (m : Spaces W) : SpaceIndex capacity → SpaceIndex capacity → Prop :=
  Relation.ReflTransGen (fun i j => ∃ a id, (findNode m a id i).2 = j)

theorem IndexRuns.sound {i j : SpaceIndex capacity} (h : IndexRuns m i j)
    (hi : i.Sound m) : j.Sound m := by
  induction h with
  | refl => exact hi
  | tail _ hstep ih =>
    obtain ⟨a, id, rfl⟩ := hstep
    obtain hsame | hcurrent := findNode_index m a id _
    · rw [hsame]
      exact ih
    · rw [hcurrent]
      exact ih.current a

theorem currentIndex_builtFor (m : Spaces W) (a : SpaceRef) (index : SpaceIndex capacity) :
    (currentIndex m a index).builtFor = some a ∧ (currentIndex m a index).builtCount =
      (m.get a).count := by
  unfold currentIndex
  split
  · unfold rebuildIndex
    dsimp only
    split
    · exact ⟨rfl, rfl⟩
    · exact ⟨rfl, rfl⟩
  · rename_i hcurrent
    exact ⟨not_not.mp (fun h => hcurrent (.inl h)), not_not.mp (fun h => hcurrent (.inr h))⟩

theorem validate_distinct (h : validate m a = .ok ()) : (m.get a).Distinct := by
  intro i j hij hj
  unfold validate at h
  dsimp only at h
  split at h
  · cases h
  · split at h
    · cases h
    · rename_i hdistinct
      refine Bool.eq_false_iff.mpr (fun hequal => hdistinct ?_)
      refine List.any_eq_true.mpr ⟨i, List.mem_range.mpr (hij.trans hj), ?_⟩
      refine List.any_eq_true.mpr ⟨j, List.mem_range.mpr hj, ?_⟩
      rw [hequal, decide_eq_true hij]
      rfl

theorem findNode_eq_linear (hindex : index.Sound m) (hvalid : validate m a = .ok ())
    (hid : id.Supported) : (findNode m a id index).1 = findNodeLinear (m.get a) id := by
  unfold findNode
  by_cases hdata : (m.get a).data = none
  · have hitems : (m.get a).items = [] := by rw [CArray.items, hdata, Option.getD_none]
    rw [if_pos hdata, findNodeLinear, hitems]
    rfl
  rw [if_neg hdata]
  by_cases hindexed : (currentIndex m a index).indexed = true
  · obtain ⟨hfor, hbuilt⟩ := currentIndex_builtFor m a index
    obtain ⟨hcount, hcapacity, hperm, hsorted⟩ := (hindex.current a).order a hfor hbuilt hindexed
    rw [if_pos hindexed]
    unfold findNodeIndexed
    rw [hcount] at hcapacity hperm hsorted ⊢
    exact search_eq_linear hdata (validate_distinct hvalid)
      (hcapacity.trans_eq (currentIndex m a index).sized.symm) hperm hsorted hid
  · rw [if_neg hindexed]

end Index

section Resolve

/-- The first of these address spaces with a node of this id, and the slot of its first such node. -/
def firstMatch (m : Spaces W) (spaces : List SpaceRef) (id : RawNodeId) : Option (SpaceRef × Nat) :=
  spaces.findSome? (fun a => (findNodeLinear (m.get a) id).map (a, ·))

theorem resolveNode_eq_firstMatch {user extra : Option SpaceRef} (hindex : index.Sound m)
    (hvalid : ∀ a ∈ user, validate m a = .ok ()) (hid : id.Supported) :
    (resolveNode m user extra id index).1 =
      firstMatch m (user.toList ++ extra.toList ++ [.base]) id := by
  have huser : (findUserNode m user id index).1 = firstMatch m user.toList id := by
    cases user with
    | none => rfl
    | some a =>
      have hfind := findNode_eq_linear hindex (hvalid a rfl) hid
      simp only [findUserNode, firstMatch, Option.toList, List.findSome?_singleton, hfind]
  have hextra :
      extra.bind (fun a => (findNodeDirect m a id).map (a, ·)) = firstMatch m extra.toList id := by
    cases extra with
    | none => rfl
    | some a => simp only [Option.bind_some, firstMatch, Option.toList, List.findSome?_singleton,
        findNodeDirect_eq_linear m a hid]
  have hbase : (findNodeDirect m .base id).map (SpaceRef.base, ·) = firstMatch m [.base] id := by
    simp only [firstMatch, List.findSome?_singleton, findNodeDirect_eq_linear m .base hid]
  have happend (l l' : List SpaceRef) :
      firstMatch m (l ++ l') id = (firstMatch m l id).or (firstMatch m l' id) :=
    List.findSome?_append
  rw [happend, happend, ← huser, ← hextra, ← hbase]
  unfold resolveNode
  split
  · rename_i p _ hp
    rw [hp]
    rfl
  · rename_i _ hp
    rw [hp]
    split
    · rename_i q hq
      rw [hq]
      rfl
    · rename_i hq
      rw [hq]
      rfl

/-- After any lookups, a lookup with the index in a valid address space is the scan of its nodes, and
resolving a NodeId gives its first match in the user, the extra and the base address space, in this
order. -/
theorem indexed_lookup_is_scan (m : Spaces W) {index : SpaceIndex capacity}
    (hruns : IndexRuns m .init index) {id : RawNodeId} (hid : id.Supported) :
    (∀ a, validate m a = .ok () → (findNode m a id index).1 = findNodeLinear (m.get a) id) ∧
      ∀ user extra, (∀ a ∈ user, validate m a = .ok ()) →
        (resolveNode m user extra id index).1 =
          firstMatch m (user.toList ++ extra.toList ++ [.base]) id :=
  have hindex := hruns.sound SpaceIndex.init_sound
  ⟨fun _ hvalid => findNode_eq_linear hindex hvalid hid,
    fun _ _ hvalid => resolveNode_eq_firstMatch hindex hvalid hid⟩

/-- Two nodes out of order, an index that holds them in order after a first lookup, and the base nodes
behind them. -/
theorem indexed_lookup_is_scan_two_nodes :
    let node (id : UInt32) : SpaceNode Unit := ⟨⟨none⟩, .ns0 id, 1, none, none, .null⟩
    let m : Spaces Unit := ⟨⟨true, false, false⟩, fun _ => .ofList [node 9000, node 7000]⟩
    let index : SpaceIndex 4 := (findNode m (.other 0) (.ns0 1) .init).2
    validate m (.other 0) = .ok () ∧
      (findNode m (.other 0) (.ns0 7000) index).1 = findNodeLinear (m.get (.other 0)) (.ns0 7000) ∧
      (resolveNode m (some (.other 0)) none (.ns0 85) index).1 =
        firstMatch m [.other 0, .base] (.ns0 85) := by
  intro node m index
  have hvalid : validate m (.other 0) = .ok () := rfl
  have hruns : IndexRuns m .init index := .single ⟨.other 0, .ns0 1, rfl⟩
  have hscan (n : UInt32) :=
    indexed_lookup_is_scan m hruns (show (RawNodeId.ns0 n).Supported from Nat.zero_le 1)
  refine ⟨hvalid, (hscan 7000).1 _ hvalid, (hscan 85).2 (some (.other 0)) none ?_⟩
  intro a ha
  obtain rfl := Option.some.inj ha
  exact hvalid

end Resolve

end MicroOpcua
