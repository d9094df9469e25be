import MicroOpcua.Lib.Slots
import MicroOpcua.Services.Engine
import MicroOpcua.Services.ItemLaws

namespace MicroOpcua

open Lib.StateRun Lib.Table Lib.Slots

variable {W : Type} {b : Build}

section Allocator

/-- The `k`-th id an allocator tries from `next` on: it goes through 1, …, 2^32 - 1 in a circle. -/
def candidateId (next : UInt32) (k : Nat) : UInt32 :=
  UInt32.ofNat (((if next = 0 then 1 else next).toNat - 1 + k) % (2 ^ 32 - 1) + 1)

theorem candidateId_toNat (next : UInt32) (k : Nat) :
    (candidateId next k).toNat = ((if next = 0 then 1 else next).toNat - 1 + k) % (2 ^ 32 - 1) + 1 := by
  rw [candidateId, UInt32.toNat_ofNat', Nat.mod_eq_of_lt]
  omega

theorem candidateId_zero (next : UInt32) : candidateId next 0 = if next = 0 then 1 else next := by
  apply UInt32.toNat_inj.mp
  rw [candidateId_toNat]
  generalize hid : (if next = 0 then 1 else next : UInt32) = id
  have hpos : id ≠ 0 := by
    rw [← hid]
    split
    · decide
    · assumption
  have hne : id.toNat ≠ 0 := fun h => hpos (UInt32.toNat_inj.mp h)
  have := id.toNat_lt
  omega

theorem candidateId_succ (next : UInt32) (k : Nat) :
    candidateId (if candidateId next 0 + 1 = 0 then 1 else candidateId next 0 + 1) k =
      candidateId next (k + 1) := by
  apply UInt32.toNat_inj.mp
  rw [candidateId_toNat, candidateId_toNat]
  have hid := candidateId_toNat next 0
  rw [candidateId_zero] at hid ⊢
  generalize (if next = 0 then 1 else next : UInt32) = id at hid ⊢
  have hlt := id.toNat_lt
  by_cases hwrap : id + 1 = 0
  · have hmax : (id.toNat + 1) % 2 ^ 32 = 0 := by simpa using congrArg UInt32.toNat hwrap
    rw [if_pos hwrap, if_neg (by decide)]
    have hone : (1 : UInt32).toNat = 1 := rfl
    rw [hone]
    omega
  · have hmax : (id + 1).toNat ≠ 0 := fun h => hwrap (UInt32.toNat_inj.mp h)
    rw [if_neg hwrap, if_neg hwrap]
    have hadd : (id + 1).toNat = (id.toNat + 1) % 2 ^ 32 := UInt32.toNat_add id 1
    rw [hadd] at hmax ⊢
    omega

theorem candidateId_injective {next : UInt32} {k k' : Nat} (hk : k < 2 ^ 32 - 1) (hk' : k' < 2 ^ 32 - 1)
    (h : candidateId next k = candidateId next k') : k = k' := by
  have h := congrArg UInt32.toNat h
  rw [candidateId_toNat, candidateId_toNat] at h
  generalize (if next = 0 then 1 else next : UInt32).toNat - 1 = n at h
  omega

theorem allocateId_cases (inUse : UInt32 → Bool) (tries : Nat) (next : UInt32) :
    (allocateId inUse tries next).1 ≠ 0 ∧ inUse (allocateId inUse tries next).1 = false ∨
      ∀ k < tries, inUse (candidateId next k) = true := by
  induction tries generalizing next with
  | zero => exact .inr (fun k hk => absurd hk (Nat.not_lt_zero k))
  | succ n ih =>
    unfold allocateId
    dsimp only
    rw [← candidateId_zero next]
    by_cases hused : inUse (candidateId next 0) = true
    · rw [if_pos hused]
      obtain hfree | htaken := ih (if candidateId next 0 + 1 = 0 then 1 else candidateId next 0 + 1)
      · exact .inl hfree
      · refine .inr (fun k hk => ?_)
        cases k with
        | zero => exact hused
        | succ k =>
          rw [← candidateId_succ]
          exact htaken k (by omega)
    · rw [if_neg hused]
      refine .inl ⟨fun hzero => ?_, by simpa using hused⟩
      have hzero : candidateId next 0 = 0 := hzero
      have hid := candidateId_toNat next 0
      rw [hzero] at hid
      cases hid

/-- With more tries than ids in use, and no more tries than ids, the allocators find a free one. -/
theorem allocateId_fresh (inUse : UInt32 → Bool) {used : List UInt32}
    (hused : ∀ id, inUse id = true → id ∈ used) (tries : Nat) (hlt : used.length < tries)
    (hle : used.length < 2 ^ 32 - 1) (next : UInt32) :
    (allocateId inUse tries next).1 ≠ 0 ∧ inUse (allocateId inUse tries next).1 = false := by
  obtain hfree | htaken := allocateId_cases inUse tries next
  · exact hfree
  · -- the first `used.length + 1` candidates are different ids in use
    exfalso
    have hnodup : ((List.range (used.length + 1)).map (candidateId next)).Nodup := by
      refine List.Nodup.map_on (fun k hk k' hk' h => ?_) List.nodup_range
      rw [List.mem_range] at hk hk'
      exact candidateId_injective (by omega) (by omega) h
    have hsubset : (List.range (used.length + 1)).map (candidateId next) ⊆ used := by
      intro id hid
      obtain ⟨k, hk, rfl⟩ := List.mem_map.mp hid
      rw [List.mem_range] at hk
      exact hused _ (htaken k (by omega))
    have hlen := (hnodup.subperm hsubset).length_le
    rw [List.length_map, List.length_range] at hlen
    omega

end Allocator

section Edits

variable {subs : List Subscription} {items : ItemList W} {i : Nat} {f : Subscription → Subscription}

def Subscription.Named (sessionId subscriptionId : UInt32) (sub : Subscription) : Prop :=
  sub.inUse = true ∧ sub.sessionId = sessionId ∧ sub.subscriptionId = subscriptionId

instance (sessionId subscriptionId : UInt32) :
    DecidablePred (Subscription.Named sessionId subscriptionId) :=
  fun sub => inferInstanceAs (Decidable (sub.inUse = true ∧ sub.sessionId = sessionId ∧ _))

def MonitoredItem.Named (subscriptionId itemId : UInt32) (item : MonitoredItem W) : Prop :=
  item.inUse = true ∧ item.subscriptionId = subscriptionId ∧ item.monitoredItemId = itemId

variable {sessionId subId itemId : UInt32}

theorem subscriptionFind_eq_some (h : subscriptionFind subs sessionId subId = some i) :
    ∃ sub, subs[i]? = some sub ∧ sub.Named sessionId subId := by
  obtain ⟨hlt, hfound, -⟩ := List.findIdx?_eq_some_iff_getElem.mp h
  simp only [Bool.and_eq_true, decide_eq_true_eq] at hfound
  exact ⟨subs[i], List.getElem?_eq_getElem hlt, hfound.1.1, hfound.1.2, hfound.2⟩

theorem findMonitoredItemInSubscription_eq_some
    (h : findMonitoredItemInSubscription items subId itemId = some i) :
    ∃ item, items[i]? = some item ∧ item.Named subId itemId := by
  obtain ⟨hlt, hfound, -⟩ := List.findIdx?_eq_some_iff_getElem.mp h
  simp only [Bool.and_eq_true, decide_eq_true_eq] at hfound
  exact ⟨items[i], List.getElem?_eq_getElem hlt, hfound.1.1, hfound.1.2, hfound.2⟩

theorem findMonitoredItemFrom_eq_some {active index : Nat}
    (h : findMonitoredItemFrom subId itemId items active index = some i) :
    ∃ j item, i = index + j ∧ items[j]? = some item ∧ item.Named subId itemId := by
  induction items generalizing active index with
  | nil => cases h
  | cons item items ih =>
    have hlater {active : Nat}
      (h : findMonitoredItemFrom subId itemId items active (index + 1) = some i) :
        ∃ j item', i = index + j ∧ (item :: items)[j]? = some item' ∧ item'.Named subId itemId := by
      obtain ⟨j, item', rfl, hj, hitem⟩ := ih h
      exact ⟨j + 1, item', by omega, hj, hitem⟩
    unfold findMonitoredItemFrom at h
    split at h
    · cases h
    · split at h
      · exact hlater h
      · rename_i hin
        split at h
        · rename_i hfound
          exact ⟨0, item, (Option.some.inj h).symm, rfl, by simpa using hin, hfound⟩
        · exact hlater h

theorem findMonitoredItem_eq_some {t : ItemTable W} (h : findMonitoredItem t subId itemId = some i) :
    ∃ item, t.monitoredItems[i]? = some item ∧ item.Named subId itemId := by
  obtain ⟨j, item, rfl, hj, hitem⟩ := findMonitoredItemFrom_eq_some h
  exact ⟨item, by rwa [Nat.zero_add], hitem⟩

theorem subscriptionUpdate_edits (subs : List Subscription) (sessionId subId : UInt32)
    (f : Subscription → Subscription) :
    Edits (Subscription.Named sessionId subId) (fun sub sub' => sub' = f sub) subs
      (subscriptionUpdate subs sessionId subId f).2 := by
  unfold subscriptionUpdate
  split
  · exact .inl rfl
  · rename_i i hfind
    obtain ⟨sub, hi, hsub⟩ := subscriptionFind_eq_some hfind
    exact .modify hi hsub rfl

theorem subscriptionAcknowledge_edits (subs : List Subscription) (sessionId subId number : UInt32) :
    Edits (Subscription.Named sessionId subId)
      (fun sub sub' => sub.retransmit.valid = true ∧ sub.retransmit.sequenceNumber = number ∧
        sub' = { sub with retransmit := { sub.retransmit with valid := false, message := [] } })
      subs (subscriptionAcknowledge subs sessionId subId number).2 := by
  unfold subscriptionAcknowledge
  split
  · exact .inl rfl
  · rename_i i hfind
    obtain ⟨sub, hi, hsub⟩ := subscriptionFind_eq_some hfind
    split
    · rename_i hretained
      rw [hi, Option.any_some, Bool.and_eq_true, decide_eq_true_eq] at hretained
      exact .modify hi hsub ⟨hretained.1, hretained.2, rfl⟩
    · exact .inl rfl

theorem modifyItem_edits (subId : UInt32) (body : ModifyBody) (t : ItemTable W) :
    ∃ items, (modifyItem b subId body t).2 = { t with monitoredItems := items } ∧
      Edits (MonitoredItem.Named subId body.monitoredItemId) (fun item item' => ∃ sampling handle,
          item' = { item with samplingIntervalMs := sampling, clientHandle := handle })
            t.monitoredItems items := by
  unfold modifyItem
  split
  · exact ⟨_, rfl, .inl rfl⟩
  · rename_i i hfind
    split
    · exact ⟨_, rfl, .inl rfl⟩
    · split
      · exact ⟨_, rfl, .inl rfl⟩
      · obtain ⟨item, hi, hitem⟩ := findMonitoredItem_eq_some hfind
        exact ⟨_, rfl, .modify hi hitem ⟨_, _, rfl⟩⟩

theorem setMonitoringModeResult_edits (mode subId itemId : UInt32) (s : Subscriptions W) :
    ∃ items, (setMonitoringModeResult mode subId itemId s).2 = setItemList items s ∧
      Edits (MonitoredItem.Named subId itemId)
        (fun item item' => item' = { item with monitoringMode := mode.toUInt8 })
        s.items.monitoredItems items := by
  unfold setMonitoringModeResult
  split
  · exact ⟨_, rfl, .inl rfl⟩
  · rename_i i hfind
    obtain ⟨item, hi, hitem⟩ := findMonitoredItem_eq_some hfind
    exact ⟨_, rfl, .modify hi hitem rfl⟩

section

variable (items : ItemList W) (subId triggeringId linkedId : UInt32)

theorem addTriggerLink_edits : Edits (MonitoredItem.Named subId triggeringId)
      (fun item item' =>
        linkedId ∉ item.triggeredItems ∧ item.triggeredItems.length < b.maxTriggerLinks ∧
          (∃ linked ∈ items, linked.Named subId linkedId) ∧
        item' = { item with triggeredItems := item.triggeredItems ++ [linkedId] })
      items (addTriggerLink b items subId triggeringId linkedId).2 := by
  simp only [addTriggerLink]
  split
  · rename_i i j hfind hlinked
    obtain ⟨item, hi, hitem⟩ := findMonitoredItemInSubscription_eq_some hfind
    obtain ⟨linked, hj, hlinked⟩ := findMonitoredItemInSubscription_eq_some hlinked
    rw [hi, Option.map_some, Option.getD_some]
    split
    · exact .inl rfl
    · rename_i hnew
      split
      · exact .inl rfl
      · rename_i hroom
        exact .modify hi hitem ⟨hnew, by omega, ⟨linked, List.mem_of_getElem? hj, hlinked⟩, rfl⟩
  · exact .inl rfl

theorem removeTriggerLink_edits : Edits (MonitoredItem.Named subId triggeringId)
      (fun item item' => item' = { item with triggeredItems := item.triggeredItems.erase linkedId })
      items (removeTriggerLink items subId triggeringId linkedId).2 := by
  simp only [removeTriggerLink]
  split
  · rename_i i j hfind hlinked
    obtain ⟨item, hi, hitem⟩ := findMonitoredItemInSubscription_eq_some hfind
    split
    · exact .modify hi hitem rfl
    · exact .inl rfl
  · exact .inl rfl

end

theorem monitoredItemDelete_cases (t : ItemTable W) (subId itemId : UInt32) :
    (monitoredItemDelete b t subId itemId).2 = t ∨
      ∃ i item, t.monitoredItems[i]? = some item ∧ item.Named subId itemId ∧
        (monitoredItemDelete b t subId itemId).2 = t.release b i := by
  unfold monitoredItemDelete
  cases hfind : t.monitoredItems.findIdx?
      (fun i => i.inUse && i.subscriptionId = subId && i.monitoredItemId = itemId) with
  | none => exact .inl rfl
  | some i =>
    obtain ⟨item, hi, hitem⟩ := findMonitoredItemInSubscription_eq_some hfind
    exact .inr ⟨i, item, hi, hitem, rfl⟩

theorem parkPublish_edits (request : PublishRequest) (s : Subscriptions W) :
    ∃ queue, (parkPublish request s).2 = { s with publishQueue := queue } ∧
      Edits (fun r => r.inUse = false) (fun _ r => r = request) s.publishQueue queue := by
  unfold parkPublish publishRequestEnqueue
  cases hfind : s.publishQueue.findIdx? (fun r => !r.inUse) with
  | none => exact ⟨_, rfl, .inl rfl⟩
  | some i =>
    obtain ⟨hlt, hfree, -⟩ := List.findIdx?_eq_some_iff_getElem.mp hfind
    exact ⟨_, rfl, .inr ⟨i, _, request, List.getElem?_eq_getElem hlt, by simpa using hfree, rfl, rfl⟩⟩

end Edits

section Slots

structure SubscriptionKey where
  inUse : Bool
  subscriptionId : UInt32
  sessionId : UInt32

def Subscription.key (sub : Subscription) : SubscriptionKey :=
  ⟨sub.inUse, sub.subscriptionId, sub.sessionId⟩

def Subscription.slot (sub : Subscription) : Option UInt32 :=
  if sub.inUse then some sub.subscriptionId else none

def MonitoredItem.slot (item : MonitoredItem W) : Option (UInt32 × UInt32) :=
  if item.inUse then some (item.monitoredItemId, item.subscriptionId) else none

def usedSubscriptions (subs : List Subscription) : List UInt32 :=
  (subs.map Subscription.slot).reduceOption

def usedItems (items : ItemList W) : List (UInt32 × UInt32) :=
  (items.map MonitoredItem.slot).reduceOption

variable {subs : List Subscription}

theorem usedSubscriptions_congr {subs' : List Subscription}
    (h : subs'.map Subscription.key = subs.map Subscription.key) :
    usedSubscriptions subs' = usedSubscriptions subs := by
  have hslot : Subscription.slot = fun sub => if sub.key.inUse then
    some sub.key.subscriptionId else none := rfl
  have hmap :=
    congrArg (List.map (fun k : SubscriptionKey => if k.inUse then some k.subscriptionId else none)) h
  rw [List.map_map, List.map_map] at hmap
  rw [usedSubscriptions, usedSubscriptions, hslot]
  exact congrArg List.reduceOption hmap

variable {items : ItemList W}

theorem usedItems_congr {items' : ItemList W}
    (h : items'.map MonitoredItem.slot = items.map MonitoredItem.slot) :
    usedItems items' = usedItems items := by
  rw [usedItems, usedItems, h]

theorem slots_of_keys {items' : ItemList W}
    (h : items'.map MonitoredItem.key = items.map MonitoredItem.key) :
    items'.map MonitoredItem.slot = items.map MonitoredItem.slot := by
  have hmap := congrArg
    (List.map (fun k : ItemKey => if k.inUse then some (k.monitoredItemId, k.subscriptionId) else none))
    h
  rw [List.map_map, List.map_map] at hmap
  exact hmap

theorem mem_usedSubscriptions {id : UInt32} :
    id ∈ usedSubscriptions subs ↔ ∃ sub ∈ subs, sub.inUse = true ∧ sub.subscriptionId = id := by
  rw [usedSubscriptions, List.reduceOption_mem_iff, List.mem_map]
  constructor
  · rintro ⟨sub, hmem, hslot⟩
    unfold Subscription.slot at hslot
    split at hslot
    · rename_i hin
      exact ⟨sub, hmem, hin, Option.some.inj hslot⟩
    · cases hslot
  · rintro ⟨sub, hmem, hin, rfl⟩
    exact ⟨sub, hmem, if_pos hin⟩

theorem subscriptionIdInUse_iff {id : UInt32} :
    subscriptionIdInUse subs id = true ↔ id ∈ usedSubscriptions subs := by
  rw [mem_usedSubscriptions, subscriptionIdInUse, List.any_eq_true]
  simp only [Bool.and_eq_true, decide_eq_true_eq]

theorem mem_usedItems {k : UInt32 × UInt32} : k ∈ usedItems items ↔
      ∃ item ∈ items, item.inUse = true ∧ item.monitoredItemId = k.1 ∧ item.subscriptionId = k.2 := by
  rw [usedItems, List.reduceOption_mem_iff, List.mem_map]
  constructor
  · rintro ⟨item, hmem, hslot⟩
    unfold MonitoredItem.slot at hslot
    split at hslot
    · rename_i hin
      obtain rfl := Option.some.inj hslot
      exact ⟨item, hmem, hin, rfl, rfl⟩
    · cases hslot
  · rintro ⟨item, hmem, hin, hid, hsub⟩
    refine ⟨item, hmem, ?_⟩
    rw [MonitoredItem.slot, if_pos hin, hid, hsub]

theorem monitoredItemIdInUse_iff {id : UInt32} :
    monitoredItemIdInUse items id = true ↔ id ∈ (usedItems items).map Prod.fst := by
  rw [monitoredItemIdInUse, List.any_eq_true, List.mem_map]
  simp only [Bool.and_eq_true, decide_eq_true_eq]
  constructor
  · rintro ⟨item, hmem, hin, rfl⟩
    exact ⟨(item.monitoredItemId, item.subscriptionId),
      mem_usedItems.mpr ⟨item, hmem, hin, rfl, rfl⟩, rfl⟩
  · rintro ⟨k, hk, rfl⟩
    obtain ⟨item, hmem, hin, hid, -⟩ := mem_usedItems.mp hk
    exact ⟨item, hmem, hin, hid⟩

end Slots

section Items

variable {t : ItemTable W} {i : Nat} {item : MonitoredItem W}

/-- The ids of the items in use are distinct and not 0, and the count is right. -/
structure ItemTable.Consistent (b : Build) (t : ItemTable W) : Prop where
  size : t.monitoredItems.length = b.maxMonitoredItems
  ids : ((usedItems t.monitoredItems).map Prod.fst).Nodup
  nonzero : ∀ k ∈ usedItems t.monitoredItems, k.1 ≠ 0
  active : t.activeMonitoredItemsCount.toNat = (usedItems t.monitoredItems).length

theorem ItemTable.Consistent.congr {t' : ItemTable W} (h : t.Consistent b)
    (hslots : t'.monitoredItems.map MonitoredItem.slot = t.monitoredItems.map MonitoredItem.slot)
    (hactive : t'.activeMonitoredItemsCount = t.activeMonitoredItemsCount) : t'.Consistent b := by
  have hused := usedItems_congr hslots
  have hlen := congrArg List.length hslots
  rw [List.length_map, List.length_map] at hlen
  exact ⟨hlen.trans h.size, hused ▸ h.ids, hused ▸ h.nonzero, by rw [hactive, hused, h.active]⟩

theorem usedItems_fill (hi : t.monitoredItems[i]? = some item) (hfree : item.inUse = false)
    {item' : MonitoredItem W} (hin : item'.inUse = true) :
    (usedItems (t.monitoredItems.set i item')).Perm
      ((item'.monitoredItemId, item'.subscriptionId) :: usedItems t.monitoredItems) := by
  have hslot : (t.monitoredItems.map MonitoredItem.slot)[i]? = some none := by
    rw [List.getElem?_map, hi, Option.map_some, MonitoredItem.slot, if_neg (by simp [hfree])]
  have hslot' : item'.slot = some (item'.monitoredItemId, item'.subscriptionId) := if_pos hin
  rw [usedItems, List.map_set, hslot']
  exact reduceOption_set_some hslot

theorem usedItems_release (hi : t.monitoredItems[i]? = some item) (hin : item.inUse = true) :
    (usedItems t.monitoredItems).Perm
      ((item.monitoredItemId, item.subscriptionId) :: usedItems (t.release b i).monitoredItems) := by
  have hslot : (t.monitoredItems.map MonitoredItem.slot)[i]? =
      some (some (item.monitoredItemId, item.subscriptionId)) := by
    rw [List.getElem?_map, hi, Option.map_some, MonitoredItem.slot, if_pos hin]
  have hfree : (MonitoredItem.zero b : MonitoredItem W).slot = none := rfl
  rw [usedItems, usedItems, ItemTable.release, List.map_set, hfree]
  exact reduceOption_set_none hslot

theorem ItemTable.Consistent.release (h : t.Consistent b) (hi : t.monitoredItems[i]? = some item)
    (hin : item.inUse = true) : (t.release b i).Consistent b := by
  have hperm := usedItems_release (b := b) hi hin
  have hlen := hperm.length_eq
  rw [List.length_cons] at hlen
  refine ⟨(List.length_set ..).trans h.size, ?_, fun k hk => ?_, ?_⟩
  · exact (List.nodup_cons.mp ((hperm.map Prod.fst).nodup_iff.mp h.ids)).2
  · exact h.nonzero k (hperm.mem_iff.mpr (.tail _ hk))
  · have hactive := h.active
    have hpos : t.activeMonitoredItemsCount > 0 := by
      apply UInt32.lt_iff_toNat_lt.mpr
      change 0 < _
      omega
    have hsub : (t.activeMonitoredItemsCount - 1).toNat = t.activeMonitoredItemsCount.toNat - 1 :=
      UInt32.toNat_sub_of_le _ _ (by
        apply UInt32.le_iff_toNat_le.mpr
        change 1 ≤ _
        omega)
    change (if t.activeMonitoredItemsCount > 0 then t.activeMonitoredItemsCount - 1
      else t.activeMonitoredItemsCount).toNat = _
    rw [if_pos hpos, hsub]
    omega

theorem releaseItemsOf_items (t : ItemTable W) (subId : UInt32) :
    (releaseItemsOf b t subId).monitoredItems = t.monitoredItems.map
      (fun item => if item.inUse && item.subscriptionId = subId then .zero b else item) := by
  refine foldl_range_modify (fun t i => ?_) t
  apply List.ext_getElem?
  intro j
  rw [List.getElem?_modify]
  by_cases hj : i = j
  · subst hj
    cases hitem : t.monitoredItems[i]? with
    | none => simp [hitem]
    | some item =>
      by_cases hown : (item.inUse && item.subscriptionId = subId) = true
      · have hlt := (List.getElem?_eq_some_iff.mp hitem).1
        rw [Option.any_some, if_pos hown, ItemTable.release, List.getElem?_set_self hlt]
        simp only [if_true]
        exact congrArg some (if_pos hown).symm
      · rw [Option.any_some, if_neg hown, hitem]
        simp only [if_true]
        exact congrArg some (if_neg hown).symm
  · split
    · rw [ItemTable.release, List.getElem?_set_ne hj]
      simp
    · simp

theorem ItemTable.Consistent.releaseItemsOf (h : t.Consistent b) (subId : UInt32) :
    (releaseItemsOf b t subId).Consistent b := by
  unfold MicroOpcua.releaseItemsOf
  generalize List.range t.monitoredItems.length = slots
  induction slots generalizing t with
  | nil => exact h
  | cons i slots ih =>
    rw [List.foldl_cons]
    apply ih
    cases hitem : t.monitoredItems[i]? with
    | none => exact h
    | some item =>
      split
      · rename_i hown
        simp only [Option.any_some, Bool.and_eq_true] at hown
        exact h.release hitem hown.1
      · exact h

def allocatedItem (b : Build) (subscriptionId id : UInt32) : MonitoredItem W :=
  { MonitoredItem.zero b with inUse := true, subscriptionId := subscriptionId, monitoredItemId := id }

/-- An allocation fails only when every slot is taken, and otherwise fills a free slot under a new id. -/
theorem monitoredItemAlloc_cases (h : t.Consistent b) (subId : UInt32) :
    ((∃ e, monitoredItemAlloc b t subId = (.error e, t)) ∧
      ∀ item ∈ t.monitoredItems, item.inUse = true) ∨ ∃ i id next item,
        t.monitoredItems[i]? = some item ∧ item.inUse = false ∧ id ≠ 0 ∧
        id ∉ (usedItems t.monitoredItems).map Prod.fst ∧ monitoredItemAlloc b t subId = (.ok (i, id),
          ⟨t.monitoredItems.set i (allocatedItem b subId id), next,
            t.activeMonitoredItemsCount + 1⟩) := by
  unfold monitoredItemAlloc
  cases hfind : t.monitoredItems.findIdx? (fun i => !i.inUse) with
  | none =>
    rw [List.findIdx?_eq_none_iff] at hfind
    exact .inl ⟨⟨_, rfl⟩, fun item hitem => by simpa using hfind item hitem⟩
  | some i =>
    obtain ⟨hlt, hfree, -⟩ := List.findIdx?_eq_some_iff_getElem.mp hfind
    have hitem : t.monitoredItems[i]? = some t.monitoredItems[i] := List.getElem?_eq_getElem hlt
    have hslot : none ∈ t.monitoredItems.map MonitoredItem.slot :=
      List.mem_map.mpr ⟨t.monitoredItems[i], List.getElem_mem hlt, if_neg (by simpa using hfree)⟩
    have hroom : ((usedItems t.monitoredItems).map Prod.fst).length < t.monitoredItems.length := by
      have := List.reduceOption_length_lt_iff.mpr hslot
      rwa [List.length_map] at this ⊢
    have hsize : t.monitoredItems.length < 2 ^ 31 := by
      rw [h.size]
      exact lt_of_le_of_lt (Nat.le_mul_of_pos_right _ (Nat.succ_pos _)) b.maxMonitoredItems_lt
    obtain ⟨hnonzero, hfresh⟩ := allocateId_fresh (monitoredItemIdInUse t.monitoredItems)
      (fun id hid => monitoredItemIdInUse_iff.mp hid) (t.monitoredItems.length + 1) (by omega) (by omega)
      t.nextMonitoredItemId
    generalize allocateId _ _ t.nextMonitoredItemId = p at hnonzero hfresh
    obtain ⟨id, next⟩ := p
    refine .inr ⟨i, id, next, _, hitem, by simpa using hfree, hnonzero, fun hid => ?_, ?_⟩
    · rw [monitoredItemIdInUse_iff.mpr hid] at hfresh
      cases hfresh
    · exact if_neg hnonzero

structure NewItem (b : Build) (subscriptionId : UInt32) (item : MonitoredItem W) : Prop where
  inUse : item.inUse = true
  subscription : item.subscriptionId = subscriptionId
  links : item.triggeredItems = []
  head : item.queueHead = 0
  tail : item.queueTail = 0
  count : item.queueCount = 0
  queue : item.queue.length = b.monitoredQueueDepth
  value : item.pending = true → item.hasValue = true

def createdItem (b : Build) (subscriptionId id : UInt32) (body : MonitoredItemCreateBody) (node : Node W)
    (nowMs : UInt64) (w : W) : MonitoredItem W :=
  ((initialSample body node (fillItem b body node nowMs (allocatedItem b subscriptionId id))).run w).1

theorem initialSample_cases (body : MonitoredItemCreateBody) (node : Node W)
    (item : MonitoredItem W) (w : W) : ((initialSample body node item).run w).1 = item ∨
      body.attributeId ≠ MonitoredItem.eventNotifierAttribute ∧ ∃ status value,
        ((initialSample body node item).run w).1 = { item with
          lastStatus := status, lastValue := value, hasValue := status = good, pending :=
              status = good } := by
  simp only [initialSample]
  split
  · exact .inl rfl
  · simp only [run_ite, run_pure, run_bind]
    split
    · exact .inl rfl
    · rename_i hdata
      exact .inr ⟨hdata, _, _, rfl⟩

/-- The first value of a new item goes into its record, beside what the request has filled in. -/
theorem createdItem_keeps {P : MonitoredItem W → Prop} {subId id : UInt32}
    {body : MonitoredItemCreateBody} {node : Node W} {nowMs : UInt64}
    (hfill : P (fillItem b body node nowMs (allocatedItem b subId id)))
    (hrecord : ∀ item status value, P item → P { item with
      lastStatus := status, lastValue := value, hasValue := status = good, pending :=
        status = good }) (w : W) :
    P (createdItem b subId id body node nowMs w) := by
  unfold createdItem
  obtain hsame | ⟨-, status, value, hsame⟩ := initialSample_cases body node
    (fillItem b body node nowMs (allocatedItem b subId id)) w
  · rw [hsame]
    exact hfill
  · rw [hsame]
    exact hrecord _ status value hfill

theorem createdItem_new (subId id : UInt32) (body : MonitoredItemCreateBody)
    (node : Node W) (nowMs : UInt64) (w : W) :
    let item := createdItem b subId id body node nowMs w
    NewItem b subId item ∧ item.monitoredItemId = id := by
  refine createdItem_keeps (P := fun item => NewItem b subId item ∧ item.monitoredItemId = id) ?_ ?_ w
  · simp only [fillItem]
    split
    · exact ⟨⟨rfl, rfl, rfl, rfl, rfl, rfl, List.length_replicate, nofun⟩, rfl⟩
    · exact ⟨⟨rfl, rfl, rfl, rfl, rfl, rfl, List.length_replicate, nofun⟩, rfl⟩
  · rintro item status value ⟨h, hid⟩
    exact ⟨⟨h.inUse, h.subscription, h.links, h.head, h.tail, h.count, h.queue, fun hgood => hgood⟩, hid⟩

theorem createItem_cases (h : t.Consistent b) (subId : UInt32) (body : MonitoredItemCreateBody)
    (node : Node W) (nowMs : UInt64) (w : W) :
    (createItem b subId body node nowMs w t = t ∧ ∀ item ∈ t.monitoredItems, item.inUse = true) ∨
      ∃ i id next old, t.monitoredItems[i]? = some old ∧ old.inUse = false ∧ id ≠ 0 ∧
        id ∉ (usedItems t.monitoredItems).map Prod.fst ∧ createItem b subId body node nowMs w t =
          ⟨t.monitoredItems.set i (createdItem b subId id body node nowMs w), next,
            t.activeMonitoredItemsCount + 1⟩ := by
  unfold createItem
  obtain ⟨⟨e, halloc⟩, hfull⟩ | ⟨i, id, next, old, hi, hfree, hnonzero, hfresh, halloc⟩ :=
    monitoredItemAlloc_cases h subId
  · rw [halloc]
    exact .inl ⟨rfl, hfull⟩
  · rw [halloc]
    have hlt := (List.getElem?_eq_some_iff.mp hi).1
    refine .inr ⟨i, id, next, old, hi, hfree, hnonzero, hfresh, ?_⟩
    simp only [createdItem, List.getD_eq_getElem?_getD, List.getElem?_set_self hlt,
      Option.getD_some, List.set_set]

theorem ItemTable.Consistent.create (h : t.Consistent b) (hi : t.monitoredItems[i]? = some item)
    (hfree : item.inUse = false) {item' : MonitoredItem W} (hin : item'.inUse = true)
    (hnonzero : item'.monitoredItemId ≠ 0)
    (hfresh : item'.monitoredItemId ∉ (usedItems t.monitoredItems).map Prod.fst)
    (next : UInt32) :
    (⟨t.monitoredItems.set i item', next, t.activeMonitoredItemsCount + 1⟩ : ItemTable W).Consistent
      b := by
  have hperm := usedItems_fill hi hfree hin
  have hlen := hperm.length_eq
  rw [List.length_cons] at hlen
  have hsize : t.monitoredItems.length < 2 ^ 31 := by
    rw [h.size]
    exact lt_of_le_of_lt (Nat.le_mul_of_pos_right _ (Nat.succ_pos _)) b.maxMonitoredItems_lt
  have hused : (usedItems t.monitoredItems).length ≤ t.monitoredItems.length := by
    have := List.reduceOption_length_le (t.monitoredItems.map MonitoredItem.slot)
    rwa [List.length_map] at this
  refine ⟨(List.length_set ..).trans h.size, ?_, fun k hk => ?_, ?_⟩
  · exact (hperm.map Prod.fst).nodup_iff.mpr (List.nodup_cons.mpr ⟨hfresh, h.ids⟩)
  · obtain rfl | hk := List.mem_cons.mp (hperm.mem_iff.mp hk)
    · exact hnonzero
    · exact h.nonzero k hk
  · have hactive := h.active
    change (t.activeMonitoredItemsCount + 1).toNat = (usedItems (t.monitoredItems.set i item')).length
    rw [UInt32.toNat_add]
    change (t.activeMonitoredItemsCount.toNat + 1) % 2 ^ 32 = _
    omega

end Items

section Scans

theorem usedItems_cons (item : MonitoredItem W) (items : ItemList W) : usedItems (item :: items) =
      if item.inUse then
      (item.monitoredItemId, item.subscriptionId) :: usedItems items else usedItems items := by
  rw [usedItems, List.map_cons, MonitoredItem.slot]
  split
  · exact List.reduceOption_cons_of_some _ _
  · exact List.reduceOption_cons_of_none _

section

variable (subId itemId : UInt32) (items : ItemList W) (index : Nat)

theorem findMonitoredItemFrom_zero : findMonitoredItemFrom subId itemId items 0 index = none := by
  cases items with
  | nil => rfl
  | cons item items => exact if_pos rfl

theorem findMonitoredItemFrom_eq :
    findMonitoredItemFrom subId itemId items (usedItems items).length index =
      (findMonitoredItemInSubscription items subId itemId).map (· + index) := by
  induction items generalizing index with
  | nil => rfl
  | cons item items ih =>
    rw [usedItems_cons, findMonitoredItemInSubscription,
      List.findIdx?_cons, ← findMonitoredItemInSubscription]
    unfold findMonitoredItemFrom
    by_cases hin : item.inUse = true
    · rw [if_pos hin, List.length_cons, if_neg (Nat.succ_ne_zero _), if_neg (by simp [hin])]
      by_cases hfound : item.subscriptionId = subId ∧ item.monitoredItemId = itemId
      · rw [if_pos hfound, if_pos (by simp [hin, hfound])]
        simp
      · rw [if_neg hfound, if_neg (by simpa [hin] using hfound), Nat.succ_sub_one, ih, Option.map_map]
        simp only [Function.comp_def, Nat.add_right_comm, Nat.add_assoc]
    · have hmap : ((findMonitoredItemInSubscription items subId itemId).map (· + 1)).map (· + index) =
          findMonitoredItemFrom subId itemId items (usedItems items).length (index + 1) := by
        rw [ih, Option.map_map]
        simp only [Function.comp_def, Nat.add_right_comm, Nat.add_assoc]
      rw [if_neg hin, if_neg (c := (_ && _) = true) (by simp [hin]), hmap]
      by_cases hzero : (usedItems items).length = 0
      · rw [if_pos hzero, hzero, findMonitoredItemFrom_zero]
      · rw [if_neg hzero, if_pos (by simp [hin])]

end

def sampleEvery (b : Build) (nowMs : UInt64) (items : ItemList W) : StateM W (ItemList W) :=
  items.mapM (fun item => if item.inUse then item.sample b nowMs else pure item)

theorem sampleItems_zero (nowMs : UInt64) (items : ItemList W) :
    sampleItems b nowMs 0 items = pure items := by
  cases items with
  | nil => rfl
  | cons item items => exact if_pos rfl

theorem sampleItems_eq (nowMs : UInt64) (items : ItemList W) :
    sampleItems b nowMs (usedItems items).length items = sampleEvery b nowMs items := by
  induction items with
  | nil => rfl
  | cons item items ih =>
    rw [sampleEvery, List.mapM_cons, ← sampleEvery, usedItems_cons]
    unfold sampleItems
    by_cases hin : item.inUse = true
    · simp only [if_pos hin, List.length_cons, Nat.succ_ne_zero, if_false, Nat.succ_sub_one, ih]
    · by_cases hzero : (usedItems items).length = 0
      · rw [hzero, sampleItems_zero] at ih
        simp only [if_neg hin, hzero, if_true, ← ih, pure_bind]
      · simp only [if_neg hin, hzero, if_false, ih, pure_bind]

end Scans

end MicroOpcua
