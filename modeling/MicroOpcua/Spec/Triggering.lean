import MicroOpcua.Spec.Subscriptions

namespace MicroOpcua

open Lib.Table

variable {W : Type} {b : Build} {s t : Subscriptions W} {items items' : ItemList W}

structure MonitoredItem.Linked (used : List (UInt32 × UInt32)) (item : MonitoredItem W) : Prop where
  distinct : item.triggeredItems.Nodup
  targets : ∀ id ∈ item.triggeredItems, (id, item.subscriptionId) ∈ used

def AllLinked (items : ItemList W) : Prop :=
  ∀ item ∈ items, item.inUse = true → item.Linked (usedItems items)

def MonitoredItem.linkKey (item : MonitoredItem W) : Bool × UInt32 × UInt32 × List UInt32 :=
  (item.inUse, item.monitoredItemId, item.subscriptionId, item.triggeredItems)

theorem AllLinked.congr (h : AllLinked items)
    (hsame : items'.map MonitoredItem.linkKey = items.map MonitoredItem.linkKey) : AllLinked items' := by
  have hused : usedItems items' = usedItems items := by
    have hmap := congrArg
      (List.map (fun k : Bool × UInt32 × UInt32 × List UInt32 =>
        if k.1 then some (k.2.1, k.2.2.1) else none)) hsame
    rw [List.map_map, List.map_map] at hmap
    exact usedItems_congr hmap
  intro item' hitem' hin'
  obtain ⟨item, hitem, hkey⟩ := List.mem_map.mp (hsame ▸ List.mem_map_of_mem hitem')
  obtain ⟨hin, hkey⟩ := Prod.mk.inj hkey
  obtain ⟨-, hkey⟩ := Prod.mk.inj hkey
  obtain ⟨hsub, hlinks⟩ := Prod.mk.inj hkey
  obtain ⟨hdistinct, htargets⟩ := h item hitem (hin.trans hin')
  rw [hused]
  exact ⟨hlinks ▸ hdistinct, hlinks ▸ hsub ▸ htargets⟩

theorem linkKeys_of_works (h : List.Forall₂ (ItemWorks b) items items') :
    items'.map MonitoredItem.linkKey = items.map MonitoredItem.linkKey := by
  apply map_eq_of_forall₂ h
  intro item item' hworks
  have hkey := hworks.key
  have hproject := congrArg
    (fun k : ItemKey => (k.inUse, k.monitoredItemId, k.subscriptionId, k.triggeredItems)) hkey
  exact hproject

theorem AllLinked.set {i : Nat} {item' : MonitoredItem W} (h : AllLinked items)
    (hkept : ∀ item ∈ items.set i item', item.inUse = true → item ≠ item' → ∀ id ∈ item.triggeredItems,
      (id, item.subscriptionId) ∈ usedItems items →
      (id, item.subscriptionId) ∈ usedItems (items.set i item'))
    (hnew : item'.inUse = true → item'.Linked (usedItems (items.set i item'))) :
    AllLinked (items.set i item') := by
  intro item hitem hin
  by_cases hsame : item = item'
  · subst hsame
    exact hnew hin
  · obtain hold | rfl := List.mem_or_eq_of_mem_set hitem
    · obtain ⟨hdistinct, htargets⟩ := h item hold hin
      exact ⟨hdistinct, fun id hid => hkept item hitem hin hsame id hid (htargets id hid)⟩
    · exact absurd rfl hsame

theorem AllLinked.edits {p : MonitoredItem W → Prop} {R : MonitoredItem W → MonitoredItem W → Prop}
    (h : AllLinked items) (hedits : Edits p R items items')
    (hslot : ∀ item item', R item item' → item'.slot = item.slot)
    (hlinked : ∀ item item', p item → R item item' → item.inUse = true → item.Linked (usedItems items) →
      item'.inUse = true → item'.Linked (usedItems items)) (hin : ∀ item, p item → item.inUse = true) :
    AllLinked items' := by
  have hused : usedItems items' = usedItems items := usedItems_congr (hedits.map_eq hslot)
  obtain rfl | ⟨i, item, item', hi, hp, hR, rfl⟩ := hedits
  · exact h
  · apply h.set
    · intro _ _ _ _ id _ hid
      rwa [hused]
    · rw [hused]
      exact hlinked item item' hp hR (hin item hp) (h item (List.mem_of_getElem? hi) (hin item hp))

/-- DeleteMonitoredItems names an item that no other item lists. -/
def EngineOp.KeepsLinks (s : Subscriptions W) : EngineOp W → Prop
  | .deleteItem subscriptionId itemId => ∀ item ∈ s.items.monitoredItems, item.inUse = true →
      item.subscriptionId = subscriptionId → item.monitoredItemId ≠ itemId → itemId ∉ item.triggeredItems
  | _ => True

theorem addTriggerLink_linked (h : AllLinked items) (subId triggeringId linkedId : UInt32) :
    AllLinked (addTriggerLink b items subId triggeringId linkedId).2 := by
  refine h.edits (addTriggerLink_edits items subId triggeringId linkedId) ?_ ?_
    (fun item hnamed => hnamed.1)
  · rintro item - ⟨-, -, -, rfl⟩
    rfl
  · rintro item - hnamed ⟨hnew, -, ⟨linked, hmem, hlinked⟩, rfl⟩ - hitem -
    refine ⟨?_, fun id hid => ?_⟩
    · exact List.nodup_append.mpr ⟨hitem.distinct, List.nodup_singleton _, fun id hid id' hid' => by
        rw [List.mem_singleton.mp hid']
        exact ne_of_mem_of_not_mem hid hnew⟩
    · obtain hid | hid := List.mem_append.mp hid
      · exact hitem.targets id hid
      · rw [List.mem_singleton.mp hid]
        exact mem_usedItems.mpr ⟨linked, hmem, hlinked.1, hlinked.2.2, hlinked.2.1.trans hnamed.2.1.symm⟩

theorem removeTriggerLink_linked (h : AllLinked items) (subId triggeringId linkedId : UInt32) :
    AllLinked (removeTriggerLink items subId triggeringId linkedId).2 := by
  refine h.edits (removeTriggerLink_edits items subId triggeringId linkedId) ?_ ?_
    (fun item hnamed => hnamed.1)
  · rintro item - rfl
    rfl
  · rintro item - - rfl - hitem -
    exact ⟨hitem.distinct.erase linkedId, fun id hid => hitem.targets id (List.mem_of_mem_erase hid)⟩

theorem EngineOp.apply_linked (op : EngineOp W) (hs : s.Consistent b) (hop : op.KeepsLinks s)
    (h : AllLinked s.items.monitoredItems) : AllLinked (op.apply b s).items.monitoredItems := by
  cases op with
  | createSubscription | modifySubscription | setPublishingMode | requestResendData | acknowledge
  | triggerEvent => exact h
  | deleteSubscription sessionId subId =>
    simp only [EngineOp.apply, subscriptionDelete]
    split
    · exact h
    · simp only [releaseItemsOf_items]
      intro item' hitem' hin'
      obtain ⟨item, hitem, rfl⟩ := List.mem_map.mp hitem'
      split at hin'
      · cases hin'
      · rename_i hother
        rw [if_neg hother]
        obtain ⟨hdistinct, htargets⟩ := h item hitem hin'
        refine ⟨hdistinct, fun id hid => ?_⟩
        obtain ⟨target, htarget, hused, hid', hsub⟩ := mem_usedItems.mp (htargets id hid)
        have hkept : ¬ (target.inUse && decide (target.subscriptionId = subId)) = true := by
          simp only [Bool.and_eq_true, decide_eq_true_eq] at hother ⊢
          exact fun hdeleted => hother ⟨hin', hsub.symm.trans hdeleted.2⟩
        exact mem_usedItems.mpr ⟨target, List.mem_map.mpr ⟨target, htarget, if_neg hkept⟩,
          hused, hid', hsub⟩
  | createItem subId body node nowMs w =>
    simp only [EngineOp.apply]
    split
    · obtain ⟨hfull, -⟩ | ⟨i, itemId, next, old, hi, hfree, -, -, hcreate⟩ :=
        createItem_cases hs.items subId body node nowMs w
      · rw [hfull]
        exact h
      · have hnew := (createdItem_new (b := b) subId itemId body node nowMs w).1
        rw [hcreate]
        apply h.set
        · intro _ _ _ _ id _ hid
          exact (usedItems_fill hi hfree hnew.inUse).mem_iff.mpr (.tail _ hid)
        · intro _
          exact ⟨hnew.links ▸ .nil, hnew.links ▸ by rintro _ ⟨⟩⟩
    · exact h
  | modifyItem subId body =>
    obtain ⟨items, hitems, hedits⟩ := modifyItem_edits (b := b) subId body s.items
    simp only [EngineOp.apply, hitems]
    apply h.congr
    apply hedits.map_eq
    rintro item - ⟨sampling, handle, rfl⟩
    rfl
  | setMonitoringMode mode subId itemId =>
    obtain ⟨items, hitems, hedits⟩ := setMonitoringModeResult_edits mode subId itemId s
    simp only [EngineOp.apply, hitems]
    apply h.congr
    apply hedits.map_eq
    rintro item - rfl
    rfl
  | deleteItem subId itemId =>
    simp only [EngineOp.apply, deleteMonitoredItemResult]
    obtain hnone | ⟨i, item, hi, hnamed, hdelete⟩ :=
      monitoredItemDelete_cases (b := b) s.items subId itemId
    · rw [hnone]
      exact h
    · rw [hdelete]
      apply h.set
      · intro other hother hin hne id hid hused
        obtain heq | hmem := List.mem_cons.mp ((usedItems_release (b := b) hi hnamed.1).mem_iff.mp hused)
        · obtain ⟨rfl, hsub⟩ := Prod.mk.inj heq
          obtain ⟨j, hj⟩ := List.mem_iff_getElem?.mp hother
          have hij : i ≠ j := by
            rintro rfl
            rw [List.getElem?_set_self (List.getElem?_eq_some_iff.mp hi).1] at hj
            exact hne (Option.some.inj hj).symm
          rw [List.getElem?_set_ne hij] at hj
          refine absurd (hnamed.2.2 ▸ hid)
            (hop other (List.mem_of_getElem? hj) hin (hsub.trans hnamed.2.1) fun hid => ?_)
          exact hij (hs.items.item_eq hi hj hnamed.1 hin (hnamed.2.2.trans hid.symm))
        · exact hmem
      · rintro ⟨⟩
  | addTriggerLink subId triggeringId linkedId => exact addTriggerLink_linked h _ _ _
  | removeTriggerLink subId triggeringId linkedId => exact removeTriggerLink_linked h _ _ _
  | park request =>
    obtain ⟨queue, hqueue, -⟩ := parkPublish_edits request s
    simp only [EngineOp.apply, hqueue]
    exact h
  | sample nowMs w => exact h.congr (linkKeys_of_works (sampleItems_works nowMs _ _ w))
  | turn x =>
    simp only [EngineOp.apply]
    obtain hidle | ⟨sub, -, -, -, hturn⟩ := turn_cases b x s
    · rw [hidle]
      exact h
    · obtain ⟨items, queue, sub', hsteps, -, hframe⟩ := turnOf_frame b x sub s
      rw [hturn, hframe]
      exact h.congr (linkKeys_of_works (works_of_steps hsteps))
  | reset =>
    intro item hitem hin
    rw [List.eq_of_mem_replicate hitem] at hin
    cases hin

theorem EngineRuns.linked (h : EngineRuns b (fun s op => op.KeepsLinks s) (.init b) s) :
    AllLinked s.items.monitoredItems := by
  induction h with
  | refl =>
    intro item hitem hin
    rw [List.eq_of_mem_replicate hitem] at hin
    cases hin
  | tail hrun hstep ih =>
    obtain ⟨op, hop, rfl⟩ := hstep
    exact op.apply_linked (EngineRuns.consistent hrun init_consistent) hop ih

theorem findMonitoredItemInSubscription_found {subId itemId : UInt32}
    (h : (itemId, subId) ∈ usedItems items) :
    ∃ i, findMonitoredItemInSubscription items subId itemId = some i := by
  obtain ⟨item, hitem, hin, hid, hsub⟩ := mem_usedItems.mp h
  apply Option.isSome_iff_exists.mp
  rw [findMonitoredItemInSubscription, List.findIdx?_isSome, List.any_eq_true]
  exact ⟨item, hitem, by simp [hin, hid, hsub]⟩

theorem removeTriggerLink_succeeds (hs : s.Consistent b) (h : AllLinked s.items.monitoredItems)
    {item : MonitoredItem W} (hitem : item ∈ s.items.monitoredItems)
    (hin : item.inUse = true) {id : UInt32}
    (hid : id ∈ item.triggeredItems) :
    (removeTriggerLink s.items.monitoredItems item.subscriptionId item.monitoredItemId id).1 =
      .ok () := by
  obtain ⟨i, hi⟩ := findMonitoredItemInSubscription_found
    (mem_usedItems.mpr ⟨item, hitem, hin, rfl, rfl⟩ : (item.monitoredItemId, item.subscriptionId) ∈ _)
  obtain ⟨j, hj⟩ := findMonitoredItemInSubscription_found ((h item hitem hin).targets id hid)
  obtain ⟨found, hfound, hnamed⟩ := findMonitoredItemInSubscription_eq_some hi
  obtain ⟨k, hk⟩ := List.mem_iff_getElem?.mp hitem
  obtain rfl := hs.items.item_eq hfound hk hnamed.1 hin hnamed.2.2
  obtain rfl := Option.some.inj (hfound.symm.trans hk)
  simp only [removeTriggerLink, hi, hj, hfound, Option.map_some, Option.getD_some, if_pos hid]

/-- As long as no item goes that another one lists, links name distinct items in use of the same
subscription, and each can be taken back. -/
theorem trigger_links_resolve (h : EngineRuns b (fun s op => op.KeepsLinks s) (.init b) s) :
    ∀ item ∈ s.items.monitoredItems, item.inUse = true → item.triggeredItems.Nodup ∧
      ∀ id ∈ item.triggeredItems,
        (∃ linked ∈ s.items.monitoredItems, linked.inUse = true ∧ linked.monitoredItemId = id ∧
          linked.subscriptionId = item.subscriptionId) ∧
        (removeTriggerLink s.items.monitoredItems item.subscriptionId item.monitoredItemId id).1 =
            .ok () := by
  intro item hitem hin
  have hlinked := h.linked
  obtain ⟨hdistinct, htargets⟩ := hlinked item hitem hin
  refine ⟨hdistinct, fun id hid => ⟨mem_usedItems.mp (htargets id hid), ?_⟩⟩
  exact removeTriggerLink_succeeds (h.consistent init_consistent) hlinked hitem hin hid

namespace EngineScript

def triggering : List (EngineOp Unit) :=
  [subscribe 1, monitor 2 10 5, monitor 1 11 6, monitor 2 12 7, .addTriggerLink 1 1 2]

end EngineScript

open EngineScript in
theorem trigger_links_resolve_third_deleted :
    (after triggering).items.monitoredItems.head?.map (·.triggeredItems) = some [2] ∧
      ∀ item ∈ (after (triggering ++ [.deleteItem 1 3])).items.monitoredItems, item.inUse = true →
        item.triggeredItems.Nodup ∧ ∀ id ∈ item.triggeredItems,
            (∃ linked ∈ (after (triggering ++ [.deleteItem 1 3])).items.monitoredItems,
              linked.inUse = true ∧ linked.monitoredItemId = id ∧
              linked.subscriptionId = item.subscriptionId) ∧
            (removeTriggerLink (after (triggering ++ [.deleteItem 1 3])).items.monitoredItems
              item.subscriptionId item.monitoredItemId id).1 = .ok () := by
  have hquiet : ∀ op ∈ triggering, ∀ s, EngineOp.KeepsLinks s op := by
    simp [triggering, subscribe, monitor, monitorNode, EngineOp.KeepsLinks]
  have hlinked := EngineRuns.of_ops (b := build) triggering hquiet (.init build)
  have hthird : EngineOp.KeepsLinks (after triggering) (.deleteItem 1 3) := by
    unfold EngineOp.KeepsLinks
    decide +kernel
  exact ⟨by decide +kernel, trigger_links_resolve (hlinked.tail ⟨_, hthird, rfl⟩)⟩

open EngineScript in
/-- The second item goes, the first one still lists it, and SetTriggering can no longer take the link
back. -/
theorem trigger_link_outlives_item :
    ¬ ∀ item ∈ (after (triggering ++ [.deleteItem 1 2])).items.monitoredItems, item.inUse = true →
      item.triggeredItems.Nodup ∧ ∀ id ∈ item.triggeredItems,
          (∃ linked ∈ (after (triggering ++ [.deleteItem 1 2])).items.monitoredItems,
            linked.inUse = true ∧ linked.monitoredItemId = id ∧
            linked.subscriptionId = item.subscriptionId) ∧
          (removeTriggerLink (after (triggering ++ [.deleteItem 1 2])).items.monitoredItems
            item.subscriptionId item.monitoredItemId id).1 = .ok () := by
  intro h
  obtain ⟨item, hitem, hin, hlink, hgone⟩ :
    ∃ item ∈ (after (triggering ++ [.deleteItem 1 2])).items.monitoredItems,
      item.inUse = true ∧ 2 ∈ item.triggeredItems ∧
        ∀ linked ∈ (after (triggering ++ [.deleteItem 1 2])).items.monitoredItems,
          linked.inUse = true → linked.monitoredItemId ≠ 2 := by
    decide +kernel
  obtain ⟨linked, hmem, hin', hid, -⟩ := ((h item hitem hin).2 2 hlink).1
  exact hgone linked hmem hin' hid

end MicroOpcua
