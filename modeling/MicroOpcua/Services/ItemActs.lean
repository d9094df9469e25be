import MicroOpcua.Services.EngineLaws

namespace MicroOpcua

open Relation Lib.StateRun Lib.Table

variable {W : Type} {b : Build} {s t : Subscriptions W} {item item' : MonitoredItem W}

variable (b) in
inductive ItemAct (s : Subscriptions W) : EngineOp W → MonitoredItem W → MonitoredItem W → Prop where
  | keep (op : EngineOp W) (item : MonitoredItem W) : ItemAct s op item item
  | create {item : MonitoredItem W} (subscriptionId : UInt32) (body : MonitoredItemCreateBody)
    (node : Node W)
      (nowMs : UInt64) (w : W) (id : UInt32) (hfree : item.inUse = false) :
      ItemAct s (.createItem subscriptionId body node nowMs w) item
        (createdItem b subscriptionId id body node nowMs w)
  | modify (subscriptionId : UInt32) (body : ModifyBody) (item : MonitoredItem W)
    (sampling handle : UInt32) :
      ItemAct s (.modifyItem subscriptionId body) item
        { item with samplingIntervalMs := sampling, clientHandle := handle }
  | mode (mode subscriptionId itemId : UInt32) (item : MonitoredItem W) :
      ItemAct s (.setMonitoringMode mode subscriptionId itemId) item
      { item with monitoringMode := mode.toUInt8 }
  | link (subscriptionId triggeringId linkedId : UInt32) (item : MonitoredItem W) (links : List UInt32) :
      ItemAct s (.addTriggerLink subscriptionId triggeringId linkedId) item
      { item with triggeredItems := links }
  | unlink (subscriptionId triggeringId linkedId : UInt32) (item : MonitoredItem W)
    (links : List UInt32) :
      ItemAct s (.removeTriggerLink subscriptionId triggeringId linkedId) item
      { item with triggeredItems := links }
  | release (op : EngineOp W) (item : MonitoredItem W) : ItemAct s op item (.zero b)
  | sample (nowMs : UInt64) (w : W) (item : MonitoredItem W) (world : W) :
      ItemAct s (.sample nowMs w) item ((item.sample b nowMs).run world).1
  | turn {item item' : MonitoredItem W} (x : TurnInput W) (sub : Subscription)
      (hsub : s.subscriptions[x.index]? = some sub) (hsteps : ReportSteps b sub item item') :
      ItemAct s (.turn x) item item'

theorem EngineOp.apply_acts (op : EngineOp W) (h : s.Consistent b) :
    List.Forall₂ (ItemAct b s op) s.items.monitoredItems (op.apply b s).items.monitoredItems := by
  have hsame : List.Forall₂ (ItemAct b s op) s.items.monitoredItems s.items.monitoredItems :=
    List.forall₂_same.mpr (fun item _ => .keep op item)
  cases op with
  | createSubscription | modifySubscription | setPublishingMode | requestResendData | acknowledge
  | triggerEvent => exact hsame
  | deleteSubscription sessionId subId =>
    simp only [EngineOp.apply, subscriptionDelete]
    split
    · exact hsame
    · simp only [releaseItemsOf_items]
      refine List.forall₂_map_right_iff.mpr (List.forall₂_same.mpr (fun item _ => ?_))
      split
      · exact .release _ item
      · exact .keep _ item
  | createItem subId body node nowMs w =>
    simp only [EngineOp.apply]
    split
    · obtain ⟨hfull, -⟩ | ⟨i, id, next, old, hi, hfree, -, -, hcreate⟩ :=
        createItem_cases h.items subId body node nowMs w
      · rw [hfull]
        exact hsame
      · rw [hcreate]
        exact forall₂_set (.keep _) hi (.create subId body node nowMs w id hfree)
    · exact hsame
  | modifyItem subId body =>
    obtain ⟨items, hitems, hedits⟩ := modifyItem_edits (b := b) subId body s.items
    simp only [EngineOp.apply, hitems]
    refine hedits.forall₂ (.keep _) ?_
    rintro item - ⟨sampling, handle, rfl⟩
    exact .modify _ body item sampling handle
  | setMonitoringMode mode subId itemId =>
    obtain ⟨items, hitems, hedits⟩ := setMonitoringModeResult_edits mode subId itemId s
    simp only [EngineOp.apply, hitems]
    exact hedits.forall₂ (.keep _) (fun item _ heq => heq ▸ .mode mode subId itemId item)
  | deleteItem subId itemId =>
    simp only [EngineOp.apply, deleteMonitoredItemResult]
    obtain hnone | ⟨i, item, hi, -, hdelete⟩ := monitoredItemDelete_cases (b := b) s.items subId itemId
    · rw [hnone]
      exact hsame
    · rw [hdelete]
      exact forall₂_set (.keep _) hi (.release _ item)
  | addTriggerLink subId triggeringId linkedId =>
    refine (addTriggerLink_edits _ _ _ _).forall₂ (.keep _) (fun item _ hlink => ?_)
    obtain ⟨-, -, -, rfl⟩ := hlink
    exact .link _ _ _ item _
  | removeTriggerLink subId triggeringId linkedId =>
    exact (removeTriggerLink_edits _ _ _ _).forall₂ (.keep _) (fun item _ heq =>
      heq ▸ .unlink _ _ _ item _)
  | park request =>
    obtain ⟨queue, hqueue, -⟩ := parkPublish_edits request s
    simp only [EngineOp.apply, hqueue]
    exact hsame
  | sample nowMs w => exact sampleItems_forall₂ (.keep _) nowMs (.sample nowMs w) _ _ w
  | turn x =>
    simp only [EngineOp.apply]
    obtain hidle | ⟨sub, hsub, -, -, hturn⟩ := turn_cases b x s
    · rw [hidle]
      exact hsame
    · obtain ⟨items, queue, sub', hsteps, -, hframe⟩ := turnOf_frame b x sub s
      rw [hturn, hframe]
      exact hsteps.imp (fun _ _ => .turn x sub hsub)
  | reset =>
    simp only [EngineOp.apply, Subscriptions.init]
    exact forall₂_replicate h.items.size (.release _)

/-- A property of items that every act allowed by `P` keeps holds of every slot after a run whose
operations meet `P`. -/
theorem EngineRuns.items {P : Subscriptions W → EngineOp W → Prop} {I : MonitoredItem W → Prop}
    (hact : ∀ s op item item', P s op → ItemAct b s op item item' → item ∈ s.items.monitoredItems →
      I item → I item')
    (h : EngineRuns b P s t) (hs : s.Consistent b) (hitems : ∀ item ∈ s.items.monitoredItems, I item) :
    ∀ item ∈ t.items.monitoredItems, I item := by
  induction h with
  | refl => exact hitems
  | @tail u v hrun hstep ih =>
    obtain ⟨op, hop, rfl⟩ := hstep
    intro item' hitem'
    obtain ⟨i, hi⟩ := List.getElem?_of_mem hitem'
    obtain ⟨item, hitem, hacts⟩ :=
      exists_getElem?_of_forall₂ (op.apply_acts (EngineRuns.consistent hrun hs)) hi
    have hmem := List.mem_of_getElem? hitem
    exact hact u op item item' hop hacts hmem (ih item hmem)

end MicroOpcua
