import MicroOpcua.Services.SampleLaws
import MicroOpcua.Spec.ItemSettings

namespace MicroOpcua

open Relation Lib.StateRun Lib.Table

variable {W : Type} {b : Build} {s u v : Subscriptions W} {item item' : MonitoredItem W} {slot : Nat}

section Target

def MonitoredItem.target (item : MonitoredItem W) : NodeId × Option (Node W) :=
  (item.nodeId, item.resolvedNode)

theorem ItemStep.target (h : ItemStep b item item') : item'.target = item.target := by
  cases h with
  | enqueue cur status =>
    have htarget := congrArg MonitoredItem.target (enqueueReport_sampling b item cur status)
    exact htarget
  | drain remaining =>
    have htarget := congrArg MonitoredItem.target (drainReportedEntries_sampling b item remaining).1
    exact htarget
  | value cur status => rfl
  | record numeric reported st next => rfl
  | pending p basic => rfl

theorem ItemWorks.target (h : ItemWorks b item item') : item'.target = item.target := by
  induction h with
  | refl => rfl
  | tail _ hstep ih => exact hstep.target.trans ih

theorem ItemAct.target {op : EngineOp W} (h : ItemAct b s op item item') (hused : item.inUse = true)
    (hused' : item'.inUse = true) : item'.target = item.target := by
  cases h with
  | keep => rfl
  | create subId body node nowMs w id hfree => cases hfree.symm.trans hused
  | modify => rfl
  | mode => rfl
  | link => rfl
  | unlink => rfl
  | release => cases hused'
  | sample nowMs => exact ItemWorks.target (.sample nowMs item _)
  | turn x sub hsub hsteps => exact hsteps.works.target

def EngineOp.KeepsItem (b : Build) (slot : Nat) (s : Subscriptions W) (op : EngineOp W) : Prop :=
  ∃ item, (op.apply b s).items.monitoredItems[slot]? = some item ∧ item.inUse = true

theorem EngineRuns.target (h : EngineRuns b (EngineOp.KeepsItem b slot) u v) (hu : u.Consistent b)
    (hitem : u.items.monitoredItems[slot]? = some item) (hused : item.inUse = true) :
    ∃ item', v.items.monitoredItems[slot]? = some item' ∧ item'.inUse = true ∧
      item'.target = item.target := by
  induction h with
  | refl => exact ⟨item, hitem, hused, rfl⟩
  | tail hrun hstep ih =>
    obtain ⟨before, hbefore, hbusy, htarget⟩ := ih
    obtain ⟨op, ⟨after, hafter, hkept⟩, rfl⟩ := hstep
    obtain ⟨before', hbefore', hact⟩ :=
      exists_getElem?_of_forall₂ (op.apply_acts (EngineRuns.consistent hrun hu)) hafter
    obtain rfl := Option.some.inj (hbefore.symm.trans hbefore')
    exact ⟨after, hafter, hkept, (hact.target hbusy hkept).trans htarget⟩

def NodeId.FitsMonitored (b : Build) (nodeId : NodeId) : Prop :=
  match nodeId.identifier with
  | .string (some id) => id.length ≤ b.maxMonitoredString
  | _ => True

theorem copyMonitoredNodeId_eq_iff (b : Build) (nodeId : NodeId) :
    copyMonitoredNodeId b nodeId = nodeId ↔ nodeId.FitsMonitored b := by
  obtain ⟨ns, identifier⟩ := nodeId
  cases identifier with
  | numeric id => exact iff_of_true rfl trivial
  | string id =>
    cases id with
    | none => exact iff_of_true rfl trivial
    | some id =>
      change (⟨ns, .string (some (id.take b.maxMonitoredString))⟩ : NodeId) = ⟨ns, .string (some id)⟩ ↔
        id.length ≤ _
      rw [NodeId.mk.injEq, Identifier.string.injEq, Option.some.injEq, List.take_eq_self_iff,
        eq_self, true_and]

theorem createdItem_target (subId id : UInt32) (body : MonitoredItemCreateBody)
    (node : Node W) (nowMs : UInt64) (w : W) :
    (createdItem b subId id body node nowMs w).target =
      (copyMonitoredNodeId b body.nodeId, some node) := by
  refine createdItem_keeps (P := fun item => item.target = _) ?_ (fun _ _ _ h => h) w
  simp only [fillItem]
  split
  · rfl
  · rfl

/-- As long as the item lives, every read of it passes the requested NodeId on exactly when its
identifier fits the copy in the item. -/
theorem sampled_node_as_requested_iff {subId id : UInt32} {body : MonitoredItemCreateBody}
    {node : Node W} {nowMs : UInt64} {w : W} {t : ItemTable W} (hs : s.Consistent b)
    (hin : subscriptionIdInUse s.subscriptions subId = true)
    (halloc : monitoredItemAlloc b s.items subId = (.ok (slot, id), t))
    (hrun : EngineRuns b (EngineOp.KeepsItem b slot)
      ((EngineOp.createItem subId body node nowMs w).apply b s) v) :
    ∃ item, v.items.monitoredItems[slot]? = some item ∧
      (∀ source, node.value = some source → item.readValue = valueSourceRead source item.nodeId .null) ∧
      (item.nodeId = body.nodeId ↔ body.nodeId.FitsMonitored b) := by
  have hcreated : ((EngineOp.createItem subId body node nowMs w).apply b s).items.monitoredItems[slot]? =
      some (createdItem b subId id body node nowMs w) := by
    simp only [EngineOp.apply, if_pos hin]
    exact createItem_slot hs.items subId body node nowMs w halloc
  obtain ⟨hnew, -⟩ := createdItem_new (b := b) subId id body node nowMs w
  obtain ⟨item, hitem, -, htarget⟩ := hrun.target (EngineOp.apply_consistent _ hs) hcreated hnew.inUse
  obtain ⟨hid, hnode⟩ := Prod.mk.inj (htarget.trans (createdItem_target subId id body node nowMs w))
  refine ⟨item, hitem, fun source hsource => ?_, ?_⟩
  · rw [MonitoredItem.readValue, hnode, Option.bind_some, hsource]
  · rw [hid, copyMonitoredNodeId_eq_iff]

end Target

namespace EngineScript

/-- A value source that answers with the length of the identifier it is asked for. -/
def lengthNode : Node Unit :=
  ⟨some (.callback fun nodeId => pure (good, .scalar (.uint32 (match nodeId.identifier with
    | .string (some id) => UInt32.ofNat id.length
    | _ => 0))))⟩

def named (length : Nat) : MonitoredItemCreateBody :=
  { queueOf 1 with nodeId := ⟨1, .string (some (List.replicate length 97))⟩ }

def watched (length : Nat) : Subscriptions Unit :=
  (EngineOp.createItem 1 (named length) lengthNode 0 ()).apply build (after [subscribe 1])

/-- The item is sampled, and its value is sent again. -/
theorem sampled_node_as_requested_iff_short :
    ∃ item, (runOps build [.sample 100 (), .requestResendData 1 1, .turn firstTurn]
      (watched 32)).items.monitoredItems[0]? =
        some item ∧
      (∀ source, lengthNode.value = some source →
        item.readValue = valueSourceRead source item.nodeId .null) ∧
      (item.nodeId = (named 32).nodeId ↔ (named 32).nodeId.FitsMonitored build) := by
  have halloc : monitoredItemAlloc build (after [subscribe 1]).items 1 =
      (.ok (0, 1), (monitoredItemAlloc build (after [subscribe 1]).items 1).2) :=
        Prod.ext (by decide) rfl
  have hkept (ops : List (EngineOp Unit)) (op : EngineOp Unit)
      (h : ((op.apply build (runOps build ops (watched 32))).items.monitoredItems[0]?.any (·.inUse)) =
        true) :
      op.KeepsItem build 0 (runOps build ops (watched 32)) := (Option.any_eq_true _ _).mp h
  have hstart :
    EngineRuns build (EngineOp.KeepsItem build 0) (watched 32) (runOps build [] (watched 32)) := .refl
  have hsample := hstart.concat (.sample 100 ()) (hkept _ _ (by decide +kernel))
  have hresend := hsample.concat (.requestResendData 1 1) (hkept _ _ (by decide +kernel))
  have hturn := hresend.concat (.turn firstTurn) (hkept _ _ (by decide +kernel))
  exact sampled_node_as_requested_iff (runOps_consistent [subscribe 1] init_consistent)
    (by decide) halloc hturn

/-- The initial read asks for the 33 bytes that were requested, and every later one for 32 of them. -/
theorem long_node_id_cut :
    let item := createdItem build 1 1 (named 33) lengthNode 0 ()
    item.lastValue = .scalar (.uint32 33) ∧ (item.readValue.run ()).1 =
        (good, .scalar (.uint32 32)) := by
  decide

end EngineScript

end MicroOpcua
