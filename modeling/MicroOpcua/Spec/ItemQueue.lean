import MicroOpcua.Core.Script
import MicroOpcua.Services.QueueLaws

namespace MicroOpcua

open Lib.Ring Lib.StateRun

variable {W : Type} {b : Build} {item item' : MonitoredItem W}

section Refinement

inductive RingOp where
  | enqueue (cur : Variant) (status : StatusCode)
  | drain (remaining : Nat)

def RingOp.run (b : Build) (item : MonitoredItem W) : RingOp → MonitoredItem W
  | .enqueue cur status => item.enqueueReport b cur status
  | .drain remaining => (item.drainReportedEntries b remaining).1

/-- The operation on a list of at most `size` reports, oldest first. -/
def RingOp.apply (discardOldest : Bool) (size : Nat) (q : List Report) : RingOp → List Report
  | .enqueue cur status => pushEntry discardOldest size q ⟨cur, status⟩
  | .drain remaining => q.drop remaining

structure Represents (b : Build) (discardOldest : Bool) (size : Nat) (item : MonitoredItem W)
    (q : List Report) : Prop where
  well : item.WellQueued b
  size : (MonitoredItem.clampQueueSize b item.queueSize).toNat = size
  policy : item.discardOldest = discardOldest
  entries : item.queued b = q

variable {discardOldest : Bool} {size : Nat} {q : List Report}

theorem enqueueReport_discardOldest (b : Build) (item : MonitoredItem W) (cur : Variant)
    (status : StatusCode) : (item.enqueueReport b cur status).discardOldest = item.discardOldest := by
  have hpolicy := congrArg MonitoredItem.discardOldest (enqueueReport_sampling b item cur status)
  exact hpolicy

theorem pushed_queueSize (item : MonitoredItem W) (r : Report) :
    (item.pushed r).queueSize = item.queueSize := by
  unfold MonitoredItem.pushed
  split
  · rfl
  · split
    · rfl
    · rfl

theorem enqueueReport_queueSize (h : item.WellQueued b) (cur : Variant) (status : StatusCode) :
    (item.enqueueReport b cur status).queueSize = MonitoredItem.clampQueueSize b item.queueSize := by
  have hring := enqueueReport_ring h cur status
  simp only [MonitoredItem.ring, Prod.mk.injEq] at hring
  rw [hring.2.1, pushed_queueSize]
  rfl

theorem drainReportedEntries_frame (h : item.WellQueued b) (remaining : Nat) :
    (item.drainReportedEntries b remaining).1.discardOldest = item.discardOldest ∧
      (item.drainReportedEntries b remaining).1.queueSize =
        MonitoredItem.clampQueueSize b item.queueSize := by
  obtain ⟨head, -, hloop⟩ := drainLoop_eq (item.sized b).queueSize remaining (item.sized b) h.head
  simp only [MonitoredItem.drainReportedEntries, h.effectiveQueueSize, hloop]
  split
  · exact ⟨rfl, rfl⟩
  · exact ⟨rfl, rfl⟩

theorem Represents.step (h : Represents b discardOldest size item q)
    (hsmall : size < 256) (op : RingOp) :
    Represents b discardOldest size (op.run b item) (op.apply discardOldest size q) := by
  obtain ⟨hwell, hsize, hpolicy, hentries⟩ := h
  cases op with
  | enqueue cur status =>
    refine ⟨hwell.enqueueReport cur status, ?_, ?_, ?_⟩
    · rw [RingOp.run, enqueueReport_queueSize hwell, clampQueueSize_idem, hsize]
    · rw [RingOp.run, enqueueReport_discardOldest, hpolicy]
    · rw [RingOp.run, enqueueReport_queued hwell cur status (hsize ▸ hsmall), hpolicy, hsize, hentries]
      rfl
  | drain remaining =>
    obtain ⟨hdrained, hqueued, -⟩ := drainReportedEntries_spec hwell remaining
    obtain ⟨hdiscard, hstored⟩ := drainReportedEntries_frame hwell remaining
    refine ⟨hdrained, ?_, ?_, ?_⟩
    · rw [RingOp.run, hstored, clampQueueSize_idem, hsize]
    · rw [RingOp.run, hdiscard, hpolicy]
    · rw [RingOp.run, hqueued, hentries]
      rfl

theorem Represents.run (h : Represents b discardOldest size item q) (hsmall : size < 256)
    (ops : List RingOp) :
    Represents b discardOldest size (ops.foldl (RingOp.run b) item)
      (ops.foldl (RingOp.apply discardOldest size) q) := by
  induction ops generalizing item q with
  | nil => exact h
  | cons op ops ih =>
    apply ih
    exact h.step hsmall op

theorem initialSample_policy (body : MonitoredItemCreateBody) (node : Node W)
    (item : MonitoredItem W) (w : W) :
    ((initialSample body node item).run w).1.discardOldest = item.discardOldest ∧
      ((initialSample body node item).run w).1.queueSize = item.queueSize := by
  obtain hsame | ⟨-, status, value, hsame⟩ := initialSample_cases body node item w
  · rw [hsame]
    exact ⟨rfl, rfl⟩
  · rw [hsame]
    exact ⟨rfl, rfl⟩

theorem createdItem_represents (hstd : b.subscriptionsStandard = true) (subId id : UInt32)
    (body : MonitoredItemCreateBody) (node : Node W) (nowMs : UInt64) (w : W) :
    Represents b body.discardOldest (min (max body.queueSize.toNat 1) b.monitoredQueueDepth)
      (createdItem b subId id body node nowMs w) [] := by
  have hnew : NewItem b subId (createdItem b subId id body node nowMs w) :=
    (createdItem_new subId id body node nowMs w).1
  obtain ⟨hpolicy, hsize⟩ :=
    initialSample_policy body node (fillItem b body node nowMs (allocatedItem b subId id)) w
  refine ⟨hnew.wellQueued, ?_, ?_, ?_⟩
  · rw [createdItem, hsize, fillItem, if_pos hstd]
    dsimp only
    rw [clampQueueSize_idem, clampQueueSize_toNat]
  · rw [createdItem, hpolicy, fillItem, if_pos hstd]
  · apply List.eq_nil_of_length_eq_zero
    rw [queued_length, hnew.count]
    rfl

/-- Whatever is enqueued and drained, the ring of an item that was created for a request is the bounded
queue of the size that was granted, and its indices stay within it. -/
theorem item_queue_is_bounded_list (hstd : b.subscriptionsStandard = true)
    (hdepth : b.monitoredQueueDepth ≤ 255) (subId id : UInt32) (body : MonitoredItemCreateBody)
    (node : Node W) (nowMs : UInt64) (w : W)
    (ops : List RingOp) :
    let size := min (max body.queueSize.toNat 1) b.monitoredQueueDepth
    let item := ops.foldl (RingOp.run b) (createdItem b subId id body node nowMs w)
    contents ⟨.null, good⟩ size item.queue item.queueHead.toNat item.queueCount.toNat =
        ops.foldl (RingOp.apply body.discardOldest size) [] ∧
      item.queueHead.toNat < size ∧ item.queueTail.toNat < size ∧ item.queueCount.toNat ≤ size ∧
      item.queueTail.toNat = (item.queueHead.toNat + item.queueCount.toNat) % size := by
  intro size item
  have hsmall : size < 256 := by omega
  have h :
      Represents b body.discardOldest size item (ops.foldl (RingOp.apply body.discardOldest size) []) :=
    (createdItem_represents hstd subId id body node nowMs w).run hsmall ops
  have hring : item.ringSize b = size := by
    rw [MonitoredItem.ringSize, h.size]
    exact Nat.min_eq_left hsmall.le
  have hentries := h.entries
  have htail := h.well.tail
  rw [MonitoredItem.queued, hring] at hentries
  rw [hring] at htail
  refine ⟨hentries, hring ▸ h.well.head, ?_, hring ▸ h.well.count, htail⟩
  rw [htail]
  exact Nat.mod_lt _ (hring ▸ ringSize_pos b item)

def EngineScript.queueOf (size : UInt32) : MonitoredItemCreateBody where
  nodeId := .ns0 2258
  attributeId := 13
  monitoringMode := 2
  clientHandle := 10
  samplingIntervalBits := 0
  filter := FilterBody.default
  selectClauses := noClauses
  queueSize := size
  discardOldest := true

open EngineScript

theorem item_queue_is_bounded_list_single :
    let item := [RingOp.enqueue (.scalar (.uint32 5)) good, .enqueue (.scalar (.uint32 6)) good].foldl
      (RingOp.run build)
      (createdItem build 1 1 (queueOf 0) ⟨none⟩ 0 ())
    contents ⟨.null, good⟩ 1 item.queue item.queueHead.toNat item.queueCount.toNat =
      [⟨.scalar (.uint32 6), MonitoredItem.overflowBits⟩] := by
  have h := item_queue_is_bounded_list (W := Unit) (b := build) rfl (by decide) 1 1
    (queueOf 0) ⟨none⟩ 0 () [.enqueue (.scalar (.uint32 5)) good, .enqueue (.scalar (.uint32 6)) good]
  exact h.1.trans (by decide)

end Refinement

end MicroOpcua
