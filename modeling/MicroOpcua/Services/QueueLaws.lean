import MicroOpcua.Lib.Ring
import MicroOpcua.Services.ItemActs

namespace MicroOpcua

open Lib.Ring Lib.StateRun Lib.Table

variable {W : Type} {b : Build} {item item' : MonitoredItem W}

section Size

theorem clampQueueSize_toNat (b : Build) (size : UInt32) :
    (MonitoredItem.clampQueueSize b size).toNat = min (max size.toNat 1) b.monitoredQueueDepth := by
  have hone : (if size = 0 then 1 else size).toNat = max size.toNat 1 := by
    split
    · rename_i hzero
      rw [hzero]
      rfl
    · rename_i hpos
      have : size.toNat ≠ 0 := fun h => hpos (UInt32.toNat_inj.mp h)
      omega
  simp only [MonitoredItem.clampQueueSize, hone]
  split
  · rename_i hlarge
    have hlt := (if size = 0 then 1 else size).toNat_lt
    rw [hone] at hlt
    rw [UInt32.toNat_ofNat', Nat.mod_eq_of_lt (by omega)]
    omega
  · rw [hone]
    omega

@[simp] theorem clampQueueSize_idem (b : Build) (size : UInt32) :
    MonitoredItem.clampQueueSize b (MonitoredItem.clampQueueSize b size) =
      MonitoredItem.clampQueueSize b size := by
  apply UInt32.toNat_inj.mp
  have hpos := b.monitoredQueueDepth_pos
  rw [clampQueueSize_toNat, clampQueueSize_toNat]
  omega

def MonitoredItem.ringSize (b : Build) (item : MonitoredItem W) : Nat :=
  min (MonitoredItem.clampQueueSize b item.queueSize).toNat 256

theorem ringSize_pos (b : Build) (item : MonitoredItem W) : 0 < item.ringSize b := by
  have hpos := b.monitoredQueueDepth_pos
  rw [MonitoredItem.ringSize, clampQueueSize_toNat]
  omega

theorem ringSize_le_depth (b : Build) (item : MonitoredItem W) :
    item.ringSize b ≤ b.monitoredQueueDepth := by
  rw [MonitoredItem.ringSize, clampQueueSize_toNat]
  omega

theorem queueNext_toNat {index : UInt8} {size : UInt32} (h : index.toNat < min size.toNat 256) :
    (MonitoredItem.queueNext index size).toNat = (index.toNat + 1) % min size.toNat 256 := by
  have hsucc : (index + 1).toNat = (index.toNat + 1) % 256 := UInt8.toNat_add index 1
  unfold MonitoredItem.queueNext
  by_cases hwraps : (index + 1).toUInt32 ≥ size
  · rw [if_pos hwraps]
    have hle : size.toNat ≤ (index.toNat + 1) % 256 := by
      rw [← hsucc, ← UInt8.toNat_toUInt32]
      exact hwraps
    have hlast : index.toNat + 1 = min size.toNat 256 := by omega
    rw [hlast, Nat.mod_self]
    rfl
  · rw [if_neg hwraps, hsucc]
    have hlt : (index.toNat + 1) % 256 < size.toNat := by
      rw [← hsucc, ← UInt8.toNat_toUInt32]
      exact Nat.not_le.mp hwraps
    by_cases hlast : index.toNat + 1 = 256
    · rw [hlast, show min size.toNat 256 = 256 by omega]
    · rw [Nat.mod_eq_of_lt (a := index.toNat + 1) (b := 256) (by omega)] at hlt ⊢
      rw [Nat.mod_eq_of_lt (by omega)]

theorem queuePrevious_toNat {index : UInt8} {size : UInt32} (hsmall : size.toNat ≤ 256)
    (h : index.toNat < size.toNat) :
    (MonitoredItem.queuePrevious index size).toNat = (index.toNat + (size.toNat - 1)) % size.toNat := by
  have hone : (1 : UInt32) ≤ size := UInt32.le_iff_toNat_le.mpr (by change 1 ≤ _; omega)
  unfold MonitoredItem.queuePrevious
  by_cases hzero : index = 0
  · rw [if_pos hzero, UInt32.toNat_toUInt8, UInt32.toNat_sub_of_le _ _ hone, hzero]
    change (size.toNat - 1) % 256 = (0 + (size.toNat - 1)) % size.toNat
    rw [Nat.mod_eq_of_lt (by omega), Nat.zero_add, Nat.mod_eq_of_lt (by omega)]
  · have hpos : index.toNat ≠ 0 := fun h => hzero (UInt8.toNat_inj.mp h)
    have hle : (1 : UInt8) ≤ index := UInt8.le_iff_toNat_le.mpr (by change 1 ≤ _; omega)
    rw [if_neg hzero, UInt8.toNat_sub_of_le _ _ hle]
    change index.toNat - 1 = _
    rw [show index.toNat + (size.toNat - 1) = index.toNat - 1 + size.toNat by omega, Nat.add_mod_right,
      Nat.mod_eq_of_lt (by omega)]

end Size

section Queued

/-- The head, the tail and the count of a queue agree and stay within its cells, and what is pending has
a value or is queued. -/
structure MonitoredItem.WellQueued (b : Build) (item : MonitoredItem W) : Prop where
  cells : item.queue.length = b.monitoredQueueDepth
  head : item.queueHead.toNat < item.ringSize b
  tail : item.queueTail.toNat = (item.queueHead.toNat + item.queueCount.toNat) % item.ringSize b
  count : item.queueCount.toNat ≤ item.ringSize b
  pending : b.subscriptionsStandard = true → item.pending = true → item.hasValue = true ∨
    0 < item.queueCount.toNat

def MonitoredItem.queued (b : Build) (item : MonitoredItem W) : List Report :=
  contents ⟨.null, good⟩ (item.ringSize b) item.queue item.queueHead.toNat item.queueCount.toNat

@[simp] theorem queued_length (b : Build) (item : MonitoredItem W) :
    (item.queued b).length = item.queueCount.toNat := length_contents ..

def MonitoredItem.ring (item : MonitoredItem W) :
    List Report × UInt32 × UInt8 × UInt8 × UInt8 × Bool × Bool :=
  (item.queue, item.queueSize, item.queueHead, item.queueTail, item.queueCount,
    item.pending, item.hasValue)

theorem MonitoredItem.WellQueued.congr (h : item.WellQueued b) (hring : item'.ring = item.ring) :
    item'.WellQueued b := by
  simp only [MonitoredItem.ring, Prod.mk.injEq] at hring
  obtain ⟨hqueue, hsize, hhead, htail, hcount, hpending, hvalue⟩ := hring
  have hring :
    item'.ringSize b = item.ringSize b := by rw [MonitoredItem.ringSize, hsize, MonitoredItem.ringSize]
  refine ⟨?_, ?_, ?_, ?_, ?_⟩
  · rw [hqueue, h.cells]
  · rw [hhead, hring]
    exact h.head
  · rw [htail, hhead, hcount, hring]
    exact h.tail
  · rw [hcount, hring]
    exact h.count
  · rw [hpending, hvalue, hcount]
    exact h.pending

def MonitoredItem.sized (b : Build) (item : MonitoredItem W) : MonitoredItem W :=
  { item with queueSize := clampQueueSize b item.queueSize }

@[simp] theorem ringSize_sized (b : Build) (item : MonitoredItem W) :
    (item.sized b).ringSize b = item.ringSize b := by
  simp only [MonitoredItem.ringSize, MonitoredItem.sized, clampQueueSize_idem]

namespace MonitoredItem.WellQueued

theorem ring_le_queue (h : item.WellQueued b) : item.ringSize b ≤ item.queue.length :=
  h.cells ▸ ringSize_le_depth b item

theorem effectiveQueueSize (h : item.WellQueued b) : item.effectiveQueueSize b = item.sized b := by
  have hle : item.ringSize b ≤ (clampQueueSize b item.queueSize).toNat := Nat.min_le_left ..
  have hhead := h.head
  have htail : item.queueTail.toNat < item.ringSize b := h.tail ▸ Nat.mod_lt _ (ringSize_pos b item)
  have hcount := h.count
  have hin {v : UInt8} (hv : v.toNat < item.ringSize b) :
      ¬ v.toUInt32 ≥ clampQueueSize b item.queueSize := by
    rw [ge_iff_le, UInt32.le_iff_toNat_le, UInt8.toNat_toUInt32]
    omega
  have hfits : ¬ item.queueCount.toUInt32 > clampQueueSize b item.queueSize := by
    rw [gt_iff_lt, UInt32.lt_iff_toNat_lt, UInt8.toNat_toUInt32]
    omega
  simp only [MonitoredItem.effectiveQueueSize, if_neg (hin hhead), if_neg (hin htail), if_neg hfits]
  rfl

end MonitoredItem.WellQueued

end Queued

section Enqueue

variable {r : Report}

def MonitoredItem.pushed (item : MonitoredItem W) (r : Report) : MonitoredItem W :=
  if item.queueCount.toUInt32 < item.queueSize then
    { item with
      queue := item.queue.set item.queueTail.toNat r
      queueTail := queueNext item.queueTail item.queueSize
      queueCount := item.queueCount + 1 }
  else if item.discardOldest then
    markOverflow { item with
      queueHead := queueNext item.queueHead item.queueSize
      queue := item.queue.set item.queueTail.toNat r
      queueTail := queueNext item.queueTail item.queueSize } (queueNext item.queueHead item.queueSize)
  else
    markOverflow
      { item with queue := item.queue.set (queuePrevious item.queueTail item.queueSize).toNat r }
      (queuePrevious item.queueTail item.queueSize)

theorem recordReported_ring (d : DoubleOps) (item : MonitoredItem W) (cur : Variant) :
    (item.recordReported d cur).ring = item.ring := by
  unfold MonitoredItem.recordReported
  split <;> rfl

theorem enqueueReport_ring (h : item.WellQueued b) (cur : Variant) (status : StatusCode) :
    (item.enqueueReport b cur status).ring = ({ (item.sized b).pushed ⟨cur, status⟩ with
        pending := ((item.sized b).pushed ⟨cur, status⟩).queueCount > 0 } : MonitoredItem W).ring := by
  have hring := recordReported_ring b.double ((item.sized b).pushed ⟨cur, status⟩) cur
  have heq : item.enqueueReport b cur status =
      { ((item.sized b).pushed ⟨cur, status⟩).recordReported b.double cur with
        pending :=
            (((item.sized b).pushed ⟨cur, status⟩).recordReported b.double cur).queueCount > 0 } := by
    rw [MonitoredItem.enqueueReport, h.effectiveQueueSize]
    rfl
  rw [heq]
  simp only [MonitoredItem.ring, Prod.mk.injEq] at hring ⊢
  obtain ⟨hqueue, hsize, hhead, htail, hcount, -, hvalue⟩ := hring
  exact ⟨hqueue, hsize, hhead, htail, hcount, by rw [hcount], hvalue⟩

namespace MonitoredItem.WellQueued

theorem next_toNat {index : UInt8} (h : index.toNat < item.ringSize b) :
    (queueNext index (item.sized b).queueSize).toNat = (index.toNat + 1) % item.ringSize b :=
  queueNext_toNat h

/-- A queue without room has as many cells as its size, and its tail has come round to its head. -/
theorem full (h : item.WellQueued b)
    (hfull : ¬ (item.sized b).queueCount.toUInt32 < (item.sized b).queueSize) :
    item.queueCount.toNat = item.ringSize b ∧ (item.sized b).queueSize.toNat = item.ringSize b ∧
      item.queueTail.toNat = item.queueHead.toNat := by
  have hle : (item.sized b).queueSize.toNat ≤ item.queueCount.toNat := by
    rw [← UInt8.toNat_toUInt32]
    exact UInt32.le_iff_toNat_le.mp (UInt32.not_lt.mp hfull)
  have hmin : item.ringSize b = min (item.sized b).queueSize.toNat 256 := rfl
  have hcount := h.count
  have hlt := item.queueCount.toNat_lt
  have heq : item.queueCount.toNat = item.ringSize b := by omega
  refine ⟨heq, by omega, ?_⟩
  rw [h.tail, heq, Nat.add_mod_right, Nat.mod_eq_of_lt h.head]

theorem room (hroom : (item.sized b).queueCount.toUInt32 < (item.sized b).queueSize) :
    item.queueCount.toNat < item.ringSize b := by
  have hlt : item.queueCount.toNat < (item.sized b).queueSize.toNat := by
    rw [← UInt8.toNat_toUInt32]
    exact UInt32.lt_iff_toNat_lt.mp hroom
  have hbyte := item.queueCount.toNat_lt
  exact Nat.lt_min.mpr ⟨hlt, hbyte⟩

theorem pushed (h : item.WellQueued b) (r : Report) (p : Bool)
    (hp : p = true → 0 < ((item.sized b).pushed r).queueCount.toNat) :
    ({ (item.sized b).pushed r with pending := p } : MonitoredItem W).WellQueued b := by
  have hmod (n : Nat) : n % item.ringSize b < item.ringSize b := Nat.mod_lt _ (ringSize_pos b item)
  have htail : item.queueTail.toNat < item.ringSize b := h.tail ▸ hmod _
  by_cases hroom : (item.sized b).queueCount.toUInt32 < (item.sized b).queueSize
  · have hsucc : (item.queueCount + 1).toNat = (item.queueCount.toNat + 1) % 256 := UInt8.toNat_add _ 1
    have hlt := room hroom
    have hring : item.ringSize b ≤ 256 := Nat.min_le_right ..
    have hnext : (item.queueTail.toNat + 1) % item.ringSize b =
        (item.queueHead.toNat + (item.queueCount + 1).toNat) % item.ringSize b := by
      rw [h.tail, Nat.mod_add_mod, Nat.add_assoc, hsucc]
      by_cases hwraps : item.queueCount.toNat + 1 = 256
      · rw [hwraps, show item.ringSize b = 256 by omega, Nat.mod_self, Nat.add_mod_right, Nat.add_zero]
      · rw [Nat.mod_eq_of_lt (a := item.queueCount.toNat + 1) (b := 256) (by omega)]
    simp only [MonitoredItem.pushed, if_pos hroom] at hp ⊢
    refine ⟨(List.length_set ..).trans h.cells, ?_, ?_, ?_, fun _ hpending => .inr (hp hpending)⟩
    · exact ringSize_sized b item ▸ h.head
    · change (queueNext item.queueTail (item.sized b).queueSize).toNat =
        (_ + _) % (item.sized b).ringSize b
      rw [next_toNat htail, ringSize_sized]
      exact hnext
    · change (item.queueCount + 1).toNat ≤ (item.sized b).ringSize b
      rw [ringSize_sized, hsucc]
      omega
  · obtain ⟨hcount, hsize, htailHead⟩ := h.full hroom
    by_cases hdiscard : item.discardOldest = true
    · have hdiscard : (item.sized b).discardOldest = true := hdiscard
      simp only [MonitoredItem.pushed, if_neg hroom, if_pos hdiscard, markOverflow] at hp ⊢
      refine ⟨?_, ?_, ?_, ?_, fun _ hpending => .inr (hp hpending)⟩
      · rw [List.length_modify, List.length_set]
        exact h.cells
      · change (queueNext item.queueHead (item.sized b).queueSize).toNat < (item.sized b).ringSize b
        rw [next_toNat h.head, ringSize_sized]
        exact hmod _
      · change (queueNext item.queueTail (item.sized b).queueSize).toNat =
          ((queueNext item.queueHead (item.sized b).queueSize).toNat + item.queueCount.toNat) %
          (item.sized b).ringSize b
        rw [next_toNat htail, next_toNat h.head, ringSize_sized, hcount, htailHead,
          Nat.add_mod_right, Nat.mod_mod]
      · change item.queueCount.toNat ≤ (item.sized b).ringSize b
        rw [ringSize_sized]
        exact h.count
    · have hdiscard : ¬ (item.sized b).discardOldest = true := hdiscard
      simp only [MonitoredItem.pushed, if_neg hroom, if_neg hdiscard, markOverflow] at hp ⊢
      refine ⟨?_, ringSize_sized b item ▸ h.head, ?_, ?_, fun _ hpending => .inr (hp hpending)⟩
      · rw [List.length_modify, List.length_set]
        exact h.cells
      · change item.queueTail.toNat =
          (item.queueHead.toNat + item.queueCount.toNat) % (item.sized b).ringSize b
        rw [ringSize_sized]
        exact h.tail
      · change item.queueCount.toNat ≤ (item.sized b).ringSize b
        rw [ringSize_sized]
        exact h.count

theorem enqueueReport (h : item.WellQueued b) (cur : Variant) (status : StatusCode) :
    (item.enqueueReport b cur status).WellQueued b := by
  refine (h.pushed ⟨cur, status⟩ _ (fun hp => ?_)).congr (enqueueReport_ring h cur status)
  rw [decide_eq_true_eq, gt_iff_lt, UInt8.lt_iff_toNat_lt] at hp
  exact hp

theorem enqueueReport_pending (h : item.WellQueued b) (cur : Variant) (status : StatusCode)
    (hpending : (item.enqueueReport b cur status).pending = true) :
    0 < (item.enqueueReport b cur status).queueCount.toNat := by
  have hring := enqueueReport_ring h cur status
  simp only [MonitoredItem.ring, Prod.mk.injEq] at hring
  rw [hring.2.2.2.2.2.1, decide_eq_true_eq] at hpending
  rw [hring.2.2.2.2.1]
  exact UInt8.lt_iff_toNat_lt.mp hpending

theorem preparePendingQueue_pending (h : item.WellQueued b) (hstd : b.subscriptionsStandard = true)
    (hpending : (item.preparePendingQueue b).pending = true) :
    0 < (item.preparePendingQueue b).queueCount.toNat := by
  unfold MonitoredItem.preparePendingQueue at hpending ⊢
  split at hpending
  · rename_i hempty
    rw [if_pos hempty]
    exact h.enqueueReport_pending _ _ hpending
  · rename_i hfull
    rw [if_neg hfull]
    have hcount (hitem : item.pending = true) : 0 < item.queueCount.toNat := by
      obtain hvalue | hcount := h.pending hstd hitem
      · apply Nat.pos_of_ne_zero
        intro hzero
        have hzero : item.queueCount = 0 := UInt8.toNat_inj.mp hzero
        exact hfull (by simp [hitem, hvalue, hzero])
      · exact hcount
    have hring := recordReported_ring b.double item item.lastValue
    simp only [MonitoredItem.ring, Prod.mk.injEq] at hring
    split at hpending
    · rename_i hunreported
      rw [if_pos hunreported, hring.2.2.2.2.1]
      rw [hring.2.2.2.2.2.1] at hpending
      exact hcount hpending
    · rename_i hreported
      rw [if_neg hreported]
      exact hcount hpending

end MonitoredItem.WellQueued

def Report.overflowed (r : Report) : Report :=
  { r with status := r.status ||| MonitoredItem.overflowBits }

/-- What a bounded queue does with a new report when it is full: it drops its oldest entry, or its
newest, and marks the entry next to the gap. -/
def pushEntry (discardOldest : Bool) (size : Nat) (q : List Report) (r : Report) : List Report :=
  if q.length < size then q ++ [r]
  else if discardOldest then (q.tail ++ [r]).modify 0 Report.overflowed
  else q.dropLast ++ [r.overflowed]

theorem queued_congr (h : item'.ring = item.ring) : item'.queued b = item.queued b := by
  simp only [MonitoredItem.ring, Prod.mk.injEq] at h
  obtain ⟨hqueue, hsize, hhead, -, hcount, -⟩ := h
  simp only [MonitoredItem.queued, MonitoredItem.ringSize, hqueue, hsize, hhead, hcount]

/-- The queue of an item is a bounded first-in first-out queue, as long as its byte counter holds its
size. -/
theorem enqueueReport_queued (h : item.WellQueued b) (cur : Variant) (status : StatusCode)
    (hsmall : (MonitoredItem.clampQueueSize b item.queueSize).toNat < 256) :
    (item.enqueueReport b cur status).queued b =
      pushEntry item.discardOldest (MonitoredItem.clampQueueSize b item.queueSize).toNat (item.queued b)
      ⟨cur, status⟩ := by
  have hring : item.ringSize b = (MonitoredItem.clampQueueSize b item.queueSize).toNat :=
    Nat.min_eq_left hsmall.le
  have hqueued :
      (item.enqueueReport b cur status).queued b = ((item.sized b).pushed ⟨cur, status⟩).queued b :=
    (queued_congr (enqueueReport_ring h cur status)).trans rfl
  have hcells := h.ring_le_queue
  have hset (i : Nat) :
    item.ringSize b ≤ (item.queue.set i ⟨cur, status⟩).length := by rwa [List.length_set]
  rw [hqueued, ← hring, pushEntry, queued_length]
  by_cases hroom : (item.sized b).queueCount.toUInt32 < (item.sized b).queueSize
  · have hlt := MonitoredItem.WellQueued.room hroom
    have hsucc : (item.queueCount + 1).toNat = item.queueCount.toNat + 1 := by
      have hadd : (item.queueCount + 1).toNat = (item.queueCount.toNat + 1) % 256 := UInt8.toNat_add _ 1
      rw [hadd, Nat.mod_eq_of_lt (by omega)]
    rw [if_pos hlt]
    simp only [MonitoredItem.pushed, if_pos hroom]
    change contents _ ((item.sized b).ringSize b) (item.queue.set item.queueTail.toNat _)
      item.queueHead.toNat (item.queueCount + 1).toNat = _
    rw [ringSize_sized, hsucc, h.tail]
    exact contents_push _ _ hcells hlt
  · obtain ⟨hcount, hsize, htail⟩ := h.full hroom
    rw [if_neg (by omega)]
    by_cases hdiscard : item.discardOldest = true
    · have hdiscard' : (item.sized b).discardOldest = true := hdiscard
      rw [if_pos hdiscard]
      simp only [MonitoredItem.pushed, if_neg hroom, if_pos hdiscard', MonitoredItem.markOverflow]
      change contents _ ((item.sized b).ringSize b) ((item.queue.set item.queueTail.toNat _).modify
        (MonitoredItem.queueNext item.queueHead (item.sized b).queueSize).toNat Report.overflowed)
        (MonitoredItem.queueNext item.queueHead (item.sized b).queueSize).toNat item.queueCount.toNat = _
      rw [ringSize_sized, MonitoredItem.WellQueued.next_toNat h.head, htail,
        MonitoredItem.queued, hcount, ← contents_rotate _ hcells h.head]
      have hmodify :=
        contents_modify (d := (⟨.null, good⟩ : Report)) ((item.queueHead.toNat + 1) % item.ringSize b)
          Report.overflowed (hset item.queueHead.toNat) (Nat.le_refl _) (ringSize_pos b item)
      rwa [Nat.add_zero, Nat.mod_mod] at hmodify
    · have hdiscard' : ¬ (item.sized b).discardOldest = true := hdiscard
      rw [if_neg hdiscard]
      obtain ⟨n, hn⟩ : ∃ n, item.ringSize b = n + 1 :=
        ⟨item.ringSize b - 1, by have := ringSize_pos b item; omega⟩
      have hprevious : (MonitoredItem.queuePrevious item.queueTail (item.sized b).queueSize).toNat =
          (item.queueHead.toNat + n) % item.ringSize b := by
        rw [queuePrevious_toNat (by omega) (by rw [htail, hsize]; exact h.head), htail, hsize,
          hn, Nat.add_sub_cancel]
      simp only [MonitoredItem.pushed, if_neg hroom, if_neg hdiscard', MonitoredItem.markOverflow]
      change contents _ ((item.sized b).ringSize b) ((item.queue.set
        (MonitoredItem.queuePrevious item.queueTail (item.sized b).queueSize).toNat _).modify
        (MonitoredItem.queuePrevious item.queueTail (item.sized b).queueSize).toNat Report.overflowed)
        item.queueHead.toNat item.queueCount.toNat = _
      have hmark (i : Nat) : (item.queue.set i ⟨cur, status⟩).modify i Report.overflowed =
          item.queue.set i (Report.overflowed ⟨cur, status⟩) := by
        rw [List.set_eq_modify, List.modify_modify_eq, List.set_eq_modify]
        rfl
      have hreplace := contents_replace (d := (⟨.null, good⟩ : Report)) item.queueHead.toNat
        (Report.overflowed ⟨cur, status⟩) hcells (show n < item.ringSize b by omega)
      rw [ringSize_sized, hprevious, hmark, MonitoredItem.queued, hcount]
      rwa [← hn] at hreplace

end Enqueue

section Drain

theorem drainLoop_eq (size : UInt32) (n : Nat) (item : MonitoredItem W)
    (hhead : item.queueHead.toNat < min size.toNat 256) :
    ∃ head : UInt8,
      head.toNat = (item.queueHead.toNat + min n item.queueCount.toNat) % min size.toNat 256 ∧
      MonitoredItem.drainLoop size n item =
        ({ item with queueHead := head, queueCount := UInt8.ofNat (item.queueCount.toNat - n) },
          n - item.queueCount.toNat) := by
  induction n generalizing item with
  | zero =>
    refine ⟨item.queueHead, ?_, ?_⟩
    · rw [Nat.zero_min, Nat.add_zero, Nat.mod_eq_of_lt hhead]
    · rw [Nat.sub_zero, UInt8.ofNat_toNat, Nat.zero_sub]
      rfl
  | succ n ih =>
    unfold MonitoredItem.drainLoop
    by_cases hpos : item.queueCount > 0
    · have hlt : 0 < item.queueCount.toNat := UInt8.lt_iff_toNat_lt.mp hpos
      have hpred : (item.queueCount - 1).toNat = item.queueCount.toNat - 1 :=
        UInt8.toNat_sub_of_le _ _ (UInt8.le_iff_toNat_le.mpr (by change 1 ≤ _; omega))
      have hnext := queueNext_toNat hhead
      have hmod : (MonitoredItem.queueNext item.queueHead size).toNat < min size.toNat 256 :=
        hnext ▸ Nat.mod_lt _ (by omega)
      rw [if_pos hpos]
      obtain ⟨head, hvalue, hloop⟩ := ih { item with
        queueHead := MonitoredItem.queueNext item.queueHead size, queueCount :=
          item.queueCount - 1 } hmod
      refine ⟨head, ?_, ?_⟩
      · dsimp only at hvalue
        rw [hvalue, hnext, hpred, Nat.mod_add_mod]
        congr 1
        omega
      · rw [hloop]
        dsimp only
        rw [hpred, show item.queueCount.toNat - 1 - n = item.queueCount.toNat - (n + 1) by omega,
          show n - (item.queueCount.toNat - 1) = n + 1 - item.queueCount.toNat by omega]
    · have hzero : item.queueCount = 0 := by
        apply UInt8.toNat_inj.mp
        have := fun h => hpos (UInt8.lt_iff_toNat_lt.mpr h)
        change _ = 0
        change ¬ 0 < _ at this
        omega
      rw [if_neg hpos]
      refine ⟨item.queueHead, ?_, ?_⟩
      · rw [hzero]
        change _ = (_ + min (n + 1) 0) % _
        rw [Nat.min_zero, Nat.add_zero, Nat.mod_eq_of_lt hhead]
      · rw [show UInt8.ofNat (item.queueCount.toNat - (n + 1)) = item.queueCount by simp [hzero],
          show n + 1 - item.queueCount.toNat = n + 1 by simp [hzero]]

theorem drainReportedEntries_spec (h : item.WellQueued b) (n : Nat) :
    (item.drainReportedEntries b n).1.WellQueued b ∧
      (item.drainReportedEntries b n).1.queued b = (item.queued b).drop n ∧
      (item.drainReportedEntries b n).2 = n - (item.queued b).length := by
  obtain ⟨head, hhead, hloop⟩ := drainLoop_eq (item.sized b).queueSize n (item.sized b) h.head
  have hmod : head.toNat < item.ringSize b := hhead ▸ Nat.mod_lt _ (ringSize_pos b item)
  have hleft : (UInt8.ofNat (item.queueCount.toNat - n)).toNat = item.queueCount.toNat - n := by
    have := item.queueCount.toNat_lt
    rw [UInt8.toNat_ofNat', Nat.mod_eq_of_lt (by omega)]
  simp only [MonitoredItem.drainReportedEntries, h.effectiveQueueSize, hloop, queued_length]
  by_cases hempty : item.queueCount.toNat ≤ n
  · have hzero : UInt8.ofNat ((item.sized b).queueCount.toNat - n) = 0 := by
      apply UInt8.toNat_inj.mp
      exact hleft.trans (Nat.sub_eq_zero_of_le hempty)
    have hpos := ringSize_pos b (item.sized b)
    rw [if_pos hzero]
    refine ⟨⟨h.cells, hpos, ?_, ?_, by rintro _ ⟨⟩⟩, ?_, rfl⟩
    · change 0 = (0 + (UInt8.ofNat ((item.sized b).queueCount.toNat - n)).toNat) % _
      rw [hzero]
      exact (Nat.zero_mod _).symm
    · change (UInt8.ofNat ((item.sized b).queueCount.toNat - n)).toNat ≤ _
      rw [hzero]
      exact Nat.zero_le _
    · apply List.ext_getElem?
      intro k
      rw [List.getElem?_eq_none, List.getElem?_eq_none]
      · rw [List.length_drop, queued_length]
        omega
      · rw [queued_length]
        exact (hleft.trans (Nat.sub_eq_zero_of_le hempty)).le.trans (Nat.zero_le k)
  · have hpos : 0 < (UInt8.ofNat ((item.sized b).queueCount.toNat - n)).toNat := by
      change 0 < (UInt8.ofNat (item.queueCount.toNat - n)).toNat
      omega
    have hcount := h.count
    have hmin : min n (item.sized b).queueCount.toNat = n := Nat.min_eq_left (Nat.le_of_not_le hempty)
    rw [hmin] at hhead
    rw [if_neg (fun h => by rw [h] at hpos; cases hpos)]
    refine ⟨⟨h.cells, ringSize_sized b item ▸ hmod, ?_, ?_, fun _ _ => .inr hpos⟩, ?_, rfl⟩
    · change item.queueTail.toNat =
        (head.toNat + (UInt8.ofNat (item.queueCount.toNat - n)).toNat) % (item.sized b).ringSize b
      rw [hleft, ringSize_sized, hhead]
      change _ = (_ % item.ringSize b + _) % _
      rw [Nat.mod_add_mod, h.tail, Nat.add_assoc]
      change _ = (item.queueHead.toNat + _) % _
      congr 2
      omega
    · change (UInt8.ofNat (item.queueCount.toNat - n)).toNat ≤ (item.sized b).ringSize b
      rw [hleft, ringSize_sized]
      omega
    · change contents _ ((item.sized b).ringSize b) item.queue head.toNat
        (UInt8.ofNat (item.queueCount.toNat - n)).toNat = _
      rw [hleft, ringSize_sized, hhead]
      exact contents_drop _ _ _ _ _ _

end Drain

section Moves

theorem zero_wellQueued (b : Build) : (MonitoredItem.zero b : MonitoredItem W).WellQueued b := by
  have hpos := ringSize_pos b (MonitoredItem.zero b : MonitoredItem W)
  exact ⟨List.length_replicate, hpos, (Nat.zero_mod _).symm, Nat.zero_le _, fun _ h => nomatch h⟩

theorem NewItem.wellQueued {subId : UInt32} (h : NewItem b subId item) : item.WellQueued b := by
  refine ⟨h.queue, ?_, ?_, ?_, fun _ hpending => .inl (h.value hpending)⟩
  · rw [h.head]
    exact ringSize_pos b item
  · rw [h.head, h.tail, h.count]
    exact (Nat.zero_mod _).symm
  · rw [h.count]
    exact Nat.zero_le _

theorem ItemStep.wellQueued (h : ItemStep b item item') (hitem : item.WellQueued b) :
    item'.WellQueued b := by
  cases h with
  | enqueue cur status => exact hitem.enqueueReport cur status
  | drain remaining => exact (drainReportedEntries_spec hitem remaining).1
  | value cur status => exact ⟨hitem.cells, hitem.head, hitem.tail, hitem.count, fun _ _ => .inl rfl⟩
  | record numeric reported st next => exact hitem.congr rfl
  | pending p basic =>
    exact ⟨hitem.cells, hitem.head, hitem.tail, hitem.count, fun hstd =>
      absurd (hstd.symm.trans basic) nofun⟩

theorem ItemWorks.wellQueued (h : ItemWorks b item item') (hitem : item.WellQueued b) :
    item'.WellQueued b := by
  induction h with
  | refl => exact hitem
  | tail _ hstep ih => exact hstep.wellQueued ih

variable (b) in
inductive ItemMove : MonitoredItem W → MonitoredItem W → Prop where
  | works {item item' : MonitoredItem W} (h : ItemWorks b item item') : ItemMove item item'
  | configure (item : MonitoredItem W) (sampling handle : UInt32) (mode : UInt8) (links : List UInt32) :
      ItemMove item { item with
        samplingIntervalMs := sampling, clientHandle := handle, monitoringMode :=
          mode, triggeredItems := links }
  | create {item item' : MonitoredItem W} {subscriptionId : UInt32} (hfree : item.inUse = false)
      (hnew : NewItem b subscriptionId item') : ItemMove item item'
  | release (item : MonitoredItem W) : ItemMove item (.zero b)

theorem ItemMove.wellQueued (h : ItemMove b item item') (hitem : item.WellQueued b) :
    item'.WellQueued b := by
  cases h with
  | works h => exact h.wellQueued hitem
  | configure sampling handle mode links => exact hitem.congr rfl
  | create hfree hnew => exact hnew.wellQueued
  | release => exact zero_wellQueued b

variable {items items' : ItemList W} {s t : Subscriptions W}

theorem ItemMove.refl (item : MonitoredItem W) : ItemMove b item item := .works (.refl item)

theorem ItemAct.move {op : EngineOp W} (h : ItemAct b s op item item') : ItemMove b item item' := by
  cases h with
  | keep => exact .refl item
  | create subId body node nowMs w id hfree =>
    exact .create hfree (createdItem_new subId id body node nowMs w).1
  | modify => exact .configure item _ _ _ _
  | mode => exact .configure item _ _ _ _
  | link => exact .configure item _ _ _ _
  | unlink => exact .configure item _ _ _ _
  | release => exact .release item
  | sample nowMs => exact .works (.sample nowMs item _)
  | turn x sub hsub hsteps => exact .works hsteps.works

def Subscriptions.WellQueued (b : Build) (s : Subscriptions W) : Prop :=
  ∀ item ∈ s.items.monitoredItems, item.WellQueued b

theorem wellQueued_of_works (h : List.Forall₂ (ItemWorks b) items items')
    (hitems : ∀ item ∈ items, item.WellQueued b) : ∀ item ∈ items', item.WellQueued b :=
  forall_of_forall₂ h (fun _ _ => ItemWorks.wellQueued) hitems

theorem EngineOp.apply_wellQueued (op : EngineOp W) (h : s.Consistent b) (hs : s.WellQueued b) :
    (op.apply b s).WellQueued b :=
  forall_of_forall₂ (op.apply_acts h) (fun _ _ hact => hact.move.wellQueued) hs

theorem init_wellQueued : (Subscriptions.init b : Subscriptions W).WellQueued b := by
  intro item hitem
  obtain rfl := List.eq_of_mem_replicate hitem
  exact zero_wellQueued b

theorem runOps_wellQueued (ops : List (EngineOp W)) (h : s.Consistent b) (hs : s.WellQueued b) :
    (runOps b ops s).WellQueued b := by
  induction ops generalizing s with
  | nil => exact hs
  | cons op ops ih => exact ih (op.apply_consistent h) (op.apply_wellQueued h hs)

theorem EngineRuns.wellQueued {P : Subscriptions W → EngineOp W → Prop} (h : EngineRuns b P s t)
    (hs : s.Consistent b) (hitems : s.WellQueued b) : t.WellQueued b :=
  h.items (fun _ _ _ _ _ hact _ => hact.move.wellQueued) hs hitems

end Moves

end MicroOpcua
