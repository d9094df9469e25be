import MicroOpcua.Services.QueueLaws

namespace MicroOpcua

open Lib.Ring Lib.StateRun

variable {W : Type} {b : Build} {item : MonitoredItem W} {cur : Variant} {status : StatusCode}

section Frames

structure SameSampling (item' item : MonitoredItem W) : Prop where
  lastValue : item'.lastValue = item.lastValue
  lastStatus : item'.lastStatus = item.lastStatus
  hasValue : item'.hasValue = item.hasValue
  trigger : item'.trigger = item.trigger
  deadbandType : item'.deadbandType = item.deadbandType
  deadbandValue : item'.deadbandValue = item.deadbandValue
  discardOldest : item'.discardOldest = item.discardOldest

theorem SameSampling.of_eq {item' : MonitoredItem W} (h : item'.sampling = item.sampling) :
    SameSampling item' item := by
  have hvalue := congrArg MonitoredItem.lastValue h
  have hstatus := congrArg MonitoredItem.lastStatus h
  have hhas := congrArg MonitoredItem.hasValue h
  have htrigger := congrArg MonitoredItem.trigger h
  have htype := congrArg MonitoredItem.deadbandType h
  have hdeadband := congrArg MonitoredItem.deadbandValue h
  have hpolicy := congrArg MonitoredItem.discardOldest h
  exact ⟨hvalue, hstatus, hhas, htrigger, htype, hdeadband, hpolicy⟩

theorem recordReported_reference (d : DoubleOps) (item : MonitoredItem W) (cur : Variant) :
    (item.recordReported d cur).reference =
      ((variantNumericToDouble d cur).getD item.lastReportedNumeric, true) := by
  unfold MonitoredItem.recordReported
  cases variantNumericToDouble d cur <;> rfl

theorem enqueueReport_reference (b : Build) (item : MonitoredItem W) (cur : Variant)
    (status : StatusCode) : (item.enqueueReport b cur status).reference =
      ((variantNumericToDouble b.double cur).getD item.lastReportedNumeric, true) := by
  have hpending (item : MonitoredItem W) (p : Bool) :
      ({ item with pending := p } : MonitoredItem W).reference = item.reference := rfl
  simp only [MonitoredItem.enqueueReport]
  rw [hpending, recordReported_reference]
  split
  · rfl
  · split
    · rfl
    · rfl

theorem advanceSampleTimer_eq (item : MonitoredItem W) (nowMs : UInt64) :
    ∃ next, item.advanceSampleTimer nowMs = { item with nextSampleMs := next } := by
  simp only [MonitoredItem.advanceSampleTimer]
  generalize (if item.samplingIntervalMs = 0 then (1 : UInt64) else item.samplingIntervalMs.toUInt64) =
    interval
  split
  · split
    · split
      · exact ⟨_, rfl⟩
      · exact ⟨_, rfl⟩
    · split
      · exact ⟨_, rfl⟩
      · exact ⟨_, rfl⟩
  · exact ⟨item.nextSampleMs, rfl⟩

end Frames

section Prepare

def MonitoredItem.waits (item : MonitoredItem W) : Bool :=
  item.pending && item.queueCount = 0 && item.hasValue

/-- What an item has to report: its queue, or the recorded value that waits for a place in it. -/
def MonitoredItem.toReport (b : Build) (item : MonitoredItem W) : List Report :=
  if item.waits then [⟨item.lastValue, item.lastStatus⟩] else item.queued b

theorem preparePendingQueue_sampling (b : Build) (item : MonitoredItem W) :
    (item.preparePendingQueue b).sampling = item.sampling := by
  unfold MonitoredItem.preparePendingQueue
  split
  · exact enqueueReport_sampling b item _ _
  · split
    · exact recordReported_sampling b.double item _
    · rfl

theorem recordSampleStandard_eq (hvalue : item.hasValue = true) :
    item.recordSampleStandard b cur status =
      let prepared := item.preparePendingQueue b
      if prepared.sampleChanged cur status then
        if prepared.changeReportable b.double cur status then
          ({ prepared with lastValue := cur, lastStatus := status }).enqueueReport b cur status
        else prepared
      else prepared := by
  have hprepared : (if item.hasValue && (!item.hasReported || (item.pending && item.queueCount = 0)) then
      item.preparePendingQueue b else item) = item.preparePendingQueue b := by
    split
    · rfl
    · rename_i hready
      simp only [hvalue, Bool.true_and, Bool.or_eq_true, not_or] at hready
      have hwaits : ¬ (item.pending && item.queueCount = 0 && item.hasValue) = true := by
        rw [hvalue, Bool.and_true]
        exact hready.2
      rw [MonitoredItem.preparePendingQueue, if_neg hwaits,
        if_neg (by rw [hvalue, Bool.true_and]; exact hready.1)]
  have hkept : (item.preparePendingQueue b).hasValue = true :=
    (SameSampling.of_eq (preparePendingQueue_sampling b item)).hasValue.trans hvalue
  simp only [MonitoredItem.recordSampleStandard, hprepared, hkept]
  rfl

theorem recordSampleStandard_first (hvalue : item.hasValue = false) :
    item.recordSampleStandard b cur status =
      ({ item with lastValue := cur, lastStatus := status, hasValue := true }).enqueueReport
      b cur status := by
  simp only [MonitoredItem.recordSampleStandard, hvalue, Bool.false_and, Bool.false_eq_true,
    if_false, Bool.not_false,
    if_true]

theorem enqueueReport_first (h : item.WellQueued b) (hempty : item.queueCount = 0) (cur : Variant)
    (status : StatusCode) : (item.enqueueReport b cur status).queued b = [⟨cur, status⟩] ∧
      (item.enqueueReport b cur status).queueCount = 1 ∧
      (item.enqueueReport b cur status).pending = true := by
  have hsize : 0 < (item.sized b).queueSize.toNat := by
    have hpos := ringSize_pos b item
    rw [MonitoredItem.ringSize] at hpos
    exact Nat.lt_of_lt_of_le hpos (Nat.min_le_left ..)
  have hroom : (item.sized b).queueCount.toUInt32 < (item.sized b).queueSize := by
    change item.queueCount.toUInt32 < _
    rw [hempty]
    exact UInt32.lt_iff_toNat_lt.mpr hsize
  have hring := enqueueReport_ring h cur status
  simp only [MonitoredItem.pushed, if_pos hroom] at hring
  have hcount : (item.sized b).queueCount = 0 := hempty
  have htail : item.queueTail.toNat = item.queueHead.toNat := by
    have htail := h.tail
    rw [hempty] at htail
    exact htail.trans (Nat.mod_eq_of_lt h.head)
  refine ⟨?_, ?_, ?_⟩
  · rw [queued_congr hring]
    change contents _ ((item.sized b).ringSize b) (item.queue.set item.queueTail.toNat _)
      item.queueHead.toNat (item.queueCount + 1).toNat = _
    have hone : (item.queueCount + 1).toNat = 0 + 1 := by rw [hempty]; rfl
    have hlt : item.queueHead.toNat < item.queue.length := Nat.lt_of_lt_of_le h.head h.ring_le_queue
    rw [ringSize_sized, hone, contents_succ h.head, htail]
    simp only [List.getD_eq_getElem?_getD, List.getElem?_set_self hlt, Option.getD_some]
    rfl
  · simp only [MonitoredItem.ring, Prod.mk.injEq] at hring
    rw [hring.2.2.2.2.1, hcount]
    rfl
  · simp only [MonitoredItem.ring, Prod.mk.injEq] at hring
    rw [hring.2.2.2.2.2.1, hcount]
    rfl

theorem preparePendingQueue_waits (hwaits : item.waits = true) :
    item.preparePendingQueue b = item.enqueueReport b item.lastValue item.lastStatus := if_pos hwaits

theorem preparePendingQueue_ring (hwaits : ¬ item.waits = true) :
    (item.preparePendingQueue b).ring = item.ring := by
  unfold MonitoredItem.waits at hwaits
  rw [MonitoredItem.preparePendingQueue, if_neg hwaits]
  split
  · exact recordReported_ring b.double item _
  · rfl

theorem preparePendingQueue_spec (h : item.WellQueued b) : (item.preparePendingQueue b).WellQueued b ∧
      (item.preparePendingQueue b).queued b = item.toReport b ∧
      (item.preparePendingQueue b).pending = item.pending ∧
      (item.preparePendingQueue b).waits = false := by
  unfold MonitoredItem.toReport
  by_cases hwaits : item.waits = true
  · have hwaiting := hwaits
    simp only [MonitoredItem.waits, Bool.and_eq_true, decide_eq_true_eq] at hwaiting
    obtain ⟨⟨hpending, hempty⟩, -⟩ := hwaiting
    obtain ⟨hqueued, hcount, hset⟩ := enqueueReport_first h hempty item.lastValue item.lastStatus
    rw [if_pos hwaits, preparePendingQueue_waits hwaits]
    refine ⟨h.enqueueReport _ _, hqueued, hset.trans hpending.symm, ?_⟩
    rw [MonitoredItem.waits, hcount]
    simp
  · have hring := preparePendingQueue_ring (b := b) hwaits
    rw [if_neg hwaits]
    refine ⟨h.congr hring, queued_congr hring, ?_, ?_⟩
    · simp only [MonitoredItem.ring, Prod.mk.injEq] at hring
      exact hring.2.2.2.2.2.1
    · simp only [MonitoredItem.ring, Prod.mk.injEq] at hring
      rw [Bool.not_eq_true] at hwaits
      rw [← hwaits, MonitoredItem.waits, MonitoredItem.waits, hring.2.2.2.2.1, hring.2.2.2.2.2.1,
        hring.2.2.2.2.2.2]

end Prepare

section Ticks

structure MonitoredItem.Sampled (b : Build) (nowMs : UInt64) (item : MonitoredItem W) : Prop where
  enabled : item.monitoringMode ≠ monitoringDisabled
  due : item.nextSampleMs ≤ nowMs
  data : ¬ (b.events = true ∧ item.attributeId = eventNotifierAttribute)

theorem sample_plain {nowMs : UInt64} (hsampled : item.Sampled b nowMs)
    (hplain : item.hasAggregate = false) (w : W) : ∃ next, ((item.sample b nowMs).run w).1 =
      let r := (item.readValue.run w).1
      let recorded := if b.subscriptionsStandard then item.recordSampleStandard b r.2 r.1
        else item.recordSampleBasic r.2 r.1
      { recorded with nextSampleMs := next } := by
  have hdue : ¬ nowMs < item.nextSampleMs := UInt64.not_lt.mpr hsampled.due
  have hdata : ¬ (b.events && item.attributeId = MonitoredItem.eventNotifierAttribute) = true := by
    rw [Bool.and_eq_true, decide_eq_true_eq]
    exact hsampled.data
  simp only [MonitoredItem.sample, run_pure, if_neg hsampled.enabled, hplain,
    Bool.and_false, Bool.false_and, Bool.false_eq_true, if_false, if_neg hdue, if_neg hdata, run_bind]
  exact advanceSampleTimer_eq _ nowMs

theorem sample_idle {nowMs : UInt64} (hplain : item.hasAggregate = false)
    (hidle : ¬ item.Sampled b nowMs) (w : W) : ((item.sample b nowMs).run w).1 = item := by
  simp only [MonitoredItem.sample, run_ite, run_pure, hplain, Bool.and_false, Bool.false_and,
    Bool.false_eq_true,
    if_false]
  split
  · rfl
  · rename_i henabled
    split
    · rfl
    · rename_i hdue
      split
      · rfl
      · rename_i hdata
        rw [Bool.and_eq_true, decide_eq_true_eq] at hdata
        exact absurd ⟨henabled, UInt64.not_lt.mp hdue, hdata⟩ hidle

end Ticks

end MicroOpcua
