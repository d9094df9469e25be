import MicroOpcua.Services.SampleLaws
import MicroOpcua.Spec.ItemQueue

namespace MicroOpcua

open Lib.Ring Lib.StateRun

variable {W : Type} {b : Build} {item : MonitoredItem W} {nowMs : UInt64}

section Unchanged

/-- The scalars `variant_scalar_equal` compares; it tells any two others apart, even one from itself. -/
def Scalar.comparable : Scalar → Bool
  | .boolean _ | .sbyte _ | .byte _ | .int16 _ | .uint16 _ | .int32 _ | .uint32 _ | .int64 _
  | .uint64 _ | .float _ | .double _ | .dateTime _ => true
  | _ => false

theorem variantScalarEqual_self (v : Scalar) :
    variantScalarEqual (.scalar v) (.scalar v) = v.comparable := by
  cases v <;> first | rfl | exact decide_eq_true rfl

theorem variantNumericToDouble_incomparable (d : DoubleOps) {v : Scalar} (h : v.comparable = false) :
    variantNumericToDouble d (.scalar v) = none := by
  cases v <;> first | rfl | cases h

/-- The step from `item` to `item'` leaves the queue as it is and does not make the item pending. -/
def MonitoredItem.Quiet (b : Build) (item item' : MonitoredItem W) : Prop :=
  item'.queued b = item.queued b ∧ item'.pending = item.pending

theorem append_eq_cons_self {α : Type} {x y : α} {xs : List α} :
    xs ++ [x] = y :: xs ↔ y = x ∧ xs = List.replicate xs.length x := by
  induction xs generalizing y with
  | nil => simp [eq_comm]
  | cons z xs ih =>
    rw [List.cons_append, List.cons.injEq, ih, List.length_cons, List.replicate_succ, List.cons.injEq]
    constructor
    · rintro ⟨rfl, rfl, hrest⟩
      exact ⟨rfl, rfl, hrest⟩
    · rintro ⟨rfl, rfl, hrest⟩
      exact ⟨rfl, rfl, hrest⟩

/-- A full queue to which a report makes no difference: the entries it displaces are its own marked
copy. -/
def Saturated (discardOldest : Bool) (q : List Report) (r : Report) : Prop :=
  if discardOldest then q = r.overflowed :: List.replicate (q.length - 1) r else q.getLast? =
    some r.overflowed

theorem pushEntry_full_eq_self {discardOldest : Bool} {size : Nat} {q : List Report}
    {r : Report} (hpos : 0 < size) (hfull : size ≤ q.length) : pushEntry discardOldest size q r = q ↔
      Saturated discardOldest q r := by
  rw [pushEntry, if_neg (Nat.not_lt.mpr hfull), Saturated]
  cases discardOldest with
  | true =>
    obtain - | ⟨x, xs⟩ := q
    · exact absurd hfull (Nat.not_le.mpr hpos)
    obtain - | ⟨y, ys⟩ := xs
    · change [r.overflowed] = [x] ↔ [x] = [r.overflowed]
      exact eq_comm
    · change y.overflowed :: (ys ++ [r]) = x :: y :: ys ↔
        x :: y :: ys = r.overflowed :: r :: List.replicate ys.length r
      rw [List.cons.injEq, List.cons.injEq, List.cons.injEq, append_eq_cons_self]
      constructor
      · rintro ⟨rfl, rfl, hrest⟩
        exact ⟨rfl, rfl, hrest⟩
      · rintro ⟨rfl, rfl, hrest⟩
        exact ⟨rfl, rfl, hrest⟩
  | false =>
    change q.dropLast ++ [r.overflowed] = q ↔ _
    constructor
    · intro h
      rw [← h, List.getLast?_concat]
      rfl
    · intro h
      exact List.dropLast_append_getLast? _ h

def MonitoredItem.Absorbs (b : Build) (item : MonitoredItem W) : Prop :=
  item.pending = true ∧ (b.subscriptionsStandard = true →
    (clampQueueSize b item.queueSize).toNat ≤ (item.queued b).length ∧
      Saturated item.discardOldest (item.queued b) ⟨item.lastValue, item.lastStatus⟩)

theorem enqueueReport_quiet_iff (h : item.WellQueued b) (cur : Variant) (status : StatusCode) :
    item.Quiet b (item.enqueueReport b cur status) ↔
      item.pending = true ∧ (MonitoredItem.clampQueueSize b item.queueSize).toNat ≤
      (item.queued b).length ∧
        Saturated item.discardOldest (item.queued b) ⟨cur, status⟩ := by
  have hring := enqueueReport_ring h cur status
  simp only [MonitoredItem.ring, Prod.mk.injEq] at hring
  rw [MonitoredItem.Quiet, hring.2.2.2.2.2.1, queued_length b item]
  by_cases hroom : (item.sized b).queueCount.toUInt32 < (item.sized b).queueSize
  · have hlt : item.queueCount.toNat < (item.sized b).queueSize.toNat := by
      rw [← UInt8.toNat_toUInt32]
      exact UInt32.lt_iff_toNat_lt.mp hroom
    constructor
    · rintro ⟨hqueued, -⟩
      have hlength := congrArg List.length hqueued
      have hcount : (item.queueCount + 1).toNat = (item.queueCount.toNat + 1) % 256 :=
        UInt8.toNat_add _ 1
      have hbyte := item.queueCount.toNat_lt
      rw [queued_length, queued_length, hring.2.2.2.2.1, MonitoredItem.pushed, if_pos hroom] at hlength
      change (item.queueCount + 1).toNat = _ at hlength
      omega
    · rintro ⟨-, hfull, -⟩
      exact absurd hlt (Nat.not_lt.mpr hfull)
  · obtain ⟨hcount, hsize, -⟩ := h.full hroom
    have hpos := ringSize_pos b item
    have hbyte := item.queueCount.toNat_lt
    have hclamp : (MonitoredItem.clampQueueSize b item.queueSize).toNat = item.ringSize b := hsize
    have hfull : (MonitoredItem.clampQueueSize b item.queueSize).toNat ≤ (item.queued b).length := by
      rw [queued_length]
      omega
    have hpending : decide (((item.sized b).pushed ⟨cur, status⟩).queueCount > 0) = true := by
      rw [decide_eq_true_eq, gt_iff_lt, UInt8.lt_iff_toNat_lt]
      have hkept : ((item.sized b).pushed ⟨cur, status⟩).queueCount = item.queueCount := by
        rw [MonitoredItem.pushed, if_neg hroom]
        split
        · rfl
        · rfl
      rw [hkept, hcount]
      exact hpos
    rw [enqueueReport_queued h cur status (by omega), pushEntry_full_eq_self (by omega) hfull, hpending]
    rw [queued_length] at hfull
    constructor
    · rintro ⟨hsaturated, hitem⟩
      exact ⟨hitem.symm, hfull, hsaturated⟩
    · rintro ⟨hitem, -, hsaturated⟩
      exact ⟨hsaturated, hitem.symm⟩

structure MonitoredItem.Repeats (item : MonitoredItem W) (v : Scalar) (w : W) : Prop where
  hasValue : item.hasValue = true
  value : item.lastValue = .scalar v
  reading : (item.readValue.run w).1 = (item.lastStatus, item.lastValue)

variable {v : Scalar} {w : W}

theorem sampleChanged_repeats (item : MonitoredItem W) (htrigger : item.trigger ≠ .statusValueTimestamp)
    (hvalue : item.lastValue = .scalar v) : item.sampleChanged item.lastValue item.lastStatus = true ↔
      ¬ (item.trigger = .status ∨ v.comparable = true) := by
  unfold MonitoredItem.sampleChanged
  cases hcase : item.trigger with
  | status => simp
  | statusValue => simp [hvalue, variantScalarEqual_self]
  | statusValueTimestamp => exact absurd hcase htrigger

theorem changeReportable_repeats (item : MonitoredItem W) (d : DoubleOps)
    (hvalue : item.lastValue = .scalar v) (hv : v.comparable = false) :
    item.changeReportable d item.lastValue item.lastStatus = true := by
  rw [MonitoredItem.changeReportable, hvalue, variantNumericToDouble_incomparable d hv]
  split
  · rfl
  · split
    · rfl
    · rfl

/-- A value that waits for its place gets it, whatever is read. -/
theorem recordSampleStandard_waits (h : item.WellQueued b) (hwaits : item.waits = true) (cur : Variant)
    (status : StatusCode) : ¬ item.Quiet b (item.recordSampleStandard b cur status) := by
  obtain ⟨hprepared, hqueued, -, -⟩ := preparePendingQueue_spec h
  have hempty : item.pending = true ∧ item.queueCount = 0 ∧ item.hasValue = true := by
    simpa [MonitoredItem.waits, and_assoc] using hwaits
  rintro ⟨hsame, hpending⟩
  have hnone := congrArg List.length hsame
  rw [queued_length, queued_length, hempty.2.1] at hnone
  rw [hempty.1] at hpending
  rw [recordSampleStandard_eq hempty.2.2] at hnone hpending
  dsimp only at hnone hpending
  have hone : (item.preparePendingQueue b).queueCount.toNat = 1 := by
    rw [← queued_length b, hqueued, MonitoredItem.toReport, if_pos hwaits]
    rfl
  by_cases hchanged : (item.preparePendingQueue b).sampleChanged cur status = true
  · rw [if_pos hchanged] at hnone hpending
    by_cases hreportable : (item.preparePendingQueue b).changeReportable b.double cur status = true
    · rw [if_pos hreportable] at hnone hpending
      have hwell : ({ item.preparePendingQueue b with lastValue := cur, lastStatus := status } :
          MonitoredItem W).WellQueued b := hprepared.congr rfl
      have hpos := hwell.enqueueReport_pending cur status hpending
      rw [hnone] at hpos
      exact absurd hpos (Nat.lt_irrefl 0)
    · rw [if_neg hreportable] at hnone
      cases hone.symm.trans hnone
  · rw [if_neg hchanged] at hnone
    cases hone.symm.trans hnone

theorem recordSampleStandard_repeats (h : item.WellQueued b) (hvalue : item.hasValue = true)
    (hlast : item.lastValue = .scalar v) (htrigger : item.trigger ≠ .statusValueTimestamp)
    (hstd : b.subscriptionsStandard = true) (hwaits : item.waits = false) :
    item.Quiet b (item.recordSampleStandard b item.lastValue item.lastStatus) ↔
      item.trigger = .status ∨ v.comparable = true ∨ item.Absorbs b := by
  obtain ⟨hprepared, hqueued, hpending, -⟩ := preparePendingQueue_spec h
  rw [MonitoredItem.toReport, hwaits, if_neg Bool.false_ne_true] at hqueued
  have hsame := SameSampling.of_eq (preparePendingQueue_sampling b item)
  have hsize : (item.preparePendingQueue b).queueSize = item.queueSize := by
    have hring : (item.preparePendingQueue b).ring = item.ring :=
      preparePendingQueue_ring (by rw [hwaits]; exact Bool.false_ne_true)
    simp only [MonitoredItem.ring, Prod.mk.injEq] at hring
    exact hring.2.1
  have hchanged := sampleChanged_repeats (item.preparePendingQueue b) (v := v)
    (by rwa [hsame.trigger]) (by rw [hsame.lastValue, hlast])
  rw [recordSampleStandard_eq hvalue]
  rw [hsame.lastValue, hsame.lastStatus, hsame.trigger] at hchanged
  by_cases hquiet : item.trigger = .status ∨ v.comparable = true
  · dsimp only
    rw [if_neg (fun h => hchanged.mp h hquiet)]
    exact ⟨fun _ => hquiet.imp_right Or.inl, fun _ => ⟨hqueued, hpending⟩⟩
  · have hincomparable : v.comparable = false := by
      simpa using fun h => hquiet (.inr h)
    have hreportable := changeReportable_repeats (item.preparePendingQueue b) b.double
      (by rw [hsame.lastValue, hlast]) hincomparable
    have heta :
      ({ item.preparePendingQueue b with lastValue := item.lastValue, lastStatus := item.lastStatus } :
        MonitoredItem W) = item.preparePendingQueue b := by
      rw [← hsame.lastValue, ← hsame.lastStatus]
    rw [hsame.lastValue, hsame.lastStatus] at hreportable
    dsimp only
    rw [if_pos (hchanged.mpr hquiet), if_pos hreportable, heta,
      MonitoredItem.Quiet, ← hqueued, ← hpending]
    refine (enqueueReport_quiet_iff hprepared _ _).trans ?_
    rw [hqueued, hpending, hsize, hsame.discardOldest, MonitoredItem.Absorbs]
    constructor
    · rintro ⟨hitem, hfull, hsaturated⟩
      exact .inr (.inr ⟨hitem, fun _ => ⟨hfull, hsaturated⟩⟩)
    · rintro (htrig | hcomparable | ⟨hitem, habsorbs⟩)
      · exact absurd (.inl htrig) hquiet
      · exact absurd (.inr hcomparable) hquiet
      · exact ⟨hitem, habsorbs hstd⟩

theorem recordSampleBasic_repeats (hvalue : item.hasValue = true) (hlast : item.lastValue = .scalar v)
    (htrigger : item.trigger ≠ .statusValueTimestamp) (hbasic : b.subscriptionsStandard = false) :
    item.Quiet b (item.recordSampleBasic item.lastValue item.lastStatus) ↔
      item.trigger = .status ∨ v.comparable = true ∨ item.Absorbs b := by
  have hchanged := sampleChanged_repeats item htrigger hlast
  rw [MonitoredItem.recordSampleBasic, if_neg (by rw [hvalue]; decide)]
  by_cases hquiet : item.trigger = .status ∨ v.comparable = true
  · rw [if_neg (fun h => hchanged.mp h hquiet)]
    exact ⟨fun _ => hquiet.imp_right Or.inl, fun _ => ⟨rfl, rfl⟩⟩
  · rw [if_pos (hchanged.mpr hquiet)]
    have habsorbs : item.Absorbs b ↔ item.pending = true := by
      rw [MonitoredItem.Absorbs, hbasic]
      simp
    rw [habsorbs]
    constructor
    · exact fun h => .inr (.inr h.2.symm)
    · rintro (htrig | hcomparable | hpending)
      · exact absurd (.inl htrig) hquiet
      · exact absurd (.inr hcomparable) hquiet
      · refine ⟨?_, hpending.symm⟩
        have heta :
          ({ item with lastValue := item.lastValue, lastStatus := item.lastStatus, pending := true } :
            MonitoredItem W) = item := by
          rw [← hpending]
        rw [heta]

/-- A tick that finds the recorded status and value again is quiet if no first value waits for its place
in the queue, for the types `variant_scalar_equal` compares and for a trigger on the status alone. For
any other type it reports the value again. -/
theorem unchanged_sample_quiet_iff (hitem : item.WellQueued b) (hsampled : item.Sampled b nowMs)
    (hplain : item.hasAggregate = false) (htrigger : item.trigger ≠ .statusValueTimestamp)
    (h : item.Repeats v w) :
    item.Quiet b ((item.sample b nowMs).run w).1 ↔
      (b.subscriptionsStandard = true → item.waits = false) ∧
        (item.trigger = .status ∨ v.comparable = true ∨ item.Absorbs b) := by
  obtain ⟨next, hsample⟩ := sample_plain hsampled hplain w
  have htimer (recorded : MonitoredItem W) :
      item.Quiet b { recorded with nextSampleMs := next } ↔ item.Quiet b recorded := Iff.rfl
  rw [hsample]
  dsimp only
  rw [htimer, h.reading]
  by_cases hstd : b.subscriptionsStandard = true
  · rw [if_pos hstd]
    cases hwaits : item.waits with
    | true => exact iff_of_false (recordSampleStandard_waits hitem hwaits _ _) (fun h =>
      absurd (h.1 hstd) (by decide))
    | false =>
      rw [recordSampleStandard_repeats hitem h.hasValue h.value htrigger hstd hwaits]
      exact (and_iff_right (fun _ => rfl)).symm
  · rw [if_neg hstd]
    rw [recordSampleBasic_repeats h.hasValue h.value htrigger (by simpa using hstd)]
    exact (and_iff_right (fun h => absurd h hstd)).symm

namespace EngineScript

def reported (v : Scalar) : MonitoredItem Unit :=
  let item := createdItem build 1 1 (queueOf 1) ⟨some (.static (.scalar v))⟩ 0 ()
  ((item.preparePendingQueue build).drainReportedEntries build 1).1

theorem reported_wellQueued (v : Scalar) : (reported v).WellQueued build := by
  have hnew : NewItem build 1 (createdItem build 1 1 (queueOf 1) ⟨some (.static (.scalar v))⟩ 0 ()) :=
    (createdItem_new 1 1 (queueOf 1) ⟨some (.static (.scalar v))⟩ 0 ()).1
  exact (drainReportedEntries_spec (preparePendingQueue_spec hnew.wellQueued).1 1).1

theorem unchanged_sample_quiet_iff_number :
    (reported (.uint32 7)).Quiet build (((reported (.uint32 7)).sample build 100).run ()).1 := by
  have hsampled : (reported (.uint32 7)).Sampled build 100 :=
    ⟨by decide, by decide, by decide⟩
  have hrepeats : (reported (.uint32 7)).Repeats (.uint32 7) () :=
    ⟨by decide, by decide, by decide⟩
  refine (unchanged_sample_quiet_iff (reported_wellQueued _) hsampled (by decide) (by decide)
    hrepeats).mpr ?_
  exact ⟨fun _ => by decide, .inr (.inl rfl)⟩

/-- A string that does not change is reported in every sampling interval. -/
theorem unchanged_string_reported_again :
    let item := reported (.string (some [65]))
    (item.readValue.run ()).1 = (item.lastStatus, item.lastValue) ∧ item.hasValue = true ∧
      item.pending = false ∧ item.trigger = .statusValue ∧ item.queued build = [] ∧
      (((item.sample build 100).run ()).1.queued build = [⟨.scalar (.string (some [65])), good⟩]) ∧
      ((item.sample build 100).run ()).1.pending = true := by
  decide

end EngineScript

end Unchanged

end MicroOpcua
