import MicroOpcua.Lib.Table
import MicroOpcua.Services.Publish

namespace MicroOpcua

open Relation Lib.StateRun Lib.Table

variable {W : Type} {b : Build}

section Works

variable (b) in
inductive ItemStep : MonitoredItem W → MonitoredItem W → Prop where
  | enqueue (item : MonitoredItem W) (cur : Variant) (status : StatusCode) :
      ItemStep item (item.enqueueReport b cur status)
  | drain (item : MonitoredItem W) (remaining : Nat) :
    ItemStep item (item.drainReportedEntries b remaining).1
  | value (item : MonitoredItem W) (cur : Variant) (status : StatusCode) :
      ItemStep item { item with lastValue := cur, lastStatus := status, hasValue := true }
  | record (item : MonitoredItem W) (numeric : UInt64) (reported : Bool) (st : AggregateState)
    (next : UInt64) :
      ItemStep item { item with
        lastReportedNumeric := numeric, hasReported := reported, aggregateState :=
          st, nextSampleMs := next }
  | pending (item : MonitoredItem W) (p : Bool) (basic : b.subscriptionsStandard = false) :
      ItemStep item { item with pending := p }

variable (b) in
def ItemWorks : MonitoredItem W → MonitoredItem W → Prop := ReflTransGen (ItemStep b)

instance : Std.Refl (ItemWorks (W := W) b) := ⟨fun _ => ReflTransGen.refl⟩

instance : IsTrans (MonitoredItem W) (ItemWorks b) := ⟨fun _ _ _ => ReflTransGen.trans⟩

namespace ItemWorks

variable {item item' : MonitoredItem W}

theorem refl (item : MonitoredItem W) : ItemWorks b item item := ReflTransGen.refl

section

variable (h : ItemWorks b item item')

include h

variable (cur : Variant) (status : StatusCode)

theorem enqueue : ItemWorks b item (item'.enqueueReport b cur status) := h.tail (.enqueue _ cur status)

theorem value :
    ItemWorks b item { item' with lastValue := cur, lastStatus := status, hasValue := true } :=
  h.tail (.value _ cur status)

theorem recordReported : ItemWorks b item (item'.recordReported b.double cur) := by
  unfold MonitoredItem.recordReported
  split
  · exact h.tail (.record _ _ _ _ _)
  · exact h.tail (.record _ _ _ _ _)

theorem preparePendingQueue : ItemWorks b item (item'.preparePendingQueue b) := by
  unfold MonitoredItem.preparePendingQueue
  split
  · exact h.enqueue _ _
  · split
    · exact h.recordReported _
    · exact h

theorem advanceSampleTimer (nowMs : UInt64) : ItemWorks b item (item'.advanceSampleTimer nowMs) := by
  have hnext (next : UInt64) : ItemWorks b item { item' with nextSampleMs := next } :=
    h.tail (.record _ _ _ _ _)
  simp only [MonitoredItem.advanceSampleTimer]
  generalize (if item'.samplingIntervalMs = 0 then (1 : UInt64) else item'.samplingIntervalMs.toUInt64) =
    interval
  split
  · split
    · split
      · exact hnext _
      · exact hnext _
    · split
      · exact hnext _
      · exact hnext _
  · exact h

theorem accumulateAggregate : ItemWorks b item (item'.accumulateAggregate b.double cur) := by
  unfold MonitoredItem.accumulateAggregate
  split
  · exact h
  · exact h.tail (.record _ _ _ _ _)

theorem publishAggregate (nowMs : UInt64) : ItemWorks b item (item'.publishAggregate b nowMs) :=
  (h.enqueue (item'.aggregateResult b.double).value (item'.aggregateResult b.double).status).tail
    (.record _ _ _ _ _)

theorem update (hvalue : item'.hasValue = true) (cur : Variant) (status : StatusCode) :
    ItemWorks b item { item' with lastValue := cur, lastStatus := status } := by
  have hupdate := h.value cur status
  rwa [← hvalue] at hupdate

theorem recordSampleStandard : ItemWorks b item (item'.recordSampleStandard b cur status) := by
  simp only [MonitoredItem.recordSampleStandard]
  generalize hprepared :
      (if item'.hasValue && (!item'.hasReported || (item'.pending && item'.queueCount = 0)) then
    item'.preparePendingQueue b else item') = prepared
  have h : ItemWorks b item prepared := by
    rw [← hprepared]
    split
    · exact h.preparePendingQueue
    · exact h
  by_cases hvalue : prepared.hasValue = true
  · rw [if_neg (by simp [hvalue])]
    split
    · split
      · exact (h.update hvalue cur status).enqueue _ _
      · exact h
    · exact h
  · rw [if_pos (by simp [hvalue])]
    exact (h.value cur status).enqueue _ _

theorem recordSampleBasic (basic : b.subscriptionsStandard = false) (cur : Variant)
    (status : StatusCode) : ItemWorks b item (item'.recordSampleBasic cur status) := by
  unfold MonitoredItem.recordSampleBasic
  by_cases hvalue : item'.hasValue = true
  · rw [if_neg (by simp [hvalue])]
    split
    · exact (h.update hvalue cur status).tail (.pending _ true basic)
    · exact h
  · rw [if_pos (by simp [hvalue])]
    exact (h.value cur status).tail (.pending _ true basic)

end

theorem sample (nowMs : UInt64) (item : MonitoredItem W) (w : W) :
    ItemWorks b item ((item.sample b nowMs).run w).1 := by
  simp only [MonitoredItem.sample, run_ite, run_pure]
  split
  · exact refl item
  · generalize haggregated : (if b.subscriptionsStandard && item.hasAggregate &&
      b.double.le item.aggregateState.processingInterval
        (b.double.ofInt (nowMs - item.aggregateState.lastCalculation).toNat) then
        item.publishAggregate b nowMs
      else item) = aggregated
    have h : ItemWorks b item aggregated := by
      rw [← haggregated]
      split
      · exact (refl item).publishAggregate nowMs
      · exact refl item
    split
    · exact h
    · split
      · exact h
      · simp only [run_bind, run_ite, run_pure]
        generalize aggregated.readValue.run w = r
        split
        · refine advanceSampleTimer (value ?_ _ _) nowMs
          split
          · exact h.accumulateAggregate _
          · exact h
        · refine advanceSampleTimer ?_ nowMs
          split
          · exact h.recordSampleStandard _ _
          · rename_i basic
            exact h.recordSampleBasic (by simpa using basic) _ _

theorem resend (item : MonitoredItem W) (w : W) : ItemWorks b item ((item.resend b).run w).1 := by
  simp only [MonitoredItem.resend, run_bind]
  generalize item.readValue.run w = r
  simp only [run_ite, run_pure]
  split
  · exact ((refl item).value _ _).enqueue _ _
  · split
    · rename_i hvalue
      exact ((refl item).update hvalue item.lastValue _).enqueue _ _
    · exact ((refl item).value _ _).enqueue _ _

end ItemWorks

theorem sampleItems_forall₂ {R : MonitoredItem W → MonitoredItem W → Prop} (hrefl : ∀ item, R item item)
    (nowMs : UInt64) (hsample : ∀ (item : MonitoredItem W) w, R item ((item.sample b nowMs).run w).1)
    (active : Nat)
    (items : ItemList W) (w : W) :
    List.Forall₂ R items ((sampleItems b nowMs active items).run w).1 := by
  induction items generalizing active w with
  | nil => exact .nil
  | cons item items ih =>
    simp only [sampleItems, run_ite, run_pure]
    split
    · exact List.forall₂_same.mpr (fun item _ => hrefl item)
    · split
      · exact .cons (hsample item w) (ih (active - 1) _)
      · exact .cons (hrefl item) (ih active w)

theorem sampleItems_works (nowMs : UInt64) (active : Nat) (items : ItemList W) (w : W) :
    List.Forall₂ (ItemWorks b) items ((sampleItems b nowMs active items).run w).1 :=
  sampleItems_forall₂ .refl nowMs (.sample nowMs) active items w

section Reports

variable {sub : Subscription} {item item' : MonitoredItem W}

variable (b) in
inductive ReportStep (sub : Subscription) : MonitoredItem W → MonitoredItem W → Prop where
  | prepare (item : MonitoredItem W) : ReportStep sub item (item.preparePendingQueue b)
  | resend (item : MonitoredItem W) (w : W) (hpending : sub.resendDataPending = true)
      (hmember : item.inSubscription sub = true) (hmode : item.monitoringMode = monitoringReporting) :
      ReportStep sub item ((item.resend b).run w).1
  | drain (item : MonitoredItem W) (remaining : Nat) :
    ReportStep sub item (item.drainReportedEntries b remaining).1
  | reported (item : MonitoredItem W) (basic : b.subscriptionsStandard = false) :
      ReportStep sub item { item with pending := false }

variable (b) in
def ReportSteps (sub : Subscription) : MonitoredItem W → MonitoredItem W → Prop :=
  ReflTransGen (ReportStep b sub)

instance : Std.Refl (ReportSteps (W := W) b sub) := ⟨fun _ => ReflTransGen.refl⟩

instance : IsTrans (MonitoredItem W) (ReportSteps b sub) := ⟨fun _ _ _ => ReflTransGen.trans⟩

theorem ReportStep.works (h : ReportStep b sub item item') : ItemWorks b item item' := by
  cases h with
  | prepare => exact (ItemWorks.refl item).preparePendingQueue
  | resend w => exact .resend item w
  | drain remaining => exact ReflTransGen.single (.drain item remaining)
  | reported basic => exact ReflTransGen.single (.pending item false basic)

theorem ReportSteps.works (h : ReportSteps b sub item item') : ItemWorks b item item' := by
  induction h with
  | refl => exact .refl item
  | tail _ hstep ih => exact ih.trans hstep.works

theorem prepareReportableQueues_steps (items : ItemList W) (sub : Subscription) :
    List.Forall₂ (ReportSteps b sub) items (prepareReportableQueues b items sub) := by
  refine List.forall₂_map_right_iff.mpr (List.forall₂_same.mpr (fun item _ => ?_))
  split
  · exact ReflTransGen.single (.prepare item)
  · exact ReflTransGen.refl

theorem enqueueResendData_forall₂ {R : MonitoredItem W → MonitoredItem W → Prop}
    (hrefl : ∀ item, R item item)
    (hresend : ∀ (item : MonitoredItem W) w, item.inSubscription sub = true →
      item.monitoringMode = monitoringReporting → R item ((item.resend b).run w).1)
    (items : ItemList W) (w : W) : List.Forall₂ R items ((enqueueResendData b sub items).run w).1 := by
  induction items generalizing w with
  | nil => exact .nil
  | cons item items ih =>
    simp only [enqueueResendData]
    split
    · rename_i hchosen
      simp only [Bool.and_eq_true, decide_eq_true_eq] at hchosen
      exact .cons (hresend item w hchosen.1 hchosen.2) (ih _)
    · exact .cons (hrefl item) (ih w)

theorem enqueueResendData_steps (hpending : sub.resendDataPending = true) (items : ItemList W) (w : W) :
    List.Forall₂ (ReportSteps b sub) items ((enqueueResendData b sub items).run w).1 :=
  enqueueResendData_forall₂ (fun _ => ReflTransGen.refl)
    (fun item w hmember hmode => ReflTransGen.single (.resend item w hpending hmember hmode)) items w

theorem drainSelected_steps (start : Subscription) (items : ItemList W) (selected : List Bool)
    (hlen : selected.length = items.length) (remaining : Nat) :
    List.Forall₂ (ReportSteps b start) items (drainSelected b (items.zip selected) remaining).1 := by
  induction items generalizing selected remaining with
  | nil => exact .nil
  | cons item items ih =>
    obtain - | ⟨chosen, selected⟩ := selected
    · cases hlen
    have hlen : selected.length = items.length := Nat.succ.inj hlen
    simp only [List.zip_cons_cons, drainSelected]
    split
    · rw [List.map_cons, List.map_fst_zip hlen.ge]
      exact List.forall₂_refl _
    · split
      · exact .cons (ReflTransGen.single (.drain item remaining)) (ih selected hlen _)
      · exact .cons ReflTransGen.refl (ih selected hlen _)

theorem clearReportedItems_steps (start : Subscription) (items : ItemList W) (sub : Subscription)
    (reportCount : Nat) :
    List.Forall₂ (ReportSteps b start) items (clearReportedItems b items sub reportCount) := by
  simp only [clearReportedItems]
  split
  · have hzip :
        items.map (fun i => (i, i.reportable b sub)) =
          items.zip (items.map (fun i => i.reportable b sub)) := by
      simpa using (List.zip_map' (f := id) (g := fun i => MonitoredItem.reportable b i sub)
        (l := items)).symm
    rw [hzip]
    have hfirst :=
      drainSelected_steps (b := b) start items (items.map (fun i => i.reportable b sub))
        (by simp) reportCount
    refine forall₂_trans hfirst (drainSelected_steps start _ _ ?_ _)
    rw [List.length_map, hfirst.length_eq]
  · rename_i basic
    refine List.forall₂_map_right_iff.mpr (List.forall₂_same.mpr (fun item _ => ?_))
    split
    · exact ReflTransGen.single (.reported item (by simpa using basic))
    · exact ReflTransGen.refl

theorem prepareReport_steps (sub : Subscription) (items : ItemList W) (w : W) :
    List.Forall₂ (ReportSteps b sub) items ((prepareReport b sub items).run w).1.1 := by
  have hprepare : List.Forall₂ (ReportSteps b sub) items
      (if b.subscriptionsStandard then prepareReportableQueues b items sub else items) := by
    split
    · exact prepareReportableQueues_steps items sub
    · exact List.forall₂_refl items
  simp only [prepareReport]
  split
  · exact List.forall₂_refl items
  · split
    · rename_i hresend
      rw [Bool.and_eq_true] at hresend
      exact forall₂_trans hprepare (enqueueResendData_steps hresend.2 _ w)
    · exact hprepare

theorem works_of_steps {items items' : ItemList W} (h : List.Forall₂ (ReportSteps b sub) items items') :
    List.Forall₂ (ItemWorks b) items items' := h.imp (fun _ _ => ReportSteps.works)

end Reports

end Works

section Keys

structure ItemKey where
  inUse : Bool
  monitoredItemId : UInt32
  subscriptionId : UInt32
  clientHandle : UInt32
  attributeId : UInt32
  monitoringMode : UInt8
  triggeredItems : List UInt32

def MonitoredItem.key (item : MonitoredItem W) : ItemKey :=
  ⟨item.inUse, item.monitoredItemId, item.subscriptionId, item.clientHandle, item.attributeId,
    item.monitoringMode, item.triggeredItems⟩

variable {item item' : MonitoredItem W}

def MonitoredItem.sampling (item : MonitoredItem W) : MonitoredItem W :=
  { item with
    queue := [], queueSize := 0, queueHead := 0, queueTail := 0, queueCount := 0, queueOverflow := false
    pending := false, lastReportedNumeric := 0, hasReported := false }

def MonitoredItem.reference (item : MonitoredItem W) : UInt64 × Bool :=
  (item.lastReportedNumeric, item.hasReported)

theorem recordReported_sampling (d : DoubleOps) (item : MonitoredItem W) (cur : Variant) :
    (item.recordReported d cur).sampling = item.sampling := by
  unfold MonitoredItem.recordReported
  split <;> rfl

theorem enqueueReport_sampling (b : Build) (item : MonitoredItem W) (cur : Variant)
    (status : StatusCode) : (item.enqueueReport b cur status).sampling = item.sampling := by
  have hpending (item : MonitoredItem W) (p : Bool) :
      ({ item with pending := p } : MonitoredItem W).sampling = item.sampling := rfl
  simp only [MonitoredItem.enqueueReport]
  rw [hpending, recordReported_sampling]
  split
  · rfl
  · split
    · rfl
    · rfl

theorem drainLoop_sampling (size : UInt32) (n : Nat) (item : MonitoredItem W) :
    (MonitoredItem.drainLoop size n item).1.sampling = item.sampling ∧
      (MonitoredItem.drainLoop size n item).1.reference = item.reference := by
  induction n generalizing item with
  | zero => exact ⟨rfl, rfl⟩
  | succ n ih =>
    rw [MonitoredItem.drainLoop]
    split
    · exact ih _
    · exact ⟨rfl, rfl⟩

theorem drainReportedEntries_sampling (b : Build) (item : MonitoredItem W) (n : Nat) :
    (item.drainReportedEntries b n).1.sampling = item.sampling ∧
      (item.drainReportedEntries b n).1.reference = item.reference := by
  have hloop := drainLoop_sampling (item.effectiveQueueSize b).queueSize n (item.effectiveQueueSize b)
  simp only [MonitoredItem.drainReportedEntries]
  split
  · exact hloop
  · exact hloop

theorem key_of_sampling (h : item'.sampling = item.sampling) : item'.key = item.key := by
  have hkey := congrArg MonitoredItem.key h
  exact hkey

theorem ItemStep.key (h : ItemStep b item item') : item'.key = item.key := by
  cases h with
  | enqueue cur status => exact key_of_sampling (enqueueReport_sampling b item cur status)
  | drain remaining => exact key_of_sampling (drainReportedEntries_sampling b item remaining).1
  | value cur status => rfl
  | record numeric reported st next => rfl
  | pending p basic => rfl

theorem ItemWorks.key (h : ItemWorks b item item') : item'.key = item.key := by
  induction h with
  | refl => rfl
  | tail _ hstep ih => exact hstep.key.trans ih

theorem keys_of_works {items items' : ItemList W} (h : List.Forall₂ (ItemWorks b) items items') :
    items'.map MonitoredItem.key = items.map MonitoredItem.key :=
  map_eq_of_forall₂ h (fun _ _ hworks => hworks.key)

theorem inSubscription_of_key (h : item'.key = item.key) (sub : Subscription) :
    item'.inSubscription sub = item.inSubscription sub := by
  have hin : item'.inUse = item.inUse := congrArg ItemKey.inUse h
  have hid : item'.subscriptionId = item.subscriptionId := congrArg ItemKey.subscriptionId h
  rw [MonitoredItem.inSubscription, hin, hid, MonitoredItem.inSubscription]

end Keys

end MicroOpcua
