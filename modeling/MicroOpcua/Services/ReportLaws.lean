import MicroOpcua.Encoding.VariantLaws
import MicroOpcua.Services.QueueLaws

namespace MicroOpcua

open Lib.LittleEndian Lib.Ring Lib.StateRun Lib.Table

variable {W : Type} {b : Build} {cap : Nat}

structure QueueEntry where
  slot : Nat
  clientHandle : UInt32
  report : Report
deriving DecidableEq

def MonitoredItem.entries (b : Build) (slot : Nat) (item : MonitoredItem W) : List QueueEntry :=
  (item.queued b).map (fun r => ⟨slot, item.clientHandle, r⟩)

def flaggedEntries (b : Build) : (slot : Nat) → List (MonitoredItem W × Bool) → List QueueEntry
  | _, [] => []
  | slot, (item, flag) :: rest =>
    (if flag then item.entries b slot else []) ++ flaggedEntries b (slot + 1) rest

/-- The queues, as they are in `items`, of the items that report in `selected`: first those in Reporting
mode, then the Sampling items they trigger. -/
def reportEntries (b : Build) (sub : Subscription) (selected items : ItemList W) : List QueueEntry :=
  flaggedEntries b 0 (items.zip (selected.map (fun i => i.reportable b sub))) ++
    flaggedEntries b 0 (items.zip (selected.map (fun i => i.reportsByTrigger b selected sub)))

@[simp] theorem entries_length (b : Build) (slot : Nat) (item : MonitoredItem W) :
    (item.entries b slot).length = item.queueCount.toNat := by
  rw [MonitoredItem.entries, List.length_map, queued_length]

section Count

def capped (limit n : Nat) : Nat := if limit = 0 then n else min n limit

theorem countQueueEntries_eq (limit queued count : Nat) (h : limit = 0 ∨ count ≤ limit) :
    countQueueEntries limit queued count =
      (capped limit (count + queued), decide (limit = 0 ∨ count + queued ≤ limit)) := by
  induction queued generalizing count with
  | zero =>
    unfold countQueueEntries capped
    simp only [Nat.add_zero, Prod.mk.injEq]
    exact ⟨by split <;> omega, (decide_eq_true h).symm⟩
  | succ n ih =>
    unfold countQueueEntries
    by_cases hfull : limit ≠ 0 ∧ count ≥ limit
    · rw [if_pos hfull, capped, if_neg hfull.1, decide_eq_false (by omega)]
      congr 1
      omega
    · rw [if_neg hfull, ih (count + 1) (by omega), Nat.add_assoc, Nat.add_comm 1 n]

theorem countItems_eq (limit : Nat) (selected : MonitoredItem W → Bool) (items : ItemList W)
    (slot count : Nat) (h : limit = 0 ∨ count ≤ limit) :
    countItems limit selected items count =
      let total := count + (flaggedEntries b slot (items.zip (items.map selected))).length
      (capped limit total, decide (limit = 0 ∨ total ≤ limit)) := by
  induction items generalizing slot count with
  | nil =>
    simp only [countItems, List.map_nil, List.zip_nil_left, flaggedEntries, List.length_nil,
      Nat.add_zero, capped, Prod.mk.injEq]
    exact ⟨by split <;> omega, (decide_eq_true h).symm⟩
  | cons item items ih =>
    simp only [countItems, List.map_cons, List.zip_cons_cons, flaggedEntries, List.length_append]
    by_cases hsel : selected item = true
    · rw [if_pos hsel, if_pos hsel, entries_length, countQueueEntries_eq _ _ _ h, ← Nat.add_assoc]
      by_cases hfits : limit = 0 ∨ count + item.queueCount.toNat ≤ limit
      · have hcapped : capped limit (count + item.queueCount.toNat) = count + item.queueCount.toNat := by
          rw [capped]
          split <;> omega
        rw [decide_eq_true hfits, hcapped]
        exact ih (slot + 1) _ hfits
      · have hlimit : limit ≠ 0 := fun hzero => hfits (.inl hzero)
        rw [decide_eq_false hfits, decide_eq_false (by omega)]
        dsimp only
        rw [capped, capped, if_neg hlimit, if_neg hlimit]
        congr 1
        omega
    · rw [if_neg hsel, if_neg hsel, List.length_nil, Nat.zero_add]
      exact ih (slot + 1) count h

/-- `count_reportable_items` counts the entries to report up to the limit, and announces more when it
left some out. -/
theorem countReportableItems_eq (hstd : b.subscriptionsStandard = true) (items : ItemList W)
    (sub : Subscription) :
    countReportableItems b items sub =
      let total := (reportEntries b sub items items).length
      let limit := sub.maxNotificationsPerPublish.toNat
      (capped limit total, { sub with moreNotifications := decide (limit ≠ 0 ∧ limit < total) }) := by
  simp only [countReportableItems, if_pos hstd, countItems_eq (b := b) _ _ _ 0 0 (.inr (Nat.zero_le _)),
    Nat.zero_add, reportEntries, List.length_append]
  generalize (flaggedEntries b 0 (items.zip (items.map (fun i => i.reportable b sub)))).length =
    reporting
  generalize sub.maxNotificationsPerPublish.toNat = limit
  by_cases hall : limit = 0 ∨ reporting ≤ limit
  · have hcapped : capped limit reporting = reporting := by
      rw [capped]
      split <;> omega
    rw [decide_eq_true hall, hcapped]
    dsimp only
    rw [countItems_eq (b := b) _ _ _ 0 reporting hall]
    dsimp only
    congr 2
    rw [← decide_not]
    congr 1
    apply propext
    omega
  · rw [decide_eq_false hall]
    dsimp only
    rw [capped, capped, if_neg (by omega), if_neg (by omega), decide_eq_true (by omega)]
    congr 1
    omega

theorem not_reportsByTrigger {sub : Subscription} {selected : ItemList W} {item : MonitoredItem W}
    (h : item.reportable b sub = true) : item.reportsByTrigger b selected sub = false := by
  have hmode : item.monitoringMode = monitoringReporting := by
    simp only [MonitoredItem.reportable, Bool.and_eq_true, decide_eq_true_eq] at h
    exact h.2
  simp [MonitoredItem.reportsByTrigger, hmode, monitoringReporting, monitoringSampling]

theorem queueCount_le {item : MonitoredItem W} (h : item.WellQueued b) :
    item.queueCount.toNat ≤ b.monitoredQueueDepth := h.count.trans (ringSize_le_depth b item)

theorem flaggedEntries_length_le (f g : MonitoredItem W → Bool) {items : ItemList W}
    (h : ∀ item ∈ items, item.WellQueued b) (hfg : ∀ item ∈ items, f item = true → g item = false)
    (slot slot' : Nat) :
    (flaggedEntries b slot (items.zip (items.map f))).length +
      (flaggedEntries b slot' (items.zip (items.map g))).length ≤
      items.length * b.monitoredQueueDepth := by
  induction items generalizing slot slot' with
  | nil => simp [flaggedEntries]
  | cons item items ih =>
    have hrest :=
      ih (fun item hitem => h item (.tail _ hitem)) (fun item hitem => hfg item (.tail _ hitem))
        (slot + 1) (slot' + 1)
    have hcount := queueCount_le (h item (.head _))
    simp only [List.map_cons, List.zip_cons_cons, flaggedEntries, List.length_append,
      List.length_cons, Nat.succ_mul]
    by_cases hf : f item = true
    · rw [if_pos hf, if_neg (by simp [hfg item (.head _) hf]), entries_length, List.length_nil]
      omega
    · rw [if_neg hf, List.length_nil]
      split
      · rw [entries_length]
        omega
      · rw [List.length_nil]
        omega

theorem capped_le (limit n : Nat) : capped limit n ≤ n := by
  rw [capped]
  split <;> omega

theorem reportEntries_length_le (sub : Subscription) {items : ItemList W}
    (h : ∀ item ∈ items, item.WellQueued b) :
    (reportEntries b sub items items).length ≤ items.length * b.monitoredQueueDepth := by
  rw [reportEntries, List.length_append]
  exact flaggedEntries_length_le _ _ h (fun item _ => not_reportsByTrigger) 0 0

end Count

section Write

def writeEntry (e : QueueEntry) : WriteM cap Unit := writeNotification e.clientHandle e.report

theorem writeEach_append {α : Type} (f : α → WriteM cap Unit) (xs ys : List α) :
    writeEach f (xs ++ ys) = writeEach f xs >>= fun _ => writeEach f ys := by
  induction xs with
  | nil => rfl
  | cons x xs ih => simp only [List.cons_append, writeEach, ih, bind_assoc]

theorem writeQueueEntries_eq (item : MonitoredItem W) {size : UInt32} (slot queued : Nat) {index : UInt8}
    (remaining : Nat) (h : index.toNat < min size.toNat 256) :
    (writeQueueEntries item size queued index remaining : WriteM cap Nat) = do
      writeEach writeEntry
        (((contents ⟨.null, good⟩ (min size.toNat 256) item.queue index.toNat queued).map (fun r =>
          ⟨slot, item.clientHandle, r⟩)).take remaining)
      return (remaining - queued) := by
  induction queued generalizing index remaining with
  | zero =>
    simp only [writeQueueEntries, contents, List.range_zero, List.map_nil, List.take_nil,
      writeEach, Nat.sub_zero,
      pure_bind]
  | succ n ih =>
    unfold writeQueueEntries
    cases remaining with
    | zero =>
      simp only [if_true, List.take_zero, writeEach, Nat.zero_sub, pure_bind]
    | succ k =>
      have hnext := queueNext_toNat h
      rw [if_neg (Nat.succ_ne_zero k), contents_succ h, List.map_cons, List.take_succ_cons,
        Nat.succ_sub_one, ih k (hnext ▸ Nat.mod_lt _ (by omega)), hnext]
      simp only [writeEach, bind_assoc, Nat.add_sub_add_right]
      rfl

theorem writeItemQueues_eq (selected : MonitoredItem W → Bool) (items : ItemList W)
    (slot remaining : Nat) (h : ∀ item ∈ items, item.WellQueued b) :
    (writeItemQueues b selected items remaining : WriteM cap Nat) = do
      writeEach writeEntry ((flaggedEntries b slot (items.zip (items.map selected))).take remaining)
      return remaining - (flaggedEntries b slot (items.zip (items.map selected))).length := by
  induction items generalizing slot remaining with
  | nil =>
    simp only [writeItemQueues, List.map_nil, List.zip_nil_left, flaggedEntries,
      List.take_nil, writeEach, List.length_nil, Nat.sub_zero, pure_bind]
  | cons item items ih =>
    have hitems : ∀ item ∈ items, item.WellQueued b := fun item hitem => h item (.tail _ hitem)
    unfold writeItemQueues
    simp only [List.map_cons, List.zip_cons_cons, flaggedEntries]
    by_cases hsel : selected item = true
    · rw [if_pos hsel, if_pos hsel, writeQueueEntries_eq item slot _ remaining (h item (.head _)).head]
      simp only [ih (slot + 1) _ hitems, bind_assoc, pure_bind, List.take_append, writeEach_append,
        List.length_append, entries_length, Nat.sub_sub]
      rfl
    · rw [if_neg hsel, if_neg hsel, List.nil_append]
      exact ih (slot + 1) remaining hitems

theorem writeNotifications_eq (hstd : b.subscriptionsStandard = true) (items : ItemList W)
    (sub : Subscription) (n : Nat) (h : ∀ item ∈ items, item.WellQueued b) :
    (writeNotifications b items sub n : WriteM cap Unit) =
      writeEach writeEntry ((reportEntries b sub items items).take n) := by
  simp only [writeNotifications, if_pos hstd, writeItemQueues_eq _ _ 0 _ h, bind_assoc,
    pure_bind, reportEntries, List.take_append, writeEach_append, bind_pure_unit]

def entryBytes (e : QueueEntry) : Bytes :=
  put 4 e.clientHandle.toNat ++ dataValueBytes e.report.value e.report.status

theorem writeEntry_emits (e : QueueEntry) : Emits (writeEntry e : WriteM cap Unit) (entryBytes e) :=
  .bind (writeBytes_emits _) (writeDataValue_emits _ _)

theorem put_ofInt (n : Nat) : put 4 (UInt32.ofInt n).toNat = put 4 n := by
  have hmod : (UInt32.ofInt n).toNat = n % 256 ^ 4 := by
    simp only [UInt32.ofInt, UInt32.toNat_ofNat']
    omega
  have hput := put_get (put 4 n)
  rwa [put_length, get_put, ← hmod] at hput

def dataChangeBody (n : Nat) (entries : Bytes) : Bytes := put 4 n ++ (entries ++ put 4 0)

def dataChangeBytes (body : Bytes) : Bytes :=
  nodeIdBytes (.ns0 dataChangeNotificationId) ++ ([1] ++ (put 4 body.length ++ body))

theorem writeQueueEntries_appends (item : MonitoredItem W) (size : UInt32) (queued : Nat) (index : UInt8)
    (remaining : Nat) :
    Appends (writeQueueEntries item size queued index remaining : WriteM cap Nat) := by
  induction queued generalizing index remaining with
  | zero => exact .pure _
  | succ n ih =>
    unfold writeQueueEntries
    split
    · exact .pure _
    · exact .bind (writeEntry_emits ⟨0, _, _⟩).appends (fun _ => ih _ _)

theorem writeItemQueues_appends (selected : MonitoredItem W → Bool) (items : ItemList W)
    (remaining : Nat) : Appends (writeItemQueues b selected items remaining : WriteM cap Nat) := by
  induction items generalizing remaining with
  | nil => exact .pure _
  | cons item items ih =>
    unfold writeItemQueues
    split
    · exact .bind (writeQueueEntries_appends item _ _ _ _) (fun _ => ih _)
    · exact ih _

theorem writeNotifications_appends (items : ItemList W) (sub : Subscription) (n : Nat) :
    Appends (writeNotifications b items sub n : WriteM cap Unit) := by
  unfold writeNotifications
  split
  · exact .bind (writeItemQueues_appends _ _ _) (fun _ =>
      .bind (writeItemQueues_appends _ _ _) (fun _ => .pure _))
  · exact .writeEach _ (fun item => (writeEntry_emits ⟨0, _, _⟩).appends)

theorem writeDataChangeNotification_returns {items : ItemList W} {sub : Subscription} {n : Nat}
    {w w' : Writer cap} (hs : w.status = none)
    (hrun : (writeDataChangeNotification b items sub n).run.run w = (.ok (), w')) :
    ∃ entries, (∃ (u : Writer cap) (hu : _), u.status = none ∧
        (writeNotifications b items sub n).run.run u = (.ok (), u.append entries hu)) ∧
      (dataChangeBody n entries).length ≤ 0x7FFFFFFF ∧
      ∃ hfits, w' = w.append (dataChangeBytes (dataChangeBody n entries)) hfits := by
  unfold writeDataChangeNotification at hrun
  obtain ⟨hfits₁, hrun⟩ := (writeNodeId_emits _).returns hrun hs
  obtain ⟨hfits₂, hrun⟩ := (writeBytes_emits _).returns hrun hs
  obtain ⟨_, _, hget, hrun⟩ := bind_returns.mp hrun
  cases hget
  obtain ⟨hfits₃, hrun⟩ := (writeBytes_emits _).returns hrun hs
  obtain ⟨_, _, hget, hrun⟩ := bind_returns.mp hrun
  cases hget
  obtain ⟨hfits₄, hrun⟩ := (writeBytes_emits _).returns hrun hs
  obtain ⟨⟨⟩, entries, hfits₅, hentries, hrun⟩ :=
    (writeNotifications_appends items sub n).returns hrun hs
  obtain ⟨hfits₆, hrun⟩ := (writeBytes_emits _).returns hrun hs
  obtain ⟨_, _, hget, hrun⟩ := bind_returns.mp hrun
  cases hget
  obtain ⟨hlength, hrun⟩ := guard_returns.mp hrun
  have hzero : put 4 (UInt32.ofInt 0).toNat = put 4 0 := put_ofInt 0
  simp only [Writer.append, Writer.position, hzero, put_ofInt] at hlength hrun hfits₆
  have hbody :
    (w.bytes ++ nodeIdBytes (.ns0 dataChangeNotificationId) ++ [1] ++ put 4 0 ++ put 4 n ++ entries ++
      put 4 0).length - (w.bytes ++ nodeIdBytes (.ns0 dataChangeNotificationId) ++
      [1] ++ put 4 0).length =
      (dataChangeBody n entries).length := by
    simp only [dataChangeBody, List.length_append]
    omega
  rw [hbody] at hlength hrun
  have hpatched :
    overwrite (w.bytes ++ nodeIdBytes (.ns0 dataChangeNotificationId) ++ [1] ++ put 4 0 ++ put 4 n ++
      entries ++ put 4 0) (w.bytes ++ nodeIdBytes (.ns0 dataChangeNotificationId) ++ [1]).length
      (put 4 (dataChangeBody n entries).length) =
          w.bytes ++ dataChangeBytes (dataChangeBody n entries) := by
    have hmiddle := overwrite_middle (w.bytes ++ nodeIdBytes (.ns0 dataChangeNotificationId) ++ [1])
      (dataChangeBody n entries) (show (put 4 (dataChangeBody n entries).length).length =
        (put 4 0).length by simp)
    simpa only [dataChangeBytes, dataChangeBody, List.append_assoc] using hmiddle
  refine ⟨entries, ⟨_, hfits₅, hs, hentries⟩, Nat.le_of_not_lt hlength, ?_, ?_⟩
  · rw [← List.length_append, ← hpatched, overwrite_length, List.length_append]
    exact hfits₆
  · cases hrun
    simp only [Writer.append, Writer.mk.injEq, put_ofInt, and_true]
    exact hpatched

end Write

section Layout

theorem writeDataChangeNotification_appends (items : ItemList W) (sub : Subscription) (n : Nat) :
    Appends (writeDataChangeNotification b items sub n : WriteM cap Unit) := by
  intro w _ w' hs hrun
  obtain ⟨entries, -, -, hfits, rfl⟩ := writeDataChangeNotification_returns hs hrun
  exact ⟨_, hfits, rfl⟩

theorem writeExtensionObjectHeader_appends (typeId : NodeId) (length : Nat) :
    Appends (writeExtensionObjectHeader typeId length : WriteM cap Unit) := by
  refine .bind (writeNodeId_emits typeId).appends (fun _ => ?_)
  split
  · exact (writeBytes_emits _).appends
  · exact .bind (writeBytes_emits _).appends (fun _ => (writeBytes_emits _).appends)

theorem writeEventNotificationList_appends (items : ItemList W) (sub : Subscription) :
    Appends (writeEventNotificationList items sub : WriteM cap Unit) := by
  simp only [writeEventNotificationList]
  split
  · exact writeExtensionObjectHeader_appends _ _
  · split
    · exact .throw _
    · exact .bind (writeExtensionObjectHeader_appends _ _) (fun _ =>
        (writeRaw_encodes _ _).emits.appends)

def notificationMessage (sequenceNumber : UInt32) (publishTime : UInt64) (count : Nat)
    (data : Bytes) : Bytes :=
  put 4 sequenceNumber.toNat ++ (put 8 publishTime.toNat ++ (put 4 count ++ data))

def publishResponse (requestHandle subscriptionId : UInt32) (more : Bool)
    (message rest : Bytes) : Bytes :=
  responsePrefix publishResponseId requestHandle good ++
    (put 4 subscriptionId.toNat ++ (put 4 0 ++ ([if more then 1 else 0] ++ (message ++ rest))))

section

variable (requestHandle subId : UInt32) (more : Bool) (message rest : Bytes)

theorem publishResponse_append : publishResponse requestHandle subId more message rest =
      publishResponse requestHandle subId more message [] ++ rest := by
  simp only [publishResponse, List.append_assoc, List.nil_append]

theorem drop_publishResponse :
    (publishResponse requestHandle subId more message rest).drop 37 = message ++ rest := by
  have hlen : (responsePrefix publishResponseId requestHandle good ++ (put 4 subId.toNat ++ (put 4 0 ++
      [if more then 1 else 0]))).length = 37 := by simp
  have hdrop : List.drop 37 (_ ++ (message ++ rest)) = message ++ rest := List.drop_left' hlen
  simpa only [publishResponse, List.append_assoc] using hdrop

end

def notificationCount (b : Build) (sub : Subscription) (includeData : Bool) (n : Nat) : Nat :=
  if includeData then
    (if n > 0 then 1 else 0) + (if b.events && sub.eventQueue.count > 0 then 1 else 0) else 0

def writeNotificationData (b : Build) (items : ItemList W) (sub : Subscription) (includeData : Bool)
    (n : Nat) : WriteM cap Unit := do
  if includeData && n > 0 then writeDataChangeNotification b items sub n
  if includeData && (b.events && sub.eventQueue.count > 0) then writeEventNotificationList items sub

theorem writeNotificationData_appends (items : ItemList W) (sub : Subscription) (includeData : Bool)
    (n : Nat) : Appends (writeNotificationData b items sub includeData n : WriteM cap Unit) := by
  have hevents : Appends (if includeData && (b.events && sub.eventQueue.count > 0) then
      writeEventNotificationList items sub else pure () : WriteM cap Unit) := by
    split
    · exact writeEventNotificationList_appends items sub
    · exact .pure _
  by_cases hn : (includeData && decide (n > 0)) = true
  · simp only [writeNotificationData, if_pos hn]
    exact .bind (writeDataChangeNotification_appends items sub n) (fun _ => hevents)
  · simp only [writeNotificationData, if_neg hn]
    exact hevents

theorem writeNotificationMessage_eq (items : ItemList W) (sub : Subscription) (r : PublishRequest)
    (number : UInt32) (includeData : Bool) (n : Nat) (publishTime : UInt64) :
    (writeNotificationMessage b items sub r number includeData n publishTime : WriteM cap (Nat × Nat)) =
      do
      writeResponsePrefix publishResponseId r.requestHandle good
      writeUInt32 sub.subscriptionId
      writeInt32 0
      writeBoolean (b.subscriptionsStandard && includeData && sub.moreNotifications)
      let messageStart := (← get).position
      writeUInt32 number
      writeUInt64 publishTime
      writeInt32 (notificationCount b sub includeData n)
      writeNotificationData b items sub includeData n
      return (messageStart, (← get).position) := by
  have hcount : ((notificationCount b sub includeData n : Nat) : Int) =
      if includeData then (if n > 0 then 1 else 0) + (if b.events && sub.eventQueue.count > 0 then
        1 else 0) else 0 := by
    unfold notificationCount
    split
    · split <;> split <;> rfl
    · rfl
  simp only [writeNotificationMessage, hcount, writeNotificationData]
  cases includeData with
  | false => simp
  | true =>
    by_cases hn : n > 0
    · by_cases hevents : (b.events && decide (sub.eventQueue.count > 0)) = true
      · simp [hn, hevents]
      · simp [hn, hevents]
    · by_cases hevents : (b.events && decide (sub.eventQueue.count > 0)) = true
      · simp [hn, hevents]
      · simp [hn, hevents]

theorem writeNotificationMessage_returns {items : ItemList W} {sub : Subscription} {r : PublishRequest}
    {number : UInt32} {includeData : Bool} {n : Nat} {publishTime : UInt64}
    {w : Writer cap} {p : Nat × Nat}
    (hrun : (writeNotificationMessage b items sub r number includeData n
      publishTime).run.run Writer.init = (.ok p, w)) :
        ∃ data, w.status = none ∧ (includeData = false → data = []) ∧
      w.bytes = publishResponse r.requestHandle sub.subscriptionId
        (b.subscriptionsStandard && includeData && sub.moreNotifications)
        (notificationMessage number publishTime (notificationCount b sub includeData n) data) [] ∧
      p = (37, w.bytes.length) := by
  rw [writeNotificationMessage_eq] at hrun
  obtain ⟨hfits₁, hrun⟩ := (writeResponsePrefix_encodes (by decide) _ _).emits.returns hrun rfl
  obtain ⟨hfits₂, hrun⟩ := (writeBytes_emits _).returns hrun rfl
  obtain ⟨hfits₃, hrun⟩ := (writeBytes_emits _).returns hrun rfl
  obtain ⟨hfits₄, hrun⟩ := (writeBytes_emits _).returns hrun rfl
  obtain ⟨_, _, hget, hrun⟩ := bind_returns.mp hrun
  cases hget
  obtain ⟨hfits₅, hrun⟩ := (writeBytes_emits _).returns hrun rfl
  obtain ⟨hfits₆, hrun⟩ := (writeBytes_emits _).returns hrun rfl
  obtain ⟨hfits₇, hrun⟩ := (writeBytes_emits _).returns hrun rfl
  obtain ⟨⟨⟩, data, hfits₈, hdata, hrun⟩ :=
    (writeNotificationData_appends items sub includeData n).returns hrun rfl
  obtain ⟨_, _, hget, hrun⟩ := bind_returns.mp hrun
  cases hget
  obtain ⟨rfl, rfl⟩ := pure_returns.mp hrun
  refine ⟨data, rfl, fun hkeepAlive => ?_, ?_, ?_⟩
  · subst hkeepAlive
    have hnone : Emits (writeNotificationData b items sub false n : WriteM cap Unit) [] := pure_emits
    exact hnone.unique hdata rfl
  · have hzero : put 4 (UInt32.ofInt 0).toNat = put 4 0 := put_ofInt 0
    simp only [Writer.append, Writer.init, publishResponse, notificationMessage, put_ofInt,
      hzero, List.append_assoc, List.nil_append, List.append_nil]
  · simp [Writer.append, Writer.position, Writer.init]

def ackResultBytes (acks : List StatusCode) : Bytes :=
  put 4 acks.length ++ (acks.flatMap (fun v => put 4 v.toNat) ++ put 4 0)

section

variable {items : ItemList W} {sub : Subscription} {r : PublishRequest} {includeData : Bool} {n : Nat}
    {publishTime : UInt64}

theorem buildPublishResponse_returns
    {number : UInt32} {w : Writer cap} {p : Nat × Nat}
    (hrun : (buildPublishResponse b items sub r number includeData n publishTime).run.run Writer.init =
      (.ok p, w)) :
    ∃ data, (includeData = false → data = []) ∧
      let message := notificationMessage number publishTime (notificationCount b sub includeData n) data
      w.bytes = publishResponse r.requestHandle sub.subscriptionId
        (b.subscriptionsStandard && includeData && sub.moreNotifications) message
        (ackResultBytes (r.ackResults.take b.maxPublishAcks)) ∧
      (w.bytes.take p.2).drop p.1 = message := by
  unfold buildPublishResponse at hrun
  obtain ⟨p, u, hmessage, hrun⟩ := bind_returns.mp hrun
  obtain ⟨data, hs, hdata, hbytes, rfl⟩ := writeNotificationMessage_returns hmessage
  obtain ⟨hfits₁, hrun⟩ := (writeBytes_emits _).returns hrun hs
  have heach : Emits (writeEach writeUInt32 (r.ackResults.take b.maxPublishAcks) : WriteM cap Unit) _ :=
    writeEach_emits _ (fun v => writeBytes_emits (put 4 v.toNat))
  obtain ⟨hfits₂, hrun⟩ := heach.returns hrun hs
  obtain ⟨hfits₃, hrun⟩ := (writeBytes_emits _).returns hrun hs
  obtain ⟨rfl, rfl⟩ := pure_returns.mp hrun
  have hzero : put 4 (UInt32.ofInt 0).toNat = put 4 0 := put_ofInt 0
  refine ⟨data, hdata, ?_, ?_⟩
  · rw [publishResponse_append, ← hbytes]
    simp only [Writer.append, ackResultBytes, put_ofInt, hzero, List.append_assoc]
  · simp only [Writer.append, List.append_assoc]
    rw [List.take_left, hbytes, drop_publishResponse, List.append_nil]

theorem buildPublish_layout {response message : Bytes}
    (h : buildPublish b items sub r includeData n publishTime = .ok (response, message)) :
    ∃ data, (includeData = false → data = []) ∧
      message =
        notificationMessage sub.currentSequenceNumber publishTime
        (notificationCount b sub includeData n) data ∧
      response = publishResponse r.requestHandle sub.subscriptionId
        (b.subscriptionsStandard && includeData && sub.moreNotifications) message
        (ackResultBytes (r.ackResults.take b.maxPublishAcks)) := by
  simp only [buildPublish] at h
  split at h
  · rename_i start stop w hrun
    obtain ⟨rfl, rfl⟩ := Prod.mk.inj (Except.ok.inj h)
    obtain ⟨data, hdata, hbytes, hmessage⟩ := buildPublishResponse_returns hrun
    refine ⟨data, hdata, hmessage, ?_⟩
    rw [hmessage]
    exact hbytes
  · cases h

end

end Layout

section Clear

variable {items items' : ItemList W} {flags : List Bool}

theorem drain_entries {item : MonitoredItem W} (h : item.WellQueued b) (slot n : Nat) :
    (item.drainReportedEntries b n).1.entries b slot = (item.entries b slot).drop n ∧
      (item.drainReportedEntries b n).2 = n - (item.entries b slot).length := by
  obtain ⟨-, hqueued, hleft⟩ := drainReportedEntries_spec h n
  have hhandle : (item.drainReportedEntries b n).1.clientHandle = item.clientHandle :=
    congrArg ItemKey.clientHandle (key_of_sampling (drainReportedEntries_sampling b item n).1)
  rw [MonitoredItem.entries, hqueued, hhandle, List.map_drop, entries_length, hleft, queued_length]
  exact ⟨rfl, rfl⟩

/-- A pass over the flagged items takes the entries from the front of their queues, and leaves the other
items alone. -/
theorem drainSelected_spec (flags : List Bool) (h : ∀ item ∈ items, item.WellQueued b)
    (hlen : flags.length = items.length) (slot n : Nat) :
    flaggedEntries b slot ((drainSelected b (items.zip flags) n).1.zip flags) =
        (flaggedEntries b slot (items.zip flags)).drop n ∧
      (drainSelected b (items.zip flags) n).2 = n - (flaggedEntries b slot (items.zip flags)).length ∧
      ∀ i : Nat, flags[i]? ≠ some true → (drainSelected b (items.zip flags) n).1[i]? = items[i]? := by
  induction items generalizing flags slot n with
  | nil => exact ⟨List.drop_nil.symm, rfl, fun _ _ => rfl⟩
  | cons item items ih =>
    obtain - | ⟨flag, flags⟩ := flags
    · cases hlen
    have hrestLen : flags.length = items.length := Nat.succ.inj hlen
    have hitems : ∀ item ∈ items, item.WellQueued b := fun item hitem => h item (.tail _ hitem)
    simp only [List.zip_cons_cons, drainSelected]
    by_cases hzero : n = 0
    · subst hzero
      rw [if_pos rfl, List.map_cons, List.map_fst_zip hrestLen.ge]
      exact ⟨rfl, (Nat.zero_sub _).symm, fun _ _ => rfl⟩
    · rw [if_neg hzero]
      cases flag with
      | true =>
        obtain ⟨hentries, hleft⟩ := drain_entries (h item (.head _)) slot n
        obtain ⟨hrest, hrestLeft, hothers⟩ :=
          ih flags hitems hrestLen (slot + 1) (item.drainReportedEntries b n).2
        simp only [if_true, List.zip_cons_cons, flaggedEntries, List.length_append]
        refine ⟨?_, ?_, fun i hi => ?_⟩
        · rw [hrest, hentries, hleft, List.drop_append]
        · rw [hrestLeft, hleft, Nat.sub_sub]
        · cases i with
          | zero => exact absurd rfl hi
          | succ i => exact hothers i hi
      | false =>
        obtain ⟨hrest, hrestLeft, hothers⟩ := ih flags hitems hrestLen (slot + 1) n
        simp only [Bool.false_eq_true, if_false, List.zip_cons_cons, flaggedEntries, List.nil_append]
        refine ⟨hrest, hrestLeft, fun i hi => ?_⟩
        cases i with
        | zero => rfl
        | succ i => exact hothers i hi

theorem flaggedEntries_congr (hlen : items'.length = items.length)
    (h : ∀ i : Nat, flags[i]? = some true → items'[i]? = items[i]?) (slot : Nat) :
    flaggedEntries b slot (items'.zip flags) = flaggedEntries b slot (items.zip flags) := by
  induction items generalizing items' flags slot with
  | nil =>
    obtain rfl := List.length_eq_zero_iff.mp hlen
    rfl
  | cons item items ih =>
    obtain - | ⟨item', items'⟩ := items'
    · cases hlen
    obtain - | ⟨flag, flags⟩ := flags
    · rfl
    simp only [List.zip_cons_cons, flaggedEntries]
    congr 1
    · cases flag with
      | true => rw [Option.some.inj (h 0 rfl)]
      | false => rfl
    · exact ih (Nat.succ.inj hlen) (fun i hi => h (i + 1) hi) (slot + 1)

section

variable (hstd : b.subscriptionsStandard = true) (sub : Subscription)
    (h : ∀ item ∈ items, item.WellQueued b) (n : Nat)

include hstd sub h n

/-- `clear_reported_items` takes entries from the front of the queues of the reporting items, then of
those of the triggered ones, and leaves the items that do not report alone. -/
theorem clearReportedItems_parts :
    let reporting := items.map (fun i => i.reportable b sub)
    let triggered := items.map (fun i => i.reportsByTrigger b items sub)
    flaggedEntries b 0 ((clearReportedItems b items sub n).zip reporting) =
        (flaggedEntries b 0 (items.zip reporting)).drop n ∧
      flaggedEntries b 0 ((clearReportedItems b items sub n).zip triggered) =
        (flaggedEntries b 0 (items.zip triggered)).drop
        (n - (flaggedEntries b 0 (items.zip reporting)).length) ∧
      ∀ (i : Nat) item, items[i]? = some item → item.reportable b sub = false →
        item.reportsByTrigger b items sub = false →
        (clearReportedItems b items sub n)[i]? = some item := by
  have hzip :
      items.map (fun i => (i, i.reportable b sub)) =
        items.zip (items.map (fun i => i.reportable b sub)) := by
    simpa using (List.zip_map' (f := id) (g := fun i => MonitoredItem.reportable b i sub)
      (l := items)).symm
  have hflag (f : MonitoredItem W → Bool) (i : Nat) :
      (items.map f)[i]? = some true ↔ ∃ item, items[i]? = some item ∧ f item = true := by
    rw [List.getElem?_map, Option.map_eq_some_iff]
  intro reporting triggered
  have hworks :=
    works_of_steps (drainSelected_steps (b := b) sub items reporting (by simp [reporting]) n)
  obtain ⟨hreporting, hleft, hothers⟩ := drainSelected_spec reporting h (by simp [reporting]) 0 n
  simp only [clearReportedItems, if_pos hstd, hzip]
  generalize drainSelected b (items.zip reporting) n = p at hworks hreporting hleft hothers
  have hlen := hworks.length_eq
  obtain ⟨htriggered, -, hothers'⟩ :=
    drainSelected_spec triggered (wellQueued_of_works hworks h) (by simp [triggered, hlen]) 0 p.2
  have hworks' := drainSelected_steps (b := b) sub p.1 triggered (by simp [triggered, hlen]) p.2
  generalize drainSelected b (p.1.zip triggered) p.2 = q at htriggered hothers' hworks'
  have hkept : flaggedEntries b 0 (q.1.zip reporting) = flaggedEntries b 0 (p.1.zip reporting) := by
    refine flaggedEntries_congr hworks'.length_eq.symm (fun i hi => hothers' i ?_) 0
    obtain ⟨item, hitem, hreportable⟩ := (hflag _ i).mp hi
    intro htrigger
    obtain ⟨item', hitem', htrigger⟩ := (hflag _ i).mp htrigger
    obtain rfl := Option.some.inj (hitem.symm.trans hitem')
    cases (not_reportsByTrigger hreportable).symm.trans htrigger
  have hkept' : flaggedEntries b 0 (p.1.zip triggered) = flaggedEntries b 0 (items.zip triggered) := by
    refine flaggedEntries_congr hlen.symm (fun i hi => hothers i ?_) 0
    obtain ⟨item, hitem, htrigger⟩ := (hflag _ i).mp hi
    intro hreportable
    obtain ⟨item', hitem', hreportable⟩ := (hflag _ i).mp hreportable
    obtain rfl := Option.some.inj (hitem.symm.trans hitem')
    cases (not_reportsByTrigger hreportable).symm.trans htrigger
  refine ⟨hkept.trans hreporting, ?_, fun i item hitem hreportable htrigger => ?_⟩
  · rw [htriggered, hkept', hleft]
  · rw [hothers' i, hothers i, hitem]
    · intro hflagged
      obtain ⟨item', hitem', hflagged⟩ := (hflag _ i).mp hflagged
      obtain rfl := Option.some.inj (hitem.symm.trans hitem')
      cases hreportable.symm.trans hflagged
    · intro hflagged
      obtain ⟨item', hitem', hflagged⟩ := (hflag _ i).mp hflagged
      obtain rfl := Option.some.inj (hitem.symm.trans hitem')
      cases htrigger.symm.trans hflagged

theorem clearReportedItems_spec :
    reportEntries b sub items (clearReportedItems b items sub n) =
      (reportEntries b sub items items).drop n := by
  obtain ⟨hreporting, htriggered, -⟩ := clearReportedItems_parts hstd sub h n
  rw [reportEntries, hreporting, htriggered, reportEntries, List.drop_append]

end

end Clear

section Remaining

variable {items : ItemList W} {sub : Subscription}

def Settled (item item' : MonitoredItem W) : Prop :=
  item' = item ∨ item'.key = item.key ∧ (item'.pending = true → 0 < item'.queueCount.toNat)

instance : IsTrans (MonitoredItem W) Settled where
  trans item item' item'' h h' := by
    obtain rfl | ⟨hkey', hpending'⟩ := h'
    · exact h
    · obtain rfl | ⟨hkey, -⟩ := h
      · exact .inr ⟨hkey', hpending'⟩
      · exact .inr ⟨hkey'.trans hkey, hpending'⟩

theorem drainReportedEntries_settled (item : MonitoredItem W) (n : Nat) :
    Settled item (item.drainReportedEntries b n).1 := by
  refine .inr ⟨key_of_sampling (drainReportedEntries_sampling b item n).1, ?_⟩
  simp only [MonitoredItem.drainReportedEntries]
  split
  · rintro ⟨⟩
  · rename_i hcount
    intro _
    apply Nat.pos_of_ne_zero
    exact fun hzero => hcount (UInt8.toNat_inj.mp hzero)

theorem drainSelected_settled (flags : List Bool) (hlen : flags.length = items.length) (n : Nat) :
    List.Forall₂ Settled items (drainSelected b (items.zip flags) n).1 := by
  induction items generalizing flags n with
  | nil => exact .nil
  | cons item items ih =>
    obtain - | ⟨flag, flags⟩ := flags
    · cases hlen
    have hrestLen : flags.length = items.length := Nat.succ.inj hlen
    simp only [List.zip_cons_cons, drainSelected]
    split
    · rw [List.map_cons, List.map_fst_zip hrestLen.ge]
      exact List.forall₂_same.mpr (fun item _ => .inl rfl)
    · split
      · exact .cons (drainReportedEntries_settled item n) (ih flags hrestLen _)
      · exact .cons (.inl rfl) (ih flags hrestLen _)

theorem clearReportedItems_settled (hstd : b.subscriptionsStandard = true) (items : ItemList W)
    (sub : Subscription) (n : Nat) : List.Forall₂ Settled items (clearReportedItems b items sub n) := by
  have hzip :
      items.map (fun i => (i, i.reportable b sub)) =
        items.zip (items.map (fun i => i.reportable b sub)) := by
    simpa using (List.zip_map' (f := id) (g := fun i => MonitoredItem.reportable b i sub)
      (l := items)).symm
  have hfirst :=
    drainSelected_settled (b := b) (items.map (fun i => i.reportable b sub)) (List.length_map _) n
  simp only [clearReportedItems, if_pos hstd, hzip]
  refine forall₂_trans hfirst (drainSelected_settled _ ?_ _)
  rw [List.length_map, hfirst.length_eq]

theorem reportable_eq (hstd : b.subscriptionsStandard = true) (item : MonitoredItem W)
    (sub : Subscription) : item.reportable b sub = true ↔
      item.inSubscription sub = true ∧ item.monitoringMode = monitoringReporting ∧
        (item.pending = true ∨ 0 < item.queueCount.toNat) := by
  have hpos : item.queueCount > 0 ↔ 0 < item.queueCount.toNat := UInt8.lt_iff_toNat_lt
  simp only [MonitoredItem.reportable, if_pos hstd, Bool.and_eq_true, Bool.or_eq_true,
    decide_eq_true_eq, hpos]
  tauto

theorem flaggedEntries_eq_nil {flags : List Bool} {slot : Nat} {items : ItemList W} :
    flaggedEntries b slot (items.zip flags) = [] ↔
      ∀ (i : Nat) item, items[i]? = some item → flags[i]? = some true → item.queueCount.toNat = 0 := by
  induction items generalizing flags slot with
  | nil => simp [flaggedEntries]
  | cons item items ih =>
    obtain - | ⟨flag, flags⟩ := flags
    · simp [flaggedEntries]
    simp only [List.zip_cons_cons, flaggedEntries, List.append_eq_nil_iff, ih]
    constructor
    · rintro ⟨hfirst, hrest⟩ i item' hitem hflag
      cases i with
      | zero =>
        obtain rfl := Option.some.inj hitem
        obtain rfl := Option.some.inj hflag
        have hlen := congrArg List.length hfirst
        rwa [if_pos rfl, entries_length] at hlen
      | succ i => exact hrest i item' hitem hflag
    · intro h
      refine ⟨?_, fun i item' hitem hflag => h (i + 1) item' hitem hflag⟩
      cases flag with
      | false => rfl
      | true =>
        have hzero := h 0 item rfl rfl
        rw [if_pos rfl, ← List.length_eq_zero_iff, entries_length, hzero]

end Remaining

end MicroOpcua
