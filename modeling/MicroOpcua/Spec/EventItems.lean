import MicroOpcua.Core.Script
import MicroOpcua.Services.MessageLog
import MicroOpcua.Services.SampleLaws

namespace MicroOpcua

open Relation Lib.StateRun Lib.Table

variable {W : Type} {b : Build} {s : Subscriptions W} {sub : Subscription} {item item' : MonitoredItem W}

section Invariant

def MonitoredItem.isEventItem (item : MonitoredItem W) : Prop :=
  item.attributeId = MonitoredItem.eventNotifierAttribute

instance (item : MonitoredItem W) : Decidable item.isEventItem := inferInstanceAs (Decidable (_ = _))

def MonitoredItem.Dataless (item : MonitoredItem W) : Prop :=
  item.isEventItem → item.hasValue = false ∧ item.hasAggregate = false ∧ item.queueCount = 0

def Subscription.SparesEventItems (sub : Subscription) (items : ItemList W) : Prop :=
  sub.resendDataPending = true → ∀ item ∈ items,
    item.inSubscription sub = true → item.monitoringMode = monitoringReporting → ¬ item.isEventItem

instance (sub : Subscription) (items : ItemList W) : Decidable (sub.SparesEventItems items) :=
  inferInstanceAs (Decidable (sub.resendDataPending = true → _))

/-- The operation neither gives an event item an aggregate nor sends data of one again. -/
def EngineOp.SparesEventItems (s : Subscriptions W) : EngineOp W → Prop
  | .createItem _ body _ _ _ => body.attributeId = MonitoredItem.eventNotifierAttribute →
  body.filter.hasAggregate = false
  | .turn x => ∀ sub, s.subscriptions[x.index]? = some sub → sub.SparesEventItems s.items.monitoredItems
  | _ => True

theorem createdItem_dataless (subId id : UInt32) (body : MonitoredItemCreateBody) (node : Node W)
    (nowMs : UInt64) (w : W)
    (hplain : body.attributeId = MonitoredItem.eventNotifierAttribute →
      body.filter.hasAggregate = false) :
    (createdItem b subId id body node nowMs w).Dataless := by
  have hfill : (fillItem b body node nowMs (allocatedItem b subId id) : MonitoredItem W).attributeId =
      body.attributeId ∧ (fillItem b body node nowMs (allocatedItem b subId id)).Dataless := by
    simp only [fillItem]
    split
    · exact ⟨rfl, fun hevent => ⟨rfl, hplain hevent, rfl⟩⟩
    · exact ⟨rfl, fun _ => ⟨rfl, rfl, rfl⟩⟩
  unfold createdItem
  generalize fillItem b body node nowMs _ = item at hfill
  obtain ⟨hattribute, hitem⟩ := hfill
  obtain hsame | ⟨hdata, status, value, hsame⟩ := initialSample_cases body node item w
  · rw [hsame]
    exact hitem
  · rw [hsame]
    exact fun hevent => absurd (hattribute.symm.trans hevent) hdata

theorem isEventItem_of_works (h : ItemWorks b item item') : item'.isEventItem ↔ item.isEventItem := by
  have hattribute : item'.attributeId = item.attributeId := congrArg ItemKey.attributeId h.key
  rw [MonitoredItem.isEventItem, hattribute, MonitoredItem.isEventItem]

theorem MonitoredItem.Dataless.sample (h : item.Dataless) (hevents : b.events = true)
    (nowMs : UInt64) (w : W) : ((item.sample b nowMs).run w).1.Dataless := by
  intro hevent
  rw [isEventItem_of_works (.sample nowMs item w)] at hevent
  have hidle : ¬ item.Sampled b nowMs := fun hsampled => hsampled.data ⟨hevents, hevent⟩
  rw [sample_idle (h hevent).2.1 hidle]
  exact h hevent

theorem drainLoop_empty (h : item.queueCount = 0) (size : UInt32) (remaining : Nat) :
    MonitoredItem.drainLoop size remaining item = (item, remaining) := by
  have hnone : ¬ item.queueCount > 0 := by
    rw [h]
    decide
  cases remaining with
  | zero => rfl
  | succ n => rw [MonitoredItem.drainLoop, if_neg hnone]

theorem MonitoredItem.Dataless.drain (h : item.Dataless) (remaining : Nat) :
    (item.drainReportedEntries b remaining).1.Dataless := by
  intro hevent
  rw [isEventItem_of_works (ReflTransGen.single (.drain item remaining))] at hevent
  obtain ⟨hvalue, hplain, hempty⟩ := h hevent
  have hsampling := (drainReportedEntries_sampling b item remaining).1
  have hvalue' := congrArg MonitoredItem.hasValue hsampling
  have hplain' := congrArg MonitoredItem.hasAggregate hsampling
  refine ⟨hvalue'.trans hvalue, hplain'.trans hplain, ?_⟩
  have heffective : (item.effectiveQueueSize b).queueCount = 0 := by
    simp only [MonitoredItem.effectiveQueueSize, hempty]
    exact if_neg (UInt32.not_lt.mpr (UInt32.le_iff_toNat_le.mpr (Nat.zero_le _)))
  simp only [MonitoredItem.drainReportedEntries, drainLoop_empty heffective, if_pos heffective]
  exact heffective

theorem ReportStep.dataless (h : ReportStep b sub item item') (hitem : item.Dataless)
    (hspares : sub.resendDataPending = true → item.inSubscription sub = true →
      item.monitoringMode = monitoringReporting → ¬ item.isEventItem) : item'.Dataless := by
  intro hevent
  rw [isEventItem_of_works h.works] at hevent
  cases h with
  | prepare =>
    have hsame : item.preparePendingQueue b = item := by
      simp only [MonitoredItem.preparePendingQueue, (hitem hevent).1, Bool.and_false, Bool.false_and,
        Bool.false_eq_true,
        if_false]
    rw [hsame]
    exact hitem hevent
  | resend w hpending hmember hmode => exact absurd hevent (hspares hpending hmember hmode)
  | drain remaining =>
    exact hitem.drain remaining ((isEventItem_of_works (.single (.drain item remaining))).mpr hevent)
  | reported basic => exact hitem hevent

theorem ReportSteps.dataless (h : ReportSteps b sub item item') (hitem : item.Dataless)
    (hspares : sub.resendDataPending = true → item.inSubscription sub = true →
      item.monitoringMode = monitoringReporting → ¬ item.isEventItem) : item'.Dataless := by
  induction h with
  | refl => exact hitem
  | @tail before after hsteps hstep ih =>
    have hworks : ItemWorks b item before := ReportSteps.works hsteps
    apply hstep.dataless ih
    have hmember : before.inSubscription sub = item.inSubscription sub :=
      inSubscription_of_key hworks.key sub
    have hmode : before.monitoringMode = item.monitoringMode :=
      congrArg ItemKey.monitoringMode hworks.key
    rw [hmember, hmode, isEventItem_of_works hworks]
    exact hspares

theorem ItemAct.dataless {op : EngineOp W} (hevents : b.events = true) (hop : op.SparesEventItems s)
    (h : ItemAct b s op item item') (hmem : item ∈ s.items.monitoredItems) (hitem : item.Dataless) :
    item'.Dataless := by
  cases h with
  | keep => exact hitem
  | create subId body node nowMs w id hfree => exact createdItem_dataless subId id body node nowMs w hop
  | modify => exact hitem
  | mode => exact hitem
  | link => exact hitem
  | unlink => exact hitem
  | release => exact nofun
  | sample nowMs => exact hitem.sample hevents nowMs _
  | turn x sub hsub hsteps =>
    exact hsteps.dataless hitem (fun hpending => hop sub hsub hpending item hmem)

theorem EngineRuns.dataless (hevents : b.events = true)
    (h : EngineRuns b (fun s op => op.SparesEventItems s) (.init b) s) :
    ∀ item ∈ s.items.monitoredItems, item.Dataless := by
  refine h.items (fun s op item item' hop hact hmem => hact.dataless hevents hop hmem) init_consistent ?_
  intro item hitem
  obtain rfl := List.eq_of_mem_replicate hitem
  exact nofun

end Invariant

section Notifications

def DataEntries (items : ItemList W) (entries : List QueueEntry) : Prop :=
  ∀ e ∈ entries, ∃ item, items[e.slot]? = some item ∧ e.clientHandle = item.clientHandle ∧
    ¬ item.isEventItem

theorem mem_flaggedEntries {items : ItemList W} {flags : List Bool} {slot : Nat} {e : QueueEntry}
    (h : e ∈ flaggedEntries b slot (items.zip flags)) :
    ∃ (i : Nat) (item : MonitoredItem W), items[i]? = some item ∧ e ∈ item.entries b (slot + i) := by
  induction items generalizing flags slot with
  | nil => cases h
  | cons item items ih =>
    obtain - | ⟨flag, flags⟩ := flags
    · cases h
    · rw [List.zip_cons_cons, flaggedEntries, List.mem_append] at h
      obtain hhead | htail := h
      · split at hhead
        · exact ⟨0, item, rfl, hhead⟩
        · cases hhead
      · obtain ⟨i, item', hi, he⟩ := ih htail
        refine ⟨i + 1, item', hi, ?_⟩
        rwa [Nat.add_assoc, Nat.add_comm 1 i] at he

theorem reportEntries_data {items : ItemList W} (h : ∀ item ∈ items, item.Dataless)
    (sub : Subscription) : DataEntries items (reportEntries b sub items items) := by
  intro e he
  have hentry : ∃ (i : Nat) (item : MonitoredItem W),
      items[i]? = some item ∧ e ∈ item.entries b (0 + i) := by
    obtain he | he := List.mem_append.mp he
    · exact mem_flaggedEntries he
    · exact mem_flaggedEntries he
  obtain ⟨i, item, hi, he⟩ := hentry
  have hcount : item.queueCount ≠ 0 := by
    intro hempty
    have hlength := entries_length b (0 + i) item
    rw [hempty] at hlength
    rw [List.eq_nil_of_length_eq_zero hlength] at he
    cases he
  obtain ⟨r, -, rfl⟩ := List.mem_map.mp he
  refine ⟨item, ?_, rfl, fun hevent => hcount (h item (List.mem_of_getElem? hi) hevent).2.2⟩
  rwa [Nat.zero_add]

/-- In every run that neither gives an event item an aggregate nor resends data of one, the queues of
event items are empty, and a DataChangeNotification of its next turn has entries of data items only. -/
theorem event_items_report_no_data (hevents : b.events = true) (hstd : b.subscriptionsStandard = true)
    (h : EngineRuns b (fun s op => op.SparesEventItems s) (.init b) s) :
    (∀ item ∈ s.items.monitoredItems, item.isEventItem → item.queueCount = 0) ∧
      ∀ (x : TurnInput W) sub, s.subscriptions[x.index]? = some sub →
      sub.SparesEventItems s.items.monitoredItems →
        let p := ((prepareReport b sub s.items.monitoredItems).run x.world).1
        ∃ entries, DataEntries p.1 entries ∧
          ∀ cap n, (writeNotifications b p.1 p.2.2 n : WriteM cap Unit) =
            writeEach writeEntry (entries.take n) := by
  have hitems := h.dataless hevents
  refine ⟨fun item hitem hevent => (hitems item hitem hevent).2.2, fun x sub hsub hspares => ?_⟩
  have hsteps := prepareReport_steps (b := b) sub s.items.monitoredItems x.world
  have hprepared : ∀ item ∈ ((prepareReport b sub s.items.monitoredItems).run x.world).1.1,
      item.Dataless := by
    intro item' hitem'
    obtain ⟨i, hi⟩ := List.getElem?_of_mem hitem'
    obtain ⟨item, hitem, hstep⟩ := exists_getElem?_of_forall₂ hsteps hi
    have hmem := List.mem_of_getElem? hitem
    exact hstep.dataless (hitems item hmem) (fun hpending => hspares hpending item hmem)
  have hwell : ∀ item ∈ ((prepareReport b sub s.items.monitoredItems).run x.world).1.1,
      item.WellQueued b :=
    wellQueued_of_works (works_of_steps hsteps) (h.wellQueued init_consistent init_wellQueued)
  exact ⟨_, reportEntries_data hprepared _, fun cap n => writeNotifications_eq hstd _ _ n hwell⟩

end Notifications

namespace EngineScript

def monitorEvents (subscriptionId clientHandle : UInt32) : EngineOp Unit :=
  .createItem subscriptionId
    { nodeId := .ns0 2253
      attributeId := MonitoredItem.eventNotifierAttribute
      monitoringMode := 2
      clientHandle := clientHandle
      samplingIntervalBits := 0
      filter := FilterBody.default
      selectClauses := noClauses
      queueSize := 1
      discardOldest := true }
    ⟨none⟩ 0 ()

def besideValue : List (EngineOp Unit) :=
  [subscribe 1, subscribe 1, monitor 2 10 5, monitorEvents 2 11, park 7,
    .requestResendData 1 1, .sample 100 ()]

def secondTurn : TurnInput Unit := ⟨1, 100, (), 0, true⟩

/-- The data of the first subscription is sent again, and then the second one has its turn. -/
theorem event_items_report_no_data_beside_value :
    let s := after (besideValue ++ [.turn firstTurn] ++ [.turn secondTurn])
    (∃ item ∈ s.items.monitoredItems, item.isEventItem ∧ item.inUse = true) ∧
      (turn build firstTurn (after besideValue)).1.map Publication.notifications = some 1 ∧
      (∀ item ∈ s.items.monitoredItems, item.isEventItem → item.queueCount = 0) ∧
      ∀ (x : TurnInput Unit) sub, s.subscriptions[x.index]? = some sub →
        sub.SparesEventItems s.items.monitoredItems →
        let p := ((prepareReport build sub s.items.monitoredItems).run x.world).1
        ∃ entries, DataEntries p.1 entries ∧ ∀ cap n,
          (writeNotifications build p.1 p.2.2 n : WriteM cap Unit) =
            writeEach writeEntry (entries.take n) := by
  have hbefore :
      EngineRuns build (fun s op => op.SparesEventItems s) (.init build) (after besideValue) := by
    apply EngineRuns.of_ops
    intro op hop s
    simp only [besideValue, List.mem_cons, List.not_mem_nil, or_false] at hop
    obtain rfl | rfl | rfl | rfl | rfl | rfl | rfl := hop
    case inr.inr.inl | inr.inr.inr.inl => exact fun _ => rfl
    all_goals trivial
  have hspared (x : TurnInput Unit) (s : Subscriptions Unit)
      (h : ∀ sub ∈ s.subscriptions[x.index]?, sub.SparesEventItems s.items.monitoredItems) :
      (EngineOp.turn x).SparesEventItems s := h
  have hfirst := hbefore.concat (.turn firstTurn) (hspared _ _ (by decide +kernel))
  have hsecond := hfirst.concat (.turn secondTurn) (hspared _ _ (by decide +kernel))
  exact ⟨by decide +kernel, by decide +kernel, event_items_report_no_data rfl rfl hsecond⟩

/-- A client that asks for its data again is sent a value under the handle of its event item. -/
theorem event_item_reported_by_resend :
    let ops := [subscribe 1, monitorEvents 1 11, .requestResendData 1 1]
    let s := EngineOp.apply build (.turn firstTurn) (after ops)
    (∃ item ∈ s.items.monitoredItems, item.isEventItem ∧ item.queueCount = 1) ∧
      (turn build firstTurn (after (ops ++ [park 7]))).1.map Publication.notifications = some 1 := by
  decide +kernel

end EngineScript

end MicroOpcua
