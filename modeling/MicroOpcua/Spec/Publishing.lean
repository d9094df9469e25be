import MicroOpcua.Core.Script
import MicroOpcua.Services.MessageLog

namespace MicroOpcua

open EngineScript Lib.LittleEndian Lib.StateRun Lib.Table

variable {W A : Type} {b : Build}

section Report

/-- The items a turn counts: those `prepare_reportable_queues` leaves or, when data is to be sent again,
those `enqueue_resend_data` makes of them in the given world. -/
def preparedItems (b : Build) (sub : Subscription) (items : ItemList W) : Option W → ItemList W
  | none => prepareReportableQueues b items sub
  | some w => ((enqueueResendData b sub (prepareReportableQueues b items sub)).run w).1

theorem preparedItems_works (sub : Subscription) (items : ItemList W) (resend : Option W) :
    List.Forall₂ (ItemWorks b) items (preparedItems b sub items resend) := by
  have hprepare := works_of_steps (prepareReportableQueues_steps (b := b) items sub)
  cases resend with
  | none => exact hprepare
  | some w =>
    exact forall₂_trans hprepare (enqueueResendData_forall₂ ItemWorks.refl (fun item w _ _ =>
      .resend item w) _ w)

def Ctx.Emits (b : Build) (c : Config W) (s : Ctx W A) (sub : Subscription) (n : Nat) : Prop :=
  ∃ r queue response message,
    publishRequestDequeue s.shared.subs.publishQueue sub.sessionId = some (r, queue) ∧
    s.response b c sub.numbered r true n = .ok (response, message) ∧
    ((emitMessage b c r response).run (s.answering queue (c.platform.getTime.run s.world).2)).1 = .ok ()

theorem emitOrFault_true {c : Config W} {r : PublishRequest} {built : Except Fault Bytes} {s : Ctx W A}
    (h : ((emitOrFault b c r built).run s).1 = true) :
    ∃ body, built = .ok body ∧ ((emitMessage b c r body).run s).1 = .ok () := by
  cases built with
  | error e => cases h
  | ok body =>
    refine ⟨body, rfl, ?_⟩
    simp only [emitOrFault, run_bind] at h
    split at h
    · assumption
    · cases h

theorem publishData_items (c : Config W) (sub : Subscription) (n : Nat) (s : Ctx W A) :
    ((publishData b c sub n).run s).2.shared.subs.items.monitoredItems =
      s.shared.subs.items.monitoredItems ∨ s.Emits b c sub n ∧
      ((publishData b c sub n).run s).2.shared.subs.items.monitoredItems =
        clearReportedItems b s.shared.subs.items.monitoredItems sub n := by
  cases hr : publishRequestDequeue s.shared.subs.publishQueue sub.sessionId with
  | none =>
    rw [publishData, publishAnswer_none hr]
    exact .inl rfl
  | some p =>
    obtain ⟨r, queue⟩ := p
    cases hanswer : s.answer b c sub.numbered r queue true n with
    | mk accepted u =>
      have hshared : u.shared.subs = { s.shared.subs with publishQueue := queue } := by
        rw [← s.answer_shared b c sub.numbered r queue true n, hanswer]
      rw [publishData, publishAnswer_some hr hanswer]
      cases accepted with
      | false =>
        left
        exact congrArg (fun subs => subs.items.monitoredItems) hshared
      | true =>
        right
        obtain ⟨response, message, hbuilt⟩ := Ctx.answer_accepted hanswer
        refine ⟨⟨r, queue, response, message, hr, hbuilt, ?_⟩, ?_⟩
        swap
        · exact congrArg (clearReportedItems b · sub n) (congrArg (·.items.monitoredItems) hshared)
        have haccepted := congrArg Prod.fst hanswer
        rw [Ctx.answer, hbuilt] at haccepted
        obtain ⟨body, hbody, hemitted⟩ := emitOrFault_true haccepted
        obtain rfl := Except.ok.inj hbody
        exact hemitted

/-- The count, the notification and the clearing of a turn agree on one list of entries. -/
theorem report_entries_agree (hstd : b.subscriptionsStandard = true) (ops : List (EngineOp W))
    (sub : Subscription) (resend : Option W) :
    let items := preparedItems b sub (runOps b ops (.init b)).items.monitoredItems resend
    let n := (countReportableItems b items sub).1
    let entries := reportEntries b sub items items
    let body := dataChangeBody n ((entries.take n).flatMap entryBytes)
    (n ≤ entries.length ∧ n < 2 ^ 31) ∧
      (∀ (cap : Nat) (w w' : Writer cap), w.status = none →
        (writeDataChangeNotification b items sub n).run.run w = (.ok (), w') →
          body.length < 2 ^ 31 ∧ w'.bytes = w.bytes ++ dataChangeBytes body) ∧
      (reportEntries b sub items (clearReportedItems b items sub n) = entries.drop n ∧
        ∀ (i : Nat) item, items[i]? = some item → item.reportable b sub = false →
          item.reportsByTrigger b items sub = false →
          (clearReportedItems b items sub n)[i]? = some item) ∧
      ∀ (c : Config W) (s : Ctx W A), s.shared.subs.items.monitoredItems = items →
        ((publishData b c sub n).run s).2.shared.subs.items.monitoredItems = items ∨
          s.Emits b c sub n ∧ ((publishData b c sub n).run s).2.shared.subs.items.monitoredItems =
            clearReportedItems b items sub n := by
  intro items n entries body
  have hconsistent := runOps_consistent (b := b) ops (s := .init b) init_consistent
  have hworks := preparedItems_works (b := b) sub (runOps b ops (.init b)).items.monitoredItems resend
  have hqueued : ∀ item ∈ items, item.WellQueued b :=
    wellQueued_of_works hworks (runOps_wellQueued ops init_consistent init_wellQueued)
  have hcount : n = capped sub.maxNotificationsPerPublish.toNat entries.length :=
    congrArg Prod.fst (countReportableItems_eq hstd items sub)
  have hle : n ≤ entries.length := hcount ▸ capped_le _ _
  have hsize : items.length = b.maxMonitoredItems := hworks.length_eq.symm.trans hconsistent.items.size
  have htotal : entries.length ≤ items.length * b.monitoredQueueDepth :=
    reportEntries_length_le sub hqueued
  have hlimit := b.maxMonitoredItems_lt
  rw [Nat.mul_succ] at hlimit
  rw [hsize] at htotal
  refine ⟨⟨hle, by omega⟩, fun cap w w' hs hrun => ?_,
    ⟨clearReportedItems_spec hstd sub hqueued n, (clearReportedItems_parts hstd sub hqueued n).2.2⟩,
    fun c s hs => ?_⟩
  · have hentries :
        Emits (writeNotifications b items sub n : WriteM cap Unit)
        ((entries.take n).flatMap entryBytes) := by
      rw [writeNotifications_eq hstd items sub n hqueued]
      exact writeEach_emits _ writeEntry_emits
    obtain ⟨written, ⟨u, hu, hus, hwritten⟩, hlength, hfits, rfl⟩ :=
      writeDataChangeNotification_returns hs hrun
    obtain rfl := hentries.unique hwritten hus
    exact ⟨Nat.lt_of_le_of_lt hlength (by decide), rfl⟩
  · rw [← hs]
    exact publishData_items c sub n s

namespace EngineScript

def twoReporting : List (EngineOp Unit) :=
  [subscribe 1, monitor 2 10 5, monitor 2 11 6, park 7]

end EngineScript

theorem report_entries_agree_two_reporting :
    let s := after twoReporting
    let sub := first s
    let items := preparedItems build sub s.items.monitoredItems none
    let n := (countReportableItems build items sub).1
    n = 1 ∧ (reportEntries build sub items items).map QueueEntry.clientHandle = [10, 11] ∧
      reportEntries build sub items (clearReportedItems build items sub n) =
        (reportEntries build sub items items).drop n := by
  have hagree := (report_entries_agree (A := Unit) (b := build) rfl twoReporting
    (first (after twoReporting)) none).2.2.1.1
  exact ⟨by decide +kernel, by decide +kernel, hagree⟩

end Report

section More

variable {items : ItemList W} {sub : Subscription}

def reportingQueued (items : ItemList W) (sub : Subscription) : Nat :=
  ((items.filter (fun i => i.inSubscription sub && i.monitoringMode = monitoringReporting)).map
    (fun i => i.queueCount.toNat)).sum

theorem reportingQueued_eq (hstd : b.subscriptionsStandard = true) (items : ItemList W)
    (sub : Subscription) (slot : Nat) : reportingQueued items sub =
      (flaggedEntries b slot (items.zip (items.map (fun i => i.reportable b sub)))).length := by
  induction items generalizing slot with
  | nil => rfl
  | cons item items ih =>
    simp only [List.map_cons, List.zip_cons_cons, flaggedEntries, List.length_append, ← ih (slot + 1)]
    simp only [reportingQueued, List.filter_cons]
    by_cases hreportable : item.reportable b sub = true
    · obtain ⟨hin, hmode, -⟩ := (reportable_eq hstd item sub).mp hreportable
      rw [if_pos hreportable, if_pos (by simp [hin, hmode]), List.map_cons,
        List.sum_cons, entries_length]
    · rw [if_neg hreportable, List.length_nil, Nat.zero_add]
      split
      · rename_i hselected
        simp only [Bool.and_eq_true, decide_eq_true_eq] at hselected
        have hzero : item.queueCount.toNat = 0 := by
          by_contra hne
          exact hreportable ((reportable_eq hstd item sub).mpr ⟨hselected.1, hselected.2,
            .inr (Nat.pos_of_ne_zero hne)⟩)
        rw [List.map_cons, List.sum_cons, hzero, Nat.zero_add]
      · rfl

variable {item : MonitoredItem W}

theorem prepareReportableQueues_pending (hstd : b.subscriptionsStandard = true)
    (h : ∀ item ∈ items, item.WellQueued b) (hitem : item ∈ prepareReportableQueues b items sub)
    (hin : item.inSubscription sub = true) (hmode : item.monitoringMode = monitoringReporting)
    (hpending : item.pending = true) : 0 < item.queueCount.toNat := by
  obtain ⟨old, hold, rfl⟩ := List.mem_map.mp hitem
  split at hpending
  · rename_i hselected
    rw [if_pos hselected]
    exact (h old hold).preparePendingQueue_pending hstd hpending
  · rename_i hskipped
    rw [if_neg hskipped] at hin hmode
    exact absurd (by simp [hin, hmode, monitoringReporting, monitoringDisabled]) hskipped

theorem resend_pending (h : item.WellQueued b) (w : W)
    (hpending : ((item.resend b).run w).1.pending = true) :
    0 < ((item.resend b).run w).1.queueCount.toNat := by
  have hvalue (cur : Variant) (status : StatusCode) :
      ({ item with lastValue := cur, lastStatus := status, hasValue := true } :
        MonitoredItem W).WellQueued b :=
    (ItemStep.value item cur status).wellQueued h
  have hstatus (status : StatusCode) :
    ({ item with lastStatus := status } : MonitoredItem W).WellQueued b := h.congr rfl
  simp only [MonitoredItem.resend, run_bind] at hpending ⊢
  generalize item.readValue.run w = r at hpending ⊢
  simp only [run_ite, run_pure] at hpending ⊢
  by_cases hgood : r.1.1 = good
  · simp only [if_pos hgood] at hpending ⊢
    exact (hvalue _ _).enqueueReport_pending _ _ hpending
  · simp only [if_neg hgood] at hpending ⊢
    by_cases hhas : item.hasValue = true
    · simp only [if_pos hhas] at hpending ⊢
      exact (hstatus _).enqueueReport_pending _ _ hpending
    · simp only [if_neg hhas] at hpending ⊢
      exact (hvalue _ _).enqueueReport_pending _ _ hpending

theorem enqueueResendData_pending (w : W) (h : ∀ item ∈ items, item.WellQueued b)
    (hitem : item ∈ ((enqueueResendData b sub items).run w).1) (hin : item.inSubscription sub = true)
    (hmode : item.monitoringMode = monitoringReporting) (hpending : item.pending = true) :
    0 < item.queueCount.toNat := by
  induction items generalizing w with
  | nil => cases hitem
  | cons old items ih =>
    have hrest : ∀ item ∈ items, item.WellQueued b := fun item hitem => h item (.tail _ hitem)
    simp only [enqueueResendData] at hitem
    split at hitem
    · obtain rfl | hitem := List.mem_cons.mp hitem
      · exact resend_pending (h old (.head _)) w hpending
      · exact ih _ hrest hitem
    · rename_i hskipped
      obtain rfl | hitem := List.mem_cons.mp hitem
      · exact absurd (by simp [hin, hmode]) hskipped
      · exact ih _ hrest hitem

theorem preparedItems_pending (hstd : b.subscriptionsStandard = true)
    (h : ∀ item ∈ items, item.WellQueued b) (resend : Option W) :
    ∀ item ∈ preparedItems b sub items resend, item.inSubscription sub = true →
      item.monitoringMode = monitoringReporting → item.pending = true → 0 < item.queueCount.toNat := by
  intro item hitem hin hmode hpending
  cases resend with
  | none => exact prepareReportableQueues_pending hstd h hitem hin hmode hpending
  | some w =>
    refine enqueueResendData_pending w ?_ hitem hin hmode hpending
    exact wellQueued_of_works (works_of_steps (prepareReportableQueues_steps items sub)) h

section

variable (hstd : b.subscriptionsStandard = true) (h : ∀ item ∈ items, item.WellQueued b)
    (hpend : ∀ item ∈ items, item.inSubscription sub = true → item.monitoringMode = monitoringReporting →
      item.pending = true → 0 < item.queueCount.toNat)

include hstd h hpend

/-- When the Reporting items have no more than the limit queued, clearing leaves none of them
reportable. -/
theorem clearReportedItems_none {n : Nat} (hn : reportingQueued items sub ≤ n) :
    ∀ item ∈ clearReportedItems b items sub n, item.reportable b sub = false := by
  obtain ⟨hreporting, -, hothers⟩ := clearReportedItems_parts hstd sub h n
  have hsettled := clearReportedItems_settled hstd items sub n
  rw [reportingQueued_eq hstd items sub 0] at hn
  rw [List.drop_eq_nil_of_le hn, flaggedEntries_eq_nil] at hreporting
  intro item' hitem'
  obtain ⟨i, hi'⟩ := List.mem_iff_getElem?.mp hitem'
  obtain ⟨item, hi, hitem⟩ := exists_getElem?_of_forall₂ hsettled hi'
  have hmem := List.mem_of_getElem? hi
  by_cases hreportable : item.reportable b sub = true
  · have hzero := hreporting i item' hi' (by rw [List.getElem?_map, hi, Option.map_some, hreportable])
    obtain ⟨hin, hmode, hqueued⟩ := (reportable_eq hstd item sub).mp hreportable
    have hcount : 0 < item.queueCount.toNat := hqueued.elim (hpend item hmem hin hmode) id
    obtain rfl | ⟨-, hpending⟩ := hitem
    · omega
    · rw [← Bool.not_eq_true, reportable_eq hstd]
      rintro ⟨-, -, hpending' | hcount'⟩
      · exact absurd (hpending hpending') (by omega)
      · omega
  · have hsame : item' = item ∨ item.reportsByTrigger b items sub = true := by
      by_cases htrigger : item.reportsByTrigger b items sub = true
      · exact .inr htrigger
      · exact .inl (Option.some.inj (hi'.symm.trans (hothers i item hi (by simpa using hreportable)
          (by simpa using htrigger))))
    obtain rfl | htrigger := hsame
    · simpa using hreportable
    · -- a triggered item is in Sampling mode, before and after
      have hkey : item'.key = item.key := by
        obtain rfl | ⟨hkey, -⟩ := hitem
        · rfl
        · exact hkey
      have hmode : item'.monitoringMode = item.monitoringMode := congrArg ItemKey.monitoringMode hkey
      simp only [MonitoredItem.reportsByTrigger, Bool.and_eq_true, decide_eq_true_eq] at htrigger
      rw [← Bool.not_eq_true, reportable_eq hstd, hmode, htrigger.1.1.2]
      exact fun hreports => absurd hreports.2.1 (by decide)

theorem remaining_iff (hpos : 0 < sub.maxNotificationsPerPublish.toNat) :
    0 < (countReportableItems b
      (clearReportedItems b items sub sub.maxNotificationsPerPublish.toNat) sub).1 ↔
        sub.maxNotificationsPerPublish.toNat < reportingQueued items sub := by
  generalize hn : sub.maxNotificationsPerPublish.toNat = n
  rw [hn] at hpos
  have hcount := congrArg Prod.fst (countReportableItems_eq hstd (clearReportedItems b items sub n) sub)
  dsimp only at hcount
  rw [hcount, hn, capped, if_neg (by omega)]
  constructor
  · intro hleft
    by_contra hle
    have hnone := clearReportedItems_none hstd h hpend (Nat.not_lt.mp hle)
    have hempty :
        reportEntries b sub (clearReportedItems b items sub n) (clearReportedItems b items sub n) =
          [] := by
      rw [reportEntries, List.append_eq_nil_iff, flaggedEntries_eq_nil, flaggedEntries_eq_nil]
      constructor
      · intro i item hi hflag
        rw [List.getElem?_map, hi, Option.map_some, hnone item (List.mem_of_getElem? hi)] at hflag
        cases hflag
      · intro i item hi hflag
        rw [List.getElem?_map, hi, Option.map_some] at hflag
        have htrigger := Option.some.inj hflag
        simp only [MonitoredItem.reportsByTrigger, Bool.and_eq_true, List.any_eq_true] at htrigger
        obtain ⟨-, trigger, hmem, hreports, -⟩ := htrigger
        rw [hnone trigger hmem] at hreports
        cases hreports
    rw [hempty, List.length_nil, Nat.zero_min] at hleft
    omega
  · intro hlt
    obtain ⟨hreporting, -, -⟩ := clearReportedItems_parts hstd sub h n
    have hne :
        flaggedEntries b 0 ((clearReportedItems b items sub n).zip
          (items.map (fun i => i.reportable b sub))) ≠ [] := by
      rw [hreporting, ← List.length_pos_iff, List.length_drop, ← reportingQueued_eq hstd]
      omega
    have hne' :
        reportEntries b sub (clearReportedItems b items sub n) (clearReportedItems b items sub n) ≠
        [] := by
      intro hempty
      rw [reportEntries, List.append_eq_nil_iff, flaggedEntries_eq_nil] at hempty
      apply hne
      rw [flaggedEntries_eq_nil]
      intro i item' hi' hflag
      by_contra hzero
      obtain ⟨item, hi, hitem⟩ :=
        exists_getElem?_of_forall₂ (clearReportedItems_steps (b := b) sub items sub n) hi'
      rw [List.getElem?_map, hi, Option.map_some] at hflag
      obtain ⟨hin, hmode, -⟩ := (reportable_eq hstd item sub).mp (Option.some.inj hflag)
      have hreports : item'.reportable b sub = true := by
        rw [reportable_eq hstd, inSubscription_of_key hitem.works.key,
          show item'.monitoringMode = item.monitoringMode from
          congrArg ItemKey.monitoringMode hitem.works.key]
        exact ⟨hin, hmode, .inr (Nat.pos_of_ne_zero hzero)⟩
      exact hzero (hempty.1 i item' hi' (by rw [List.getElem?_map, hi', Option.map_some, hreports]))
    have hlen := List.length_pos_iff.mpr hne'
    omega

end

theorem prepareReport_enabled (hstd : b.subscriptionsStandard = true)
    (henabled : sub.publishingEnabled = true) (items : ItemList W) (w : W) :
    ((prepareReport b sub items).run w).1 =
      let prepared := preparedItems b sub items (if sub.resendDataPending then some w else none)
      (prepared, countReportableItems b prepared { sub with resendDataPending := false }) := by
  simp only [prepareReport, henabled, hstd, Bool.not_true, Bool.false_eq_true, if_false,
    if_true, Bool.true_and]
  by_cases hresend : sub.resendDataPending = true
  · simp only [if_pos hresend]
    rfl
  · simp only [if_neg hresend]
    rfl

/-- A message that announces more is followed by some exactly when the Reporting items alone had more
queued than fits into a message. -/
theorem more_notifications_remain_iff (hstd : b.subscriptionsStandard = true) (ops : List (EngineOp W))
    (x : TurnInput W) {sub : Subscription} {p : Publication}
    (hsub : (runOps b ops (.init b)).subscriptions[x.index]? = some sub)
    (hp : (turn b x (runOps b ops (.init b))).1 = some p) (hmore : p.moreNotifications = true) :
    0 < (countReportableItems b (turn b x (runOps b ops (.init b))).2.items.monitoredItems sub).1 ↔
      sub.maxNotificationsPerPublish.toNat < reportingQueued (preparedItems b sub
        (runOps b ops (.init b)).items.monitoredItems (if sub.resendDataPending then
          some x.world else none)) sub := by
  have hqueued := runOps_wellQueued (b := b) ops (s := .init b) init_consistent init_wellQueued
  generalize runOps b ops (.init b) = s at hsub hp hqueued ⊢
  have hstep := turn_step b x s
  generalize turn b x s = q at hp hstep
  cases hstep with
  | idle => cases hp
  | quiet => cases hp
  | keepAlive sub' prepared items n r queue p' next counter found inUse prepare nothing dequeued built =>
    obtain rfl := Option.some.inj hp
    have hflag := (buildPublish_of built).moreNotifications
    rw [hmore, Bool.and_false, Bool.false_and] at hflag
    cases hflag
  | data sub' prepared items n r queue p' next found inUse prepare something dequeued built =>
    obtain rfl := Option.some.inj hp
    obtain rfl := Option.some.inj (hsub.symm.trans found)
    have hflag := (buildPublish_of built).moreNotifications
    obtain ⟨more, resend, hprepared⟩ := prepareReport_sub (b := b) sub s.items.monitoredItems x.world
    rw [prepare] at hprepared
    obtain rfl : prepared = _ := hprepared
    have henabled : sub.publishingEnabled = true := by
      simp only [Subscription.hasData, Bool.and_eq_true] at something
      exact something.1
    rw [prepareReport_enabled hstd henabled] at prepare
    obtain ⟨rfl, hcount⟩ := Prod.mk.inj prepare
    rw [countReportableItems_eq hstd] at hcount
    obtain ⟨hn, hprepared⟩ := Prod.mk.inj hcount
    have hmore' :
        decide (sub.maxNotificationsPerPublish.toNat ≠ 0 ∧ sub.maxNotificationsPerPublish.toNat < _) =
          more :=
      congrArg Subscription.moreNotifications hprepared
    rw [hmore, hstd, Bool.true_and, Bool.true_and] at hflag
    have hover := of_decide_eq_true (hmore'.trans hflag.symm)
    have hlimit : n = sub.maxNotificationsPerPublish.toNat := by
      rw [← hn, capped]
      dsimp only
      rw [if_neg hover.1]
      omega
    subst hlimit
    have hworks := preparedItems_works (b := b) sub s.items.monitoredItems
      (if sub.resendDataPending then some x.world else none)
    exact remaining_iff hstd (wellQueued_of_works hworks hqueued) (preparedItems_pending hstd hqueued _)
      (Nat.pos_of_ne_zero hover.1)

theorem twoReporting_turn : (after twoReporting).subscriptions[firstTurn.index]? =
      some (first (after twoReporting)) ∧ (turn build firstTurn (after twoReporting)).1 =
      some ((turn build firstTurn (after twoReporting)).1.getD ⟨[], []⟩) ∧ ((turn build firstTurn
      (after twoReporting)).1.getD ⟨[], []⟩).moreNotifications = true := by
  decide +kernel

theorem more_notifications_remain_two_reporting : 0 < (countReportableItems build (turn build firstTurn
      (after twoReporting)).2.items.monitoredItems (first (after twoReporting))).1 := by
  obtain ⟨hsub, hp, hmore⟩ := twoReporting_turn
  rw [more_notifications_remain_iff rfl twoReporting firstTurn hsub hp hmore]
  decide +kernel

/-- An item in Reporting mode that triggers one in Sampling mode, and one notification for each
message. -/
def triggeredSample : List (EngineOp Unit) :=
  [subscribe 1, monitor 2 10 5, monitor 1 11 6, .addTriggerLink 1 1 2,
    park 7]

theorem announced_notification_lost :
    let s := after triggeredSample
    (turn build firstTurn s).1.map Publication.moreNotifications = some true ∧
      (countReportableItems build
        (turn build firstTurn s).2.items.monitoredItems (first s)).1 = 0 := by
  decide +kernel

end More

section Numbers

/-- A message in the log carries the number of the data messages of its subscription before it. -/
theorem published_number {ops : List (EngineOp W)} {sent rest : List EngineEvent}
    {p : Publication} {id : UInt32} (h : eventLog b ops (.init b) = sent ++ .published p :: rest)
    (hid : p.subscriptionId = id.toNat) :
    p.sequenceNumber = messageNumber (messageStream b id sent).messages.length := by
  obtain ⟨before, x, rfl, hp⟩ := exists_turn_of_published h
  exact (turn_follows x (runOps_consistent before init_consistent) (runOps_follows before)).2 p hp id hid

theorem messages_numbers {events : List EngineEvent} {id : UInt32}
    (h : ∀ sent p rest, events = sent ++ .published p :: rest → p.subscriptionId = id.toNat →
      p.sequenceNumber = messageNumber (messageStream b id sent).messages.length) :
    (messageStream b id events).messages.map Publication.sequenceNumber =
      (List.range (messageStream b id events).messages.length).map messageNumber := by
  induction events using List.reverseRecOn with
  | nil => rfl
  | append_singleton events e ih =>
    have hbefore := ih (fun sent p rest hsplit => h sent p (rest ++ [e]) (by rw [hsplit]; simp))
    rw [messageStream_concat]
    cases e with
    | created id' =>
      rw [MessageStream.step]
      split
      · rfl
      · exact hbefore
    | published p =>
      by_cases hdata : p.dataOf id = true
      · rw [MessageStream.step_data hdata, List.map_append, hbefore, List.length_append,
          List.length_singleton, List.range_succ, List.map_append]
        simp only [Publication.dataOf, Bool.and_eq_true, decide_eq_true_eq] at hdata
        rw [List.map_singleton, List.map_singleton, h events p [] rfl hdata.1]
      · rw [MessageStream.step, if_neg hdata]
        exact hbefore
    | acknowledged id' number =>
      rw [MessageStream.step]
      split
      · exact hbefore
      · exact hbefore

theorem turn_none_numbers {x : TurnInput W} {s : Subscriptions W} (h : (turn b x s).1 = none) :
    (turn b x s).2.subscriptions.map Subscription.currentSequenceNumber =
      s.subscriptions.map Subscription.currentSequenceNumber := by
  have hstep := turn_step b x s
  generalize turn b x s = q at h hstep
  cases hstep with
  | idle => rfl
  | quiet sub prepared items n queue keepAlive number next found inUse prepare numbered =>
    exact map_set_eq found (congrArg SubscriptionLedger.number (turned_ledger numbered))
  | keepAlive => cases h
  | data => cases h

/-- The data messages of a subscription are numbered one after another, a keep-alive carries the number
of the next one, and a turn that emits nothing takes no number. -/
theorem messages_numbered_consecutively (b : Build) (ops : List (EngineOp W)) (id : UInt32) :
    let log := eventLog b ops (.init b)
    ((messageStream b id log).messages.map Publication.sequenceNumber =
        (List.range (messageStream b id log).messages.length).map messageNumber) ∧
      (∀ sent p rest, log = sent ++ .published p :: rest → p.subscriptionId = id.toNat →
        p.notifications = 0 →
        p.sequenceNumber = messageNumber (messageStream b id sent).messages.length) ∧
      ∀ x, (turn b x (runOps b ops (.init b))).1 = none →
        (turn b x (runOps b ops (.init b))).2.subscriptions.map Subscription.currentSequenceNumber =
          (runOps b ops (.init b)).subscriptions.map Subscription.currentSequenceNumber := by
  intro log
  refine ⟨messages_numbers (fun sent p rest => published_number), fun sent p rest hsplit hid _ => ?_,
    fun x => turn_none_numbers⟩
  exact published_number hsplit hid

namespace EngineScript

def firstMessage : List (EngineOp Unit) := twoReporting ++ [tick 100]

def threeMessages : List (EngineOp Unit) := firstMessage ++ [park 8, tick 200, park 9, tick 300]

def lastPublished (ops : List (EngineOp Unit)) : Publication :=
  match (eventLog build ops (.init build)).getLastD (.created 0) with
  | .published p => p
  | _ => ⟨[], []⟩

end EngineScript

theorem messages_numbered_three :
    let log := eventLog build threeMessages (.init build)
    let last := log.getLastD (.created 0)
    (messageStream build 1 log).messages.map Publication.sequenceNumber = [1, 2] ∧
      ∃ p, last = .published p ∧ p.notifications = 0 ∧ p.sequenceNumber = 3 := by
  have hmessages := (messages_numbered_consecutively build threeMessages 1).1
  have hcount : (messageStream build 1 (eventLog build threeMessages
      (.init build))).messages.length = 2 := by
    decide +kernel
  rw [hcount] at hmessages
  refine ⟨hmessages, lastPublished threeMessages, by decide +kernel, by decide +kernel, ?_⟩
  have hkeepAlive := (messages_numbered_consecutively build threeMessages 1).2.1
    (eventLog build threeMessages (.init build)).dropLast
    (lastPublished threeMessages) [] (by decide +kernel) (by decide +kernel)
    (by decide +kernel)
  rw [hkeepAlive]
  decide +kernel

end Numbers

section Retransmission

variable {sessionId id n : UInt32}

theorem subscriptionRepublish_eq_ok {subs : List Subscription} {bytes : Bytes} :
    subscriptionRepublish subs sessionId id n = .ok bytes ↔
      ∃ i sub, subscriptionFind subs sessionId id = some i ∧ subs[i]? = some sub ∧
        sub.retransmit = ⟨true, n, bytes⟩ := by
  unfold subscriptionRepublish
  cases hfind : subscriptionFind subs sessionId id with
  | none => simp
  | some i =>
    obtain ⟨sub, hi, -⟩ := subscriptionFind_eq_some hfind
    obtain ⟨valid, number, message, hslot⟩ :
        ∃ valid number message, sub.retransmit = ⟨valid, number, message⟩ :=
      ⟨_, _, _, rfl⟩
    rw [Option.bind_some, hi]
    dsimp only
    rw [hslot]
    constructor
    · intro hok
      split at hok
      · rename_i hnamed
        obtain ⟨rfl, rfl⟩ := hnamed
        exact ⟨i, sub, rfl, hi, Except.ok.inj hok ▸ hslot⟩
      · cases hok
    · rintro ⟨j, sub', hj, hsub', hslot'⟩
      obtain rfl := Option.some.inj hj
      obtain rfl := Option.some.inj (hi.symm.trans hsub')
      cases hslot.symm.trans hslot'
      exact if_pos ⟨rfl, rfl⟩

/-- Republish returns the message last sent under the number, which was not acknowledged since; and a
message that fits the slot can be sent again until it is acknowledged or the next one is sent. -/
theorem republish_returns_last_message (b : Build) (ops : List (EngineOp W)) (sessionId id n : UInt32) :
    let log := eventLog b ops (.init b)
    let subs := (runOps b ops (.init b)).subscriptions
    (∀ bytes, subscriptionRepublish subs sessionId id n = .ok bytes →
      ∃ sent p rest, log = sent ++ .published p :: rest ∧ p.subscriptionId = id.toNat ∧
      p.sequenceNumber = n.toNat ∧
        p.message = bytes ∧ (∃ tail, p.response.drop 37 = p.message ++ tail) ∧
        .acknowledged id n ∉ rest ∧
        ∀ q, .published q ∈ rest → q.subscriptionId = id.toNat → q.sequenceNumber ≠ n.toNat) ∧
      ∀ sent p rest, log = sent ++ .published p :: rest → p.subscriptionId = id.toNat →
        p.sequenceNumber = n.toNat → p.notifications ≠ 0 → p.message.length ≤ b.retransmitBytes →
        (∀ e ∈ rest, ¬ e.Settles id n.toNat) →
        (subscriptionFind subs sessionId id).isSome = true →
          subscriptionRepublish subs sessionId id n = .ok p.message := by
  intro log subs
  have hfollows : Subscriptions.Follows b log (runOps b ops (.init b)) := runOps_follows ops
  constructor
  · intro bytes hok
    obtain ⟨i, sub, hfind, hi, hslot⟩ := subscriptionRepublish_eq_ok.mp hok
    obtain ⟨sub', hi', hin, -, rfl⟩ := subscriptionFind_eq_some hfind
    obtain rfl := Option.some.inj (hi.symm.trans hi')
    have hretained := (hfollows sub (List.mem_of_getElem? hi) hin).retained
    rw [hslot, if_pos rfl] at hretained
    obtain ⟨p, hp, heq⟩ := Option.map_eq_some_iff.mp hretained.symm
    obtain ⟨hnumber, hmessage⟩ := Prod.mk.inj heq
    obtain ⟨sent, rest, hsplit, hdata, hshort, hquiet⟩ := exists_published_of_retained hp
    have hid : p.subscriptionId = sub.subscriptionId.toNat := by
      simp only [Publication.dataOf, Bool.and_eq_true, decide_eq_true_eq] at hdata
      exact hdata.1
    refine ⟨sent, p, rest, hsplit, hid, hnumber, hmessage, ?_, fun hack => ?_, fun q hq hqid => ?_⟩
    · obtain ⟨before, x, -, hturn⟩ := exists_turn_of_published hsplit
      exact turn_message hturn
    · exact hquiet _ hack ⟨rfl, hnumber.symm⟩
    · -- a keep-alive carries the number after that of the message
      obtain ⟨mid, rest', rfl⟩ := List.append_of_mem hq
      have hmid : ∀ e ∈ mid, ¬ e.Settles sub.subscriptionId p.sequenceNumber :=
        fun e he => hquiet e (List.mem_append_left _ he)
      have hlater : log = (sent ++ .published p :: mid) ++ .published q :: rest' := by
        rw [hsplit]
        simp
      rw [published_number hlater hqid, messageStream_quiet hdata hshort hmid, ← hnumber,
        published_number hsplit hid, List.length_append, List.length_singleton]
      exact messageNumber_succ_ne _
  · intro sent p rest hsplit hid hnumber hnotifications hshort hquiet hfound
    obtain ⟨i, hfind⟩ := Option.isSome_iff_exists.mp hfound
    obtain ⟨sub, hi, hin, -, rfl⟩ := subscriptionFind_eq_some hfind
    have hdata : p.dataOf sub.subscriptionId = true := by
      simp [Publication.dataOf, hid, hnotifications]
    have hretained := (hfollows sub (List.mem_of_getElem? hi) hin).retained
    rw [hsplit, messageStream_quiet hdata hshort (hnumber ▸ hquiet), Option.map_some] at hretained
    refine subscriptionRepublish_eq_ok.mpr ⟨i, sub, hfind, hi, ?_⟩
    generalize sub.retransmit = slot at hretained
    obtain ⟨valid, number, message⟩ := slot
    cases valid with
    | false => cases hretained
    | true =>
      obtain ⟨hnumber', rfl⟩ := Prod.mk.inj (Option.some.inj hretained)
      obtain rfl : number = n := UInt32.toNat_inj.mp (hnumber'.trans hnumber)
      rfl

theorem republish_returns_first_message :
    subscriptionRepublish (after firstMessage).subscriptions 1 1 1 =
      .ok (lastPublished firstMessage).message := by
  apply (republish_returns_last_message build firstMessage 1 1 1).2
    (eventLog build firstMessage (.init build)).dropLast _ []
  · decide +kernel
  · decide +kernel
  · decide +kernel
  · decide +kernel
  · decide +kernel
  · exact nofun
  · decide +kernel

end Retransmission

end MicroOpcua
