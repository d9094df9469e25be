import MicroOpcua.Core.Script
import MicroOpcua.Services.MessageLog

namespace MicroOpcua

open Lib.Table

variable {W : Type} {b : Build} {s t : Subscriptions W} {subs subs' : List Subscription}
    {sub sub' : Subscription}

section Relation

def Subscription.withEvents (sub : Subscription) (q : EventQueue) : Subscription :=
  { sub with eventQueue := q }

def Quieter (sub sub' : Subscription) : Prop :=
  ∃ q, sub' = sub.withEvents q ∧ (sub.eventQueue.count = 0 → q.count = 0)

theorem Quieter.refl (sub : Subscription) : Quieter sub sub := ⟨sub.eventQueue, rfl, id⟩

theorem Quieter.map {f : Subscription → Subscription} (h : Quieter sub sub')
    (hf : ∀ sub q, f (sub.withEvents q) = (f sub).withEvents q)
    (hqueue : ∀ sub, (f sub).eventQueue = sub.eventQueue) : Quieter (f sub) (f sub') := by
  obtain ⟨q, rfl, hempty⟩ := h
  exact ⟨q, hf sub q, fun hcount => hempty (hqueue sub ▸ hcount)⟩

/-- `t` is `s` but for event queues, and no event waits in `t` where none waits in `s`. -/
structure QuieterTables (s t : Subscriptions W) : Prop where
  subscriptions : List.Forall₂ Quieter s.subscriptions t.subscriptions
  rest : t = { s with subscriptions := t.subscriptions }

theorem QuieterTables.refl (s : Subscriptions W) : QuieterTables s s :=
  ⟨List.forall₂_same.mpr (fun sub _ => .refl sub), rfl⟩

theorem forall₂_modify {α : Type} {R : α → α → Prop} {f : α → α} (hf : ∀ x y, R x y → R (f x) (f y))
    {xs ys : List α} (h : List.Forall₂ R xs ys) (i : Nat) :
    List.Forall₂ R (xs.modify i f) (ys.modify i f) := by
  induction h generalizing i with
  | nil => simp
  | cons hxy hrest ih =>
    cases i with
    | zero => exact .cons (hf _ _ hxy) hrest
    | succ i => exact .cons hxy (ih i)

theorem forall₂_set_both {α : Type} {R : α → α → Prop} {x y : α} (hxy : R x y) {xs ys : List α}
    (h : List.Forall₂ R xs ys) (i : Nat) : List.Forall₂ R (xs.set i x) (ys.set i y) := by
  induction h generalizing i with
  | nil => simp
  | cons hfirst hrest ih =>
    cases i with
    | zero => exact .cons hxy hrest
    | succ i => exact .cons hfirst (ih i)

theorem keys_of_quieter (h : List.Forall₂ Quieter subs subs') :
    subs'.map Subscription.key = subs.map Subscription.key := by
  apply map_eq_of_forall₂ h
  rintro sub _ ⟨q, rfl, -⟩
  rfl

section

variable (h : subs'.map Subscription.key = subs.map Subscription.key)

include h

theorem findIdx?_of_keys {p : SubscriptionKey → Bool} :
    subs'.findIdx? (p ·.key) = subs.findIdx? (p ·.key) := by
  have hmap := congrArg (List.findIdx? p) h
  rw [List.findIdx?_map, List.findIdx?_map] at hmap
  exact hmap

theorem subscriptionFind_of_keys (sessionId subId : UInt32) :
    subscriptionFind subs' sessionId subId = subscriptionFind subs sessionId subId :=
  findIdx?_of_keys
    (p := fun k => k.inUse && decide (k.sessionId = sessionId) && decide (k.subscriptionId = subId)) h

theorem subscriptionIdInUse_of_keys : subscriptionIdInUse subs' = subscriptionIdInUse subs := by
  funext id
  have hmap :=
    congrArg (List.any · (fun k : SubscriptionKey => k.inUse && decide (k.subscriptionId = id))) h
  simp only [List.any_map] at hmap
  exact hmap

end

end Relation

section Operations

theorem subscriptionUpdate_quieter {f : Subscription → Subscription}
    (hf : ∀ sub q, f (sub.withEvents q) = (f sub).withEvents q)
    (hqueue : ∀ sub, (f sub).eventQueue = sub.eventQueue) (h : List.Forall₂ Quieter subs subs')
    (sessionId subId : UInt32) : List.Forall₂ Quieter (subscriptionUpdate subs sessionId subId f).2
      (subscriptionUpdate subs' sessionId subId f).2 := by
  unfold subscriptionUpdate
  rw [subscriptionFind_of_keys (keys_of_quieter h)]
  split
  · exact h
  · exact forall₂_modify (fun _ _ hxy => hxy.map hf hqueue) h _

theorem subscriptionAcknowledge_quieter (h : List.Forall₂ Quieter subs subs')
    (sessionId subId number : UInt32) :
    List.Forall₂ Quieter (subscriptionAcknowledge subs sessionId subId number).2
      (subscriptionAcknowledge subs' sessionId subId number).2 := by
  have hslots : subs'.map Subscription.retransmit = subs.map Subscription.retransmit := by
    apply map_eq_of_forall₂ h
    rintro sub _ ⟨q, rfl, -⟩
    rfl
  have hretained (i : Nat) :
      subs'[i]?.map Subscription.retransmit = subs[i]?.map Subscription.retransmit := by
    rw [← List.getElem?_map, ← List.getElem?_map, hslots]
  have hany (i : Nat) :
    subs'[i]?.any (fun s => s.retransmit.valid && s.retransmit.sequenceNumber = number) =
      subs[i]?.any (fun s => s.retransmit.valid && s.retransmit.sequenceNumber = number) := by
    have hmap :=
      congrArg (Option.any (fun r : Retransmit => r.valid && decide (r.sequenceNumber = number)))
        (hretained i)
    rw [Option.any_map, Option.any_map] at hmap
    exact hmap
  unfold subscriptionAcknowledge
  rw [subscriptionFind_of_keys (keys_of_quieter h)]
  split
  · exact h
  · rename_i i _
    rw [hany i]
    split
    · refine forall₂_modify ?_ h i
      rintro sub _ ⟨q, rfl, hempty⟩
      exact ⟨q, rfl, hempty⟩
    · exact h

theorem subscriptionCreate_quieter (h : List.Forall₂ Quieter subs subs') (next sessionId : UInt32)
    (p : SubscriptionParameters) (enabled : Bool) (nowMs : UInt64) :
    List.Forall₂ Quieter (subscriptionCreate subs next sessionId p enabled nowMs).2.1
        (subscriptionCreate subs' next sessionId p enabled nowMs).2.1 ∧
      (subscriptionCreate subs' next sessionId p enabled nowMs).2.2 =
        (subscriptionCreate subs next sessionId p enabled nowMs).2.2 := by
  have hkeys := keys_of_quieter h
  have hlength : subs'.length = subs.length := h.length_eq.symm
  have hfree : subs'.findIdx? (fun s => !s.inUse) = subs.findIdx? (fun s => !s.inUse) :=
    findIdx?_of_keys (p := fun k => !k.inUse) hkeys
  unfold subscriptionCreate
  rw [hfree, subscriptionIdInUse_of_keys hkeys, hlength]
  split
  · exact ⟨h, rfl⟩
  · dsimp only
    split
    · exact ⟨h, rfl⟩
    · exact ⟨forall₂_set_both (.refl _) h _, rfl⟩

theorem EventQueue.push_count_ne (q : EventQueue) (e : EventNotification) : (q.push e).count ≠ 0 :=
  Nat.succ_ne_zero _

theorem triggerEvent_quieter (h : QuieterTables s t) (e : EventNotification) :
    QuieterTables (triggerEvent s e) t := by
  refine ⟨?_, h.rest⟩
  refine List.forall₂_map_left_iff.mpr (h.subscriptions.imp ?_)
  rintro sub _ ⟨q, rfl, hempty⟩
  by_cases hin : sub.inUse = true
  · rw [if_pos hin]
    exact ⟨q, rfl, fun hcount => absurd hcount (EventQueue.push_count_ne _ e)⟩
  · rw [if_neg hin]
    exact ⟨q, rfl, hempty⟩

end Operations

section Turn

variable {x : TurnInput W} {q : EventQueue} {items : ItemList W} {r : PublishRequest}

def Subscription.Eventless (sub : Subscription) : Prop :=
  sub.publishingEnabled = true → sub.eventQueue.count = 0

theorem countReportableItems_withEvents (sub : Subscription) :
    countReportableItems b items (sub.withEvents q) =
      ((countReportableItems b items sub).1, (countReportableItems b items sub).2.withEvents q) := by
  unfold countReportableItems
  by_cases hstandard : b.subscriptionsStandard = true
  · rw [if_pos hstandard, if_pos hstandard]
    have hreportable : (fun i : MonitoredItem W => i.reportable b (sub.withEvents q)) = fun i =>
      i.reportable b sub := rfl
    have htriggered : (fun i : MonitoredItem W => i.reportsByTrigger b items (sub.withEvents q)) =
        fun i => i.reportsByTrigger b items sub := rfl
    have hlimit : (sub.withEvents q).maxNotificationsPerPublish = sub.maxNotificationsPerPublish := rfl
    rw [hreportable, htriggered, hlimit]
    split
    · rfl
    · rfl
  · rw [if_neg hstandard, if_neg hstandard]
    rfl

theorem enqueueResendData_withEvents :
    enqueueResendData b (sub.withEvents q) items = enqueueResendData b sub items := by
  induction items with
  | nil => rfl
  | cons item items ih =>
    simp only [enqueueResendData, ih]
    rfl

theorem prepareReport_withEvents (sub : Subscription) (items : ItemList W) (w : W) :
    ((prepareReport b (sub.withEvents q) items).run w).1 =
      (((prepareReport b sub items).run w).1.1, ((prepareReport b sub items).run w).1.2.1,
        ((prepareReport b sub items).run w).1.2.2.withEvents q) := by
  have hcount (items : ItemList W) :
      (items, countReportableItems b items { sub.withEvents q with resendDataPending := false }) =
        (items, (countReportableItems b items { sub with resendDataPending := false }).1,
          (countReportableItems b items { sub with resendDataPending := false }).2.withEvents q) :=
    congrArg _ (countReportableItems_withEvents { sub with resendDataPending := false })
  have henabled : (sub.withEvents q).publishingEnabled = sub.publishingEnabled := rfl
  have hresend : (sub.withEvents q).resendDataPending = sub.resendDataPending := rfl
  unfold prepareReport
  simp only [henabled, hresend, enqueueResendData_withEvents]
  by_cases hdisabled : (!sub.publishingEnabled) = true
  · rw [if_pos hdisabled, if_pos hdisabled]
    rfl
  rw [if_neg hdisabled, if_neg hdisabled]
  cases b.subscriptionsStandard with
  | false => exact congrArg _ (countReportableItems_withEvents sub)
  | true =>
    cases sub.resendDataPending with
    | false => exact hcount _
    | true => exact hcount ((enqueueResendData b sub (prepareReportableQueues b items sub)).run w).1

variable {n : Nat}

theorem buildPublish_withEvents (sub : Subscription) {includeData : Bool} {publishTime : UInt64}
    (hs : includeData = true → sub.eventQueue.count = 0) (hq : includeData = true → q.count = 0) :
    buildPublish b items (sub.withEvents q) r includeData n publishTime =
      buildPublish b items sub r includeData n publishTime := by
  have hmessage :
    (writeNotificationMessage b items (sub.withEvents q) r (sub.withEvents q).currentSequenceNumber
      includeData n publishTime : WriteM publishBodyBytes (Nat × Nat)) =
      writeNotificationMessage b items sub r sub.currentSequenceNumber includeData n publishTime := by
    have hlist :
      (writeDataChangeNotification b items (sub.withEvents q) n : WriteM publishBodyBytes Unit) =
        writeDataChangeNotification b items sub n := rfl
    cases includeData with
    | false => rfl
    | true =>
      have hwith : (b.events && decide (sub.eventQueue.count > 0)) = false := by simp [hs rfl]
      have hwith' : (b.events && decide ((sub.withEvents q).eventQueue.count > 0)) = false := by
        simp [Subscription.withEvents, hq rfl]
      simp only [writeNotificationMessage, hwith, hwith', hlist]
      rfl
  simp only [buildPublish, buildPublishResponse, hmessage]

theorem reported_withEvents (sub : Subscription) (message : Bytes) (hs : sub.eventQueue.count = 0)
    (hq : q.count = 0) :
    (sub.withEvents q).reported b message = (sub.reported b message).withEvents q := by
  have hevents : (b.events && decide (sub.eventQueue.count > 0)) = false := by simp [hs]
  have hevents' : (b.events && decide ((sub.withEvents q).eventQueue.count > 0)) = false := by
    simp [Subscription.withEvents, hq]
  simp only [Subscription.reported, hevents, hevents', Subscription.storeRetransmit]
  split
  · rfl
  · rfl

theorem turnAnswer_withEvents {includeData : Bool} {sent : Sent W} {subs : List Subscription}
    (hbuilt : ∀ r,
      x.response b { s with subscriptions := subs } (sub.numbered.withEvents q) r includeData n =
        x.response b s sub.numbered r includeData n) (hsent : ∀ message queue,
      sent (sub.numbered.withEvents q) message { s with subscriptions := subs, publishQueue := queue } =
        ((sent sub.numbered message { s with publishQueue := queue }).1.withEvents q,
          { (sent sub.numbered message { s with publishQueue := queue }).2 with
            subscriptions := subs })) :
    turnAnswer b x includeData n sent (sub.withEvents q) { s with subscriptions := subs } =
      ((turnAnswer b x includeData n sent sub s).1,
        (turnAnswer b x includeData n sent sub s).2.1.withEvents q,
        { (turnAnswer b x includeData n sent sub s).2.2 with subscriptions := subs }) := by
  obtain ⟨sub', hsub⟩ : ∃ sub', sub' = sub.withEvents q := ⟨_, rfl⟩
  obtain ⟨t, ht⟩ : ∃ t : Subscriptions W, t = { s with subscriptions := subs } := ⟨_, rfl⟩
  have hnumbered : sub'.numbered = sub.numbered.withEvents q := by
    rw [hsub]
    rfl
  have hqueue : publishRequestDequeue t.publishQueue sub'.sessionId =
      publishRequestDequeue s.publishQueue sub.sessionId := by
    rw [hsub, ht]
    rfl
  rw [← hsub, ← ht]
  cases hr : publishRequestDequeue s.publishQueue sub.sessionId with
  | none => rw [turnAnswer_none hr, turnAnswer_none (hqueue.trans hr), hsub, ht]
  | some p =>
    obtain ⟨r, queue⟩ := p
    have hbuilt :
        x.response b t sub'.numbered r includeData n = x.response b s sub.numbered r includeData n := by
      rw [hnumbered, ht]
      exact hbuilt r
    by_cases haccepted : x.accepted = true ∧ ∃ p, x.response b s sub.numbered r includeData n = .ok p
    · obtain ⟨haccepted, ⟨response, message⟩, hok⟩ := haccepted
      rw [turnAnswer_accepted hr hok haccepted,
        turnAnswer_accepted (hqueue.trans hr) (hbuilt.trans hok) haccepted, hnumbered, ht]
      exact congrArg (Prod.mk _) (hsent message queue)
    · have hrefused (p : Bytes × Bytes) (hp : x.response b s sub.numbered r includeData n = .ok p) :
          x.accepted = false := by
        cases hx : x.accepted with
        | false => rfl
        | true => exact absurd ⟨hx, p, hp⟩ haccepted
      rw [turnAnswer_refused hr hrefused,
        turnAnswer_refused (hqueue.trans hr) (fun p hp => hrefused p (hbuilt.symm.trans hp)),
        hnumbered, ht]

theorem turnData_withEvents (hs : sub.eventQueue.count = 0) (hq : q.count = 0)
    (subs : List Subscription) : turnData b x (sub.withEvents q) n { s with subscriptions := subs } =
      ((turnData b x sub n s).1, (turnData b x sub n s).2.1.withEvents q,
        { (turnData b x sub n s).2.2 with subscriptions := subs }) := by
  refine turnAnswer_withEvents (fun r =>
    buildPublish_withEvents sub.numbered (fun _ => hs) (fun _ => hq)) ?_
  intro message queue
  rw [sentData, reported_withEvents sub.numbered message hs hq]
  rfl

theorem turnKeepAlive_withEvents (subs : List Subscription) :
    turnKeepAlive b x (sub.withEvents q) { s with subscriptions := subs } =
      ((turnKeepAlive b x sub s).1, (turnKeepAlive b x sub s).2.1.withEvents q,
        { (turnKeepAlive b x sub s).2.2 with subscriptions := subs }) := by
  have hcounted : (sub.withEvents q).counted = sub.counted.withEvents q := rfl
  by_cases hwaits : sub.counted.keepAliveCounter < sub.maxKeepAliveCount
  · have hwaits' : (sub.withEvents q).counted.keepAliveCounter < sub.maxKeepAliveCount := hwaits
    rw [turnKeepAlive_waits hwaits, turnKeepAlive_waits hwaits', hcounted]
  · have hdue : ¬ (sub.withEvents q).counted.keepAliveCounter < sub.maxKeepAliveCount := hwaits
    rw [turnKeepAlive_due hwaits, turnKeepAlive_due hdue, hcounted]
    refine turnAnswer_withEvents (fun r => ?_) (fun _ _ => rfl)
    exact buildPublish_withEvents _ (fun h => absurd h Bool.false_ne_true) (fun h =>
      absurd h Bool.false_ne_true)

theorem advancePublishTimer_withEvents (nowMs : UInt64) :
    (sub.withEvents q).advancePublishTimer nowMs = (sub.advancePublishTimer nowMs).withEvents q := by
  have hinterval : (sub.withEvents q).publishingIntervalMs = sub.publishingIntervalMs := rfl
  simp only [Subscription.advancePublishTimer, hinterval]
  by_cases hpos : 0 < sub.publishingIntervalMs.toUInt64
  · rw [dif_pos hpos, dif_pos hpos]
    rfl
  · rw [dif_neg hpos, dif_neg hpos]
    rfl

theorem turnBranch_withEvents (hs : sub.Eventless) (hq : sub.eventQueue.count = 0 → q.count = 0)
    (subs : List Subscription) : turnBranch b x (sub.withEvents q) n { s with subscriptions := subs } =
      ((turnBranch b x sub n s).1, (turnBranch b x sub n s).2.1.withEvents q,
        { (turnBranch b x sub n s).2.2 with subscriptions := subs }) := by
  have hdata : (sub.withEvents q).hasData b n = sub.hasData b n := by
    cases henabled : sub.publishingEnabled with
    | false => simp [Subscription.hasData, Subscription.withEvents, henabled]
    | true =>
      simp [Subscription.hasData, Subscription.withEvents, henabled, hs henabled, hq (hs henabled)]
  unfold turnBranch
  rw [hdata]
  by_cases hhas : sub.hasData b n = true
  · have hcount := hs (Bool.and_eq_true_iff.mp hhas).1
    rw [if_pos hhas, if_pos hhas]
    exact turnData_withEvents hcount (hq hcount) subs
  · rw [if_neg hhas, if_neg hhas]
    exact turnKeepAlive_withEvents subs

theorem turnBranch_frame (hs : sub.Eventless) (hq : sub.eventQueue.count = 0 → q.count = 0) :
    (turnBranch b x sub n s).2.2.subscriptions = s.subscriptions ∧
      ((turnBranch b x sub n s).2.1.eventQueue.count = 0 → q.count = 0) := by
  unfold turnBranch
  by_cases hhas : sub.hasData b n = true
  · obtain ⟨items, queue, -, htables, -⟩ := turnData_frame (b := b) (x := x) (s := s) sub sub n
    rw [if_pos hhas, htables]
    exact ⟨rfl, fun _ => hq (hs (Bool.and_eq_true_iff.mp hhas).1)⟩
  · obtain ⟨queue, htables, -, hevents⟩ := turnKeepAlive_frame (b := b) (x := x) (s := s) sub
    rw [if_neg hhas, htables, hevents]
    exact ⟨rfl, hq⟩

theorem turnOf_quieter (h : QuieterTables s t) (hsub : Quieter sub sub') (hs : sub.Eventless) :
    (turnOf b x sub' t).1 = (turnOf b x sub s).1 ∧
      QuieterTables (turnOf b x sub s).2 (turnOf b x sub' t).2 := by
  obtain ⟨q, rfl, hempty⟩ := hsub
  obtain ⟨subs, hsubs, rfl⟩ : ∃ subs, List.Forall₂ Quieter s.subscriptions subs ∧
      t = { s with subscriptions := subs } := ⟨t.subscriptions, h.subscriptions, h.rest⟩
  have hprepared := prepareReport_withEvents (b := b) (q := q) sub s.items.monitoredItems x.world
  obtain ⟨more, resend, hsub⟩ := prepareReport_sub (b := b) sub s.items.monitoredItems x.world
  obtain ⟨⟨items, n, prepared⟩, hp⟩ :
    ∃ p, ((prepareReport b sub s.items.monitoredItems).run x.world).1 = p := ⟨_, rfl⟩
  rw [hp] at hprepared hsub
  have hs' : prepared.Eventless := by
    rw [show prepared = _ from hsub]
    exact hs
  have hq' : prepared.eventQueue.count = 0 → q.count = 0 := by
    rw [show prepared = _ from hsub]
    exact hempty
  obtain ⟨hframe, hcount⟩ :=
    turnBranch_frame (b := b) (x := x) (n := n) (s := setItemList items s) hs' hq'
  have hquiet : turnOf b x (sub.withEvents q) { s with subscriptions := subs } = _ := turnOf_eq hprepared
  rw [turnOf_eq hp, hquiet]
  rw [show setItemList items { s with subscriptions := subs } =
    { setItemList items s with subscriptions := subs } from rfl, turnBranch_withEvents hs' hq' subs,
    advancePublishTimer_withEvents]
  generalize turnBranch b x prepared n (setItemList items s) = r at hframe hcount
  obtain ⟨next, hnext⟩ := advancePublishTimer_eq r.2.1 x.nowMs
  refine ⟨rfl, ?_, rfl⟩
  refine forall₂_set_both ⟨q, rfl, ?_⟩ ?_ x.index
  · rw [hframe]
    exact hsubs
  · rw [hnext]
    exact hcount

def TurnInput.Undisturbed (x : TurnInput W) (s : Subscriptions W) : Prop :=
  ∀ sub, s.subscriptions[x.index]? = some sub → sub.inUse = true →
    sub.nextPublishMs ≤ x.nowMs → sub.Eventless

theorem turn_quieter (h : QuieterTables s t) (hx : x.Undisturbed s) :
    (turn b x t).1 = (turn b x s).1 ∧ QuieterTables (turn b x s).2 (turn b x t).2 := by
  unfold turn
  cases hi : s.subscriptions[x.index]? with
  | none =>
    have hi' : t.subscriptions[x.index]? = none := by
      rw [List.getElem?_eq_none_iff, ← h.subscriptions.length_eq]
      exact List.getElem?_eq_none_iff.mp hi
    rw [hi']
    exact ⟨rfl, h⟩
  | some sub =>
    obtain ⟨sub', hi', hsub⟩ := exists_getElem?_of_forall₂ h.subscriptions.flip hi
    have hsub : Quieter sub sub' := hsub
    have hdue : (sub'.inUse && decide (sub'.nextPublishMs ≤ x.nowMs)) =
        (sub.inUse && decide (sub.nextPublishMs ≤ x.nowMs)) := by
      obtain ⟨q, rfl, -⟩ := hsub
      rfl
    rw [hi']
    simp only [hdue]
    by_cases hturn : (sub.inUse && decide (sub.nextPublishMs ≤ x.nowMs)) = true
    · obtain ⟨hin, hnext⟩ := Bool.and_eq_true_iff.mp hturn
      rw [if_pos hturn, if_pos hturn]
      exact turnOf_quieter h hsub (hx sub hi hin (of_decide_eq_true hnext))
    · rw [if_neg hturn, if_neg hturn]
      exact ⟨rfl, h⟩

end Turn

section Runs

def publications (b : Build) : List (EngineOp W) → Subscriptions W →
    List (Nat × UInt64 × Option Publication)
  | [], _ => []
  | .turn x :: ops, s =>
    (x.index, x.nowMs, (turn b x s).1) :: publications b ops (EngineOp.apply b (.turn x) s)
  | op :: ops, s => publications b ops (op.apply b s)

def EngineOp.isEvent : EngineOp W → Bool
  | .triggerEvent _ => true
  | _ => false

/-- No turn of the run finds an event waiting for a subscription that is due and publishes. -/
def EventsUnseen (b : Build) : List (EngineOp W) → Subscriptions W → Prop
  | [], _ => True
  | .turn x :: ops, s => x.Undisturbed s ∧ EventsUnseen b ops (EngineOp.apply b (.turn x) s)
  | op :: ops, s => EventsUnseen b ops (op.apply b s)

theorem updated_quieter (f : Subscription → Subscription) (h : QuieterTables s t)
    (hf : ∀ sub q, f (sub.withEvents q) = (f sub).withEvents q)
    (hqueue : ∀ sub, (f sub).eventQueue = sub.eventQueue) (sessionId subId : UInt32) :
    QuieterTables { s with subscriptions := (subscriptionUpdate s.subscriptions sessionId subId f).2 }
      { t with subscriptions := (subscriptionUpdate t.subscriptions sessionId subId f).2 } := by
  refine ⟨subscriptionUpdate_quieter hf hqueue h.subscriptions sessionId subId, ?_⟩
  rw [h.rest]

theorem EngineOp.apply_quieter (op : EngineOp W) (h : QuieterTables s t) (hop : op.isEvent = false)
    (hturn : ∀ x, op = .turn x → x.Undisturbed s) : QuieterTables (op.apply b s) (op.apply b t) := by
  obtain ⟨subs, hsubs, rfl⟩ : ∃ subs, List.Forall₂ Quieter s.subscriptions subs ∧
      t = { s with subscriptions := subs } := ⟨t.subscriptions, h.subscriptions, h.rest⟩
  have hfind := subscriptionFind_of_keys (keys_of_quieter hsubs)
  cases op with
  | createSubscription sessionId p enabled nowMs =>
    obtain ⟨hcreated, hnext⟩ :=
      subscriptionCreate_quieter hsubs s.nextSubscriptionId sessionId p enabled nowMs
    refine ⟨hcreated, ?_⟩
    simp only [apply, MicroOpcua.createSubscription, hnext]
  | modifySubscription sessionId subId p =>
    exact updated_quieter (·.applyParameters p) h (fun _ _ => rfl) (fun _ => rfl) sessionId subId
  | setPublishingMode sessionId enabled subId =>
    exact updated_quieter ({ · with publishingEnabled := enabled }) h (fun _ _ => rfl)
      (fun _ => rfl) sessionId subId
  | requestResendData sessionId subId =>
    exact updated_quieter ({ · with resendDataPending := true }) h (fun _ _ => rfl)
      (fun _ => rfl) sessionId subId
  | acknowledge sessionId subId number =>
    exact ⟨subscriptionAcknowledge_quieter hsubs sessionId subId number, rfl⟩
  | deleteSubscription sessionId subId =>
    simp only [apply, subscriptionDelete, hfind]
    split
    · exact h
    · exact ⟨forall₂_set_both (.refl _) hsubs _, rfl⟩
  | createItem subId body node nowMs w =>
    simp only [apply, subscriptionIdInUse_of_keys (keys_of_quieter hsubs)]
    split
    · exact ⟨hsubs, rfl⟩
    · exact h
  | modifyItem | addTriggerLink | removeTriggerLink | sample => exact ⟨hsubs, rfl⟩
  | setMonitoringMode mode subId itemId =>
    simp only [apply, setMonitoringModeResult]
    split
    · exact h
    · exact ⟨hsubs, rfl⟩
  | deleteItem => exact ⟨hsubs, rfl⟩
  | park request =>
    simp only [apply, parkPublish]
    split
    · exact ⟨hsubs, rfl⟩
    · exact h
  | turn x => exact (turn_quieter h (hturn x rfl)).2
  | triggerEvent => cases hop
  | reset => exact .refl _

theorem publications_quieter (ops : List (EngineOp W)) (h : QuieterTables s t)
    (hunseen : EventsUnseen b ops s) :
    publications b (ops.filter (!·.isEvent)) t = publications b ops s := by
  induction ops generalizing s t with
  | nil => rfl
  | cons op ops ih =>
    cases op with
    | turn x =>
      have hturn := turn_quieter (b := b) h hunseen.1
      have hrest := ih hturn.2 hunseen.2
      simp only [List.filter, EngineOp.isEvent, Bool.not_false, publications, hturn.1]
      exact congrArg _ hrest
    | triggerEvent e => exact ih (triggerEvent_quieter h e) hunseen
    | _ => exact ih (EngineOp.apply_quieter _ h rfl nofun) hunseen

/-- Without the events of the run every subscription emits the same messages at the same ticks, as long
as no turn finds one waiting for a subscription that is due and publishes. -/
theorem events_leave_publications (ops : List (EngineOp W)) (s : Subscriptions W)
    (h : EventsUnseen b ops s) : publications b (ops.filter (!·.isEvent)) s = publications b ops s :=
  publications_quieter ops (.refl s) h

open EngineScript

/-- An event arrives, publishing is disabled, and a keep-alive is due. -/
theorem events_leave_publications_disabled :
    let ops := [subscribe 1, park 7, .triggerEvent .zero, .setPublishingMode 1 false 1,
      tick 100]
    EventsUnseen build ops (.init build) ∧
      publications build (ops.filter (!·.isEvent)) (.init build) =
        publications build ops (.init build) := by
  intro ops
  have hunseen : EventsUnseen build ops (.init build) := by
    refine ⟨?_, trivial⟩
    intro sub hsub _ _ henabled
    have hdisabled : ((after (ops.take 4)).subscriptions[0]?).map Subscription.publishingEnabled =
      some false := by decide +kernel
    have hafter : (after (ops.take 4)).subscriptions[0]? = some sub := hsub
    rw [hafter, Option.map_some, henabled] at hdisabled
    cases hdisabled
  exact ⟨hunseen, events_leave_publications ops _ hunseen⟩

/-- A subscription without items sends a keep-alive at the tick. After an event that no item of it asks
for it sends a message with one notification instead. -/
theorem event_reaches_subscription_without_items :
    let quiet := [subscribe 1, park 7, tick 100]
    let noisy := [subscribe 1, park 7, .triggerEvent .zero, tick 100]
    (after (noisy.take 3)).items.monitoredItems.all (fun item => !item.inUse) = true ∧
      noisy.filter (!·.isEvent) = quiet ∧
      (publications build quiet (.init build)).map
        (fun p => p.2.2.map Publication.notifications) = [some 0] ∧
      (publications build noisy (.init build)).map
        (fun p => p.2.2.map Publication.notifications) = [some 1] := by
  refine ⟨by decide +kernel, rfl, by decide +kernel, by decide +kernel⟩

end Runs

end MicroOpcua
