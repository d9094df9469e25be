import MicroOpcua.Services.TableLaws

namespace MicroOpcua

open Lib.StateRun Lib.Table Lib.Slots

variable {W : Type} {b : Build}

section Turn

theorem countReportableItems_snd (items : ItemList W) (sub : Subscription) :
    ∃ more, (countReportableItems b items sub).2 = { sub with moreNotifications := more } := by
  unfold countReportableItems
  split
  · split
    · exact ⟨true, rfl⟩
    · split
      exact ⟨_, rfl⟩
  · exact ⟨sub.moreNotifications, rfl⟩

variable (sub : Subscription)

theorem prepareReport_sub (items : ItemList W) (w : W) :
    ∃ more resend, ((prepareReport b sub items).run w).1.2.2 =
      { sub with moreNotifications := more, resendDataPending := resend } := by
  have hcount (items : ItemList W) (resend : Bool) :
      ∃ more resend', (countReportableItems b items { sub with resendDataPending := resend }).2 =
        { sub with moreNotifications := more, resendDataPending := resend' } := by
    obtain ⟨more, hmore⟩ :=
      countReportableItems_snd (b := b) items { sub with resendDataPending := resend }
    exact ⟨more, resend, hmore⟩
  have hresend :
    (if b.subscriptionsStandard = true then { sub with resendDataPending := false } else sub) =
      { sub with
        resendDataPending := if b.subscriptionsStandard then false else sub.resendDataPending } := by
    split <;> rfl
  simp only [prepareReport, hresend]
  split
  · exact ⟨sub.moreNotifications, sub.resendDataPending, rfl⟩
  · split
    · exact hcount _ _
    · exact hcount _ _

theorem reported_key (message : Bytes) : (sub.reported b message).key = sub.key := by
  simp only [Subscription.reported, Subscription.storeRetransmit, Subscription.advanceSequenceNumber]
  split
  · split <;> rfl
  · split <;> rfl

theorem advancePublishTimer_eq (nowMs : UInt64) :
    ∃ next, sub.advancePublishTimer nowMs = { sub with nextPublishMs := next } := by
  unfold Subscription.advancePublishTimer
  split
  · exact ⟨_, rfl⟩
  · exact ⟨_, rfl⟩

theorem advancePublishTimer_key (nowMs : UInt64) : (sub.advancePublishTimer nowMs).key = sub.key := by
  obtain ⟨next, hnext⟩ := advancePublishTimer_eq sub nowMs
  rw [hnext]
  rfl

variable {x : TurnInput W} {sub : Subscription} {s : Subscriptions W}

def TurnInput.response (b : Build) (x : TurnInput W) (s : Subscriptions W) (sub : Subscription)
    (r : PublishRequest) (includeData : Bool) (n : Nat) : Except Fault (Bytes × Bytes) :=
  buildPublish b s.items.monitoredItems sub r includeData n x.publishTime

section Branches

variable {includeData : Bool} {n : Nat} {sent : Sent W} {r : PublishRequest}
    {queue : List PublishRequest}

theorem turnAnswer_none (hr : publishRequestDequeue s.publishQueue sub.sessionId = none) :
    turnAnswer b x includeData n sent sub s = (none, sub, s) := by
  simp only [turnAnswer, hr]

theorem turnAnswer_accepted {response message : Bytes}
    (hr : publishRequestDequeue s.publishQueue sub.sessionId = some (r, queue))
    (hbuilt : x.response b s sub.numbered r includeData n = .ok (response, message))
    (haccepted : x.accepted = true) :
    turnAnswer b x includeData n sent sub s =
      (some ⟨response, message⟩, sent sub.numbered message { s with publishQueue := queue }) := by
  unfold TurnInput.response at hbuilt
  simp only [turnAnswer, hr, hbuilt, haccepted]

theorem turnAnswer_refused (hr : publishRequestDequeue s.publishQueue sub.sessionId = some (r, queue))
    (hrefused : ∀ p, x.response b s sub.numbered r includeData n = .ok p → x.accepted = false) :
    turnAnswer b x includeData n sent sub s =
      (none, sub.numbered, { s with publishQueue := queue }) := by
  unfold TurnInput.response at hrefused
  simp only [turnAnswer, hr]
  split
  · rename_i hbuilt haccepted
    cases haccepted.symm.trans (hrefused _ hbuilt)
  · rfl

variable (b x includeData n sent sub s) in
theorem turnAnswer_cases :
    (∃ number queue, (number = sub.sequenceNumber ∨ number = sub.currentSequenceNumber) ∧
      turnAnswer b x includeData n sent sub s =
        (none, { sub with sequenceNumber := number }, { s with publishQueue := queue })) ∨
    ∃ r queue p, publishRequestDequeue s.publishQueue sub.sessionId = some (r, queue) ∧
      x.response b s sub.numbered r includeData n = .ok (p.response, p.message) ∧
      turnAnswer b x includeData n sent sub s =
        (some p, sent sub.numbered p.message { s with publishQueue := queue }) := by
  cases hr : publishRequestDequeue s.publishQueue sub.sessionId with
  | none => exact .inl ⟨_, _, .inl rfl, turnAnswer_none hr⟩
  | some q =>
    obtain ⟨r, queue⟩ := q
    cases hbuilt : x.response b s sub.numbered r includeData n with
    | error e =>
      exact .inl ⟨_, queue, .inr rfl, turnAnswer_refused hr (fun q hq => nomatch hbuilt.symm.trans hq)⟩
    | ok q =>
      by_cases haccepted : x.accepted = true
      · exact .inr ⟨r, queue, ⟨q.1, q.2⟩, rfl, hbuilt, turnAnswer_accepted hr hbuilt haccepted⟩
      · exact .inl ⟨_, queue, .inr rfl, turnAnswer_refused hr (fun _ _ => by simpa using haccepted)⟩

theorem turnKeepAlive_waits (hwaits : sub.counted.keepAliveCounter < sub.maxKeepAliveCount) :
    turnKeepAlive b x sub s = (none, sub.counted, s) :=
  if_pos hwaits

theorem turnKeepAlive_due (hdue : ¬ sub.counted.keepAliveCounter < sub.maxKeepAliveCount) :
    turnKeepAlive b x sub s = turnAnswer b x false 0 sentKeepAlive sub.counted s :=
  if_neg hdue

end Branches

theorem turnData_frame (start sub : Subscription) (n : Nat) :
    ∃ items queue, List.Forall₂ (ReportSteps b start) s.items.monitoredItems items ∧
      (turnData b x sub n s).2.2 = { setItemList items s with publishQueue := queue } ∧
      (turnData b x sub n s).2.1.key = sub.key := by
  unfold turnData
  obtain ⟨number, queue, -, heq⟩ | ⟨r, queue, p, -, -, heq⟩ :=
    turnAnswer_cases b x sub s true n (sentData b n)
  · rw [heq]
    exact ⟨_, queue, List.forall₂_refl _, rfl, rfl⟩
  · rw [heq]
    exact ⟨_, queue, clearReportedItems_steps start _ _ _, rfl, reported_key _ _⟩

theorem turnKeepAlive_frame (sub : Subscription) :
    ∃ queue, (turnKeepAlive b x sub s).2.2 = { s with publishQueue := queue } ∧
      (turnKeepAlive b x sub s).2.1.key = sub.key ∧ (turnKeepAlive b x sub s).2.1.eventQueue =
        sub.eventQueue := by
  by_cases hwaits : sub.counted.keepAliveCounter < sub.maxKeepAliveCount
  · rw [turnKeepAlive_waits hwaits]
    exact ⟨_, rfl, rfl, rfl⟩
  rw [turnKeepAlive_due hwaits]
  obtain ⟨number, queue, -, heq⟩ | ⟨r, queue, p, -, -, heq⟩ :=
    turnAnswer_cases b x sub.counted s false 0 sentKeepAlive
  · rw [heq]
    exact ⟨queue, rfl, rfl, rfl⟩
  · rw [heq]
    exact ⟨queue, rfl, rfl, rfl⟩

theorem turnOf_eq {items : ItemList W} {n : Nat} {prepared : Subscription}
    (h : ((prepareReport b sub s.items.monitoredItems).run x.world).1 = (items, n, prepared)) :
    turnOf b x sub s = ((turnBranch b x prepared n (setItemList items s)).1,
      setSubscription x.index
      ((turnBranch b x prepared n (setItemList items s)).2.1.advancePublishTimer x.nowMs)
        (turnBranch b x prepared n (setItemList items s)).2.2) := by
  unfold turnOf
  rw [h]

/-- A turn works on the items in place, takes at most a request out of the queue, and puts the
subscription back under the same key. -/
theorem turnOf_frame (b : Build) (x : TurnInput W) (sub : Subscription) (s : Subscriptions W) :
    ∃ items queue sub', List.Forall₂ (ReportSteps b sub) s.items.monitoredItems items ∧
      sub'.key = sub.key ∧
      (turnOf b x sub s).2 =
        { setSubscription x.index sub' (setItemList items s) with publishQueue := queue } := by
  have hsteps := prepareReport_steps (b := b) sub s.items.monitoredItems x.world
  obtain ⟨more, resend, hsub⟩ := prepareReport_sub (b := b) sub s.items.monitoredItems x.world
  obtain ⟨⟨items, n, sub'⟩, hp⟩ :
    ∃ p, ((prepareReport b sub s.items.monitoredItems).run x.world).1 = p := ⟨_, rfl⟩
  rw [hp] at hsteps hsub
  obtain rfl : sub' = _ := hsub
  rw [turnOf_eq hp, turnBranch]
  split
  · obtain ⟨items', queue, hsteps', htables, hkey⟩ :=
      turnData_frame (b := b) (x := x) (s := setItemList items s) sub
        { sub with moreNotifications := more, resendDataPending := resend } n
    refine ⟨items', queue, _, forall₂_trans hsteps hsteps',
      (advancePublishTimer_key _ x.nowMs).trans hkey, ?_⟩
    rw [htables]
    rfl
  · obtain ⟨queue, htables, hkey, -⟩ :=
      turnKeepAlive_frame (b := b) (x := x) (s := setItemList items s)
        { sub with moreNotifications := more, resendDataPending := resend }
    refine ⟨items, queue, _, hsteps, (advancePublishTimer_key _ x.nowMs).trans hkey, ?_⟩
    rw [htables]
    rfl

theorem turn_cases (b : Build) (x : TurnInput W) (s : Subscriptions W) :
    turn b x s = (none, s) ∨ ∃ sub, s.subscriptions[x.index]? = some sub ∧ sub.inUse = true ∧
      sub.nextPublishMs ≤ x.nowMs ∧ turn b x s = turnOf b x sub s := by
  unfold turn
  cases hsub : s.subscriptions[x.index]? with
  | none => exact .inl rfl
  | some sub =>
    dsimp only
    split
    · rename_i hdue
      simp only [Bool.and_eq_true, decide_eq_true_eq] at hdue
      exact .inr ⟨sub, rfl, hdue.1, hdue.2, rfl⟩
    · exact .inl rfl

end Turn

section Consistent

variable {s t : Subscriptions W} {i : Nat} {sub : Subscription} {sessionId subId : UInt32}

/-- The ids of the subscriptions in use are distinct and not 0, and so are those of the items, each of
which is an item of a subscription in use. -/
structure Subscriptions.Consistent (b : Build) (s : Subscriptions W) : Prop where
  size : s.subscriptions.length = b.maxSubscriptions
  ids : (usedSubscriptions s.subscriptions).Nodup
  nonzero : 0 ∉ usedSubscriptions s.subscriptions
  items : s.items.Consistent b
  owned : ∀ k ∈ usedItems s.items.monitoredItems, k.2 ∈ usedSubscriptions s.subscriptions

theorem init_consistent : (Subscriptions.init b : Subscriptions W).Consistent b := by
  have hsubs : usedSubscriptions (Subscriptions.init b : Subscriptions W).subscriptions = [] := by
    simp only [usedSubscriptions, Subscriptions.init, List.map_replicate]
    exact List.reduceOption_replicate_none
  have hitems : usedItems (Subscriptions.init b : Subscriptions W).items.monitoredItems = [] := by
    simp only [usedItems, Subscriptions.init, List.map_replicate]
    exact List.reduceOption_replicate_none
  refine ⟨List.length_replicate, by simp [hsubs], by simp [hsubs],
    ⟨List.length_replicate, ?_, ?_, ?_⟩, ?_⟩
  · simp [hitems]
  · simp [hitems]
  · rw [hitems]
    rfl
  · simp [hitems]

structure SameTables (s t : Subscriptions W) : Prop where
  keys : t.subscriptions.map Subscription.key = s.subscriptions.map Subscription.key
  slots : t.items.monitoredItems.map MonitoredItem.slot = s.items.monitoredItems.map MonitoredItem.slot
  active : t.items.activeMonitoredItemsCount = s.items.activeMonitoredItemsCount

instance : Std.Refl (SameTables (W := W)) := ⟨fun _ => ⟨rfl, rfl, rfl⟩⟩

theorem Subscriptions.Consistent.congr (h : s.Consistent b) (hsame : SameTables s t) :
    t.Consistent b := by
  have hused := usedSubscriptions_congr hsame.keys
  have hlen := congrArg List.length hsame.keys
  rw [List.length_map, List.length_map] at hlen
  refine ⟨hlen.trans h.size, hused ▸ h.ids, hused ▸ h.nonzero,
    h.items.congr hsame.slots hsame.active, ?_⟩
  rw [usedItems_congr hsame.slots, hused]
  exact h.owned

theorem sampleItems_same (s : Subscriptions W) (nowMs : UInt64) (active : Nat) (w : W) :
    SameTables s (setItemList ((sampleItems b nowMs active s.items.monitoredItems).run w).1 s) :=
  ⟨rfl, slots_of_keys (keys_of_works (sampleItems_works nowMs _ _ w)), rfl⟩

/-- A creation fails only when every slot is taken, and otherwise fills a free slot under a new id. -/
theorem subscriptionCreate_cases (sessionId : UInt32) (h : s.Consistent b) (p : SubscriptionParameters)
    (enabled : Bool) (nowMs : UInt64) :
    ((∃ e, subscriptionCreate s.subscriptions s.nextSubscriptionId sessionId p enabled nowMs =
        (.error e, s.subscriptions, s.nextSubscriptionId)) ∧ ∀ sub ∈ s.subscriptions, sub.inUse = true) ∨
      ∃ i next old sub, s.subscriptions[i]? = some old ∧ old.inUse = false ∧
        sub.key = ⟨true, sub.subscriptionId, sessionId⟩ ∧ sub.sequenceNumber = 1 ∧
        sub.retransmit = ⟨false, 0, []⟩ ∧
        sub.subscriptionId ≠ 0 ∧ sub.subscriptionId ∉ usedSubscriptions s.subscriptions ∧
        subscriptionCreate s.subscriptions s.nextSubscriptionId sessionId p enabled nowMs =
          (.ok sub, s.subscriptions.set i sub, next) := by
  unfold subscriptionCreate
  cases hfind : s.subscriptions.findIdx? (fun sub => !sub.inUse) with
  | none =>
    rw [List.findIdx?_eq_none_iff] at hfind
    exact .inl ⟨⟨_, rfl⟩, fun sub hsub => by simpa using hfind sub hsub⟩
  | some i =>
    obtain ⟨hlt, hfree, -⟩ := List.findIdx?_eq_some_iff_getElem.mp hfind
    have hsub : s.subscriptions[i]? = some s.subscriptions[i] := List.getElem?_eq_getElem hlt
    have hslot : none ∈ s.subscriptions.map Subscription.slot :=
      List.mem_map.mpr ⟨s.subscriptions[i], List.getElem_mem hlt, if_neg (by simpa using hfree)⟩
    have hroom : (usedSubscriptions s.subscriptions).length < s.subscriptions.length := by
      have := List.reduceOption_length_lt_iff.mpr hslot
      rwa [List.length_map] at this
    have hsize : s.subscriptions.length < 2 ^ 31 := h.size ▸ b.maxSubscriptions_lt
    obtain ⟨hnonzero, hfresh⟩ := allocateId_fresh (subscriptionIdInUse s.subscriptions)
      (fun id hid => subscriptionIdInUse_iff.mp hid) (s.subscriptions.length + 1) (by omega) (by omega)
      s.nextSubscriptionId
    generalize allocateId _ _ s.nextSubscriptionId = p at hnonzero hfresh
    obtain ⟨id, next⟩ := p
    refine .inr ⟨i, next, _, _, hsub, by simpa using hfree, rfl, rfl, rfl, hnonzero,
      fun hid => ?_, if_neg hnonzero⟩
    have hused := subscriptionIdInUse_iff.mpr hid
    exact absurd (hused.symm.trans hfresh) nofun

theorem usedSubscriptions_fill {subs : List Subscription} {old : Subscription} (hi : subs[i]? = some old)
    (hfree : old.inUse = false) (hin : sub.inUse = true) :
    (usedSubscriptions (subs.set i sub)).Perm (sub.subscriptionId :: usedSubscriptions subs) := by
  have hslot : (subs.map Subscription.slot)[i]? = some none := by
    rw [List.getElem?_map, hi, Option.map_some, Subscription.slot, if_neg (by simp [hfree])]
  have hslot' : sub.slot = some sub.subscriptionId := if_pos hin
  rw [usedSubscriptions, List.map_set, hslot']
  exact reduceOption_set_some hslot

theorem usedSubscriptions_free {subs : List Subscription} (hi : subs[i]? = some sub)
    (hin : sub.inUse = true) :
    (usedSubscriptions subs).Perm (sub.subscriptionId :: usedSubscriptions (subs.set i .zero)) := by
  have hslot : (subs.map Subscription.slot)[i]? = some (some sub.subscriptionId) := by
    rw [List.getElem?_map, hi, Option.map_some, Subscription.slot, if_pos hin]
  rw [usedSubscriptions, usedSubscriptions, List.map_set]
  exact reduceOption_set_none hslot

theorem createSubscription_consistent (h : s.Consistent b) (p : SubscriptionParameters) (enabled : Bool)
    (nowMs : UInt64) : (createSubscription sessionId p enabled nowMs s).2.Consistent b := by
  unfold createSubscription
  obtain ⟨⟨e, hcreate⟩, -⟩ | ⟨i, next, old, sub, hi, hfree, hkey, -, -, hnonzero, hfresh, hcreate⟩ :=
    subscriptionCreate_cases sessionId h p enabled nowMs
  · rw [hcreate]
    exact ⟨h.size, h.ids, h.nonzero, h.items, h.owned⟩
  · rw [hcreate]
    have hperm := usedSubscriptions_fill hi hfree (congrArg SubscriptionKey.inUse hkey)
    refine ⟨(List.length_set ..).trans h.size, ?_, fun hzero => ?_, h.items, fun k hk => ?_⟩
    · exact hperm.nodup_iff.mpr (List.nodup_cons.mpr ⟨hfresh, h.ids⟩)
    · obtain heq | hmem := List.mem_cons.mp (hperm.mem_iff.mp hzero)
      · exact hnonzero heq.symm
      · exact h.nonzero hmem
    · exact hperm.mem_iff.mpr (.tail _ (h.owned k hk))

theorem subscriptionDelete_consistent (h : s.Consistent b) (sessionId subId : UInt32) :
    (subscriptionDelete b s sessionId subId).2.Consistent b := by
  unfold subscriptionDelete
  cases hfind : subscriptionFind s.subscriptions sessionId subId with
  | none => exact h
  | some i =>
    obtain ⟨sub, hi, hin, -, rfl⟩ := subscriptionFind_eq_some hfind
    have hperm := usedSubscriptions_free hi hin
    refine ⟨(List.length_set ..).trans h.size, ?_, fun hzero => ?_, h.items.releaseItemsOf _,
      fun k hk => ?_⟩
    · exact (List.nodup_cons.mp (hperm.nodup_iff.mp h.ids)).2
    · exact h.nonzero (hperm.mem_iff.mpr (.tail _ hzero))
    · obtain ⟨item, hmem, hused, hid, hsub⟩ := mem_usedItems.mp hk
      dsimp only at hmem
      rw [releaseItemsOf_items] at hmem
      obtain ⟨old, hold, rfl⟩ := List.mem_map.mp hmem
      by_cases hown : (old.inUse && old.subscriptionId = sub.subscriptionId) = true
      · rw [if_pos hown] at hused
        cases hused
      · rw [if_neg hown] at hused hid hsub
        have hmem := h.owned k (mem_usedItems.mpr ⟨old, hold, hused, hid, hsub⟩)
        obtain heq | hmem := List.mem_cons.mp (hperm.mem_iff.mp hmem)
        · exact absurd (by simp [hused, hsub, heq]) hown
        · exact hmem

section Frames

theorem subscriptionUpdate_keys {f : Subscription → Subscription} (hf : ∀ sub, (f sub).key = sub.key)
    (subs : List Subscription) (sessionId subId : UInt32) :
    (subscriptionUpdate subs sessionId subId f).2.map Subscription.key = subs.map Subscription.key := by
  apply (subscriptionUpdate_edits subs sessionId subId f).map_eq
  rintro sub - rfl
  exact hf sub

theorem subscriptionAcknowledge_keys (subs : List Subscription) (sessionId subId number : UInt32) :
    (subscriptionAcknowledge subs sessionId subId number).2.map Subscription.key =
      subs.map Subscription.key := by
  apply (subscriptionAcknowledge_edits subs sessionId subId number).map_eq
  rintro sub - ⟨-, -, rfl⟩
  rfl

theorem triggerEvent_keys (s : Subscriptions W) (e : EventNotification) :
    (triggerEvent s e).subscriptions.map Subscription.key = s.subscriptions.map Subscription.key := by
  unfold triggerEvent
  rw [List.map_map]
  refine List.map_congr_left (fun sub _ => ?_)
  simp only [Function.comp]
  split <;> rfl

theorem monitoredItemDelete_consistent {t : ItemTable W} (h : t.Consistent b) (subId itemId : UInt32) :
    (monitoredItemDelete b t subId itemId).2.Consistent b ∧
      usedItems (monitoredItemDelete b t subId itemId).2.monitoredItems ⊆
      usedItems t.monitoredItems := by
  obtain hsame | ⟨i, item, hi, hitem, hdelete⟩ := monitoredItemDelete_cases (b := b) t subId itemId
  · rw [hsame]
    exact ⟨h, List.Subset.refl _⟩
  · rw [hdelete]
    exact ⟨h.release hi hitem.1, fun k hk => (usedItems_release hi hitem.1).mem_iff.mpr (.tail _ hk)⟩

end Frames

theorem EngineOp.apply_consistent (op : EngineOp W) (h : s.Consistent b) :
    (op.apply b s).Consistent b := by
  cases op with
  | createSubscription sessionId p enabled nowMs => exact createSubscription_consistent h p enabled nowMs
  | modifySubscription sessionId subId p =>
    refine h.congr ⟨?_, rfl, rfl⟩
    apply subscriptionUpdate_keys
    intro _
    rfl
  | setPublishingMode sessionId enabled subId =>
    refine h.congr ⟨?_, rfl, rfl⟩
    apply subscriptionUpdate_keys
    intro _
    rfl
  | requestResendData sessionId subId =>
    refine h.congr ⟨?_, rfl, rfl⟩
    apply subscriptionUpdate_keys
    intro _
    rfl
  | acknowledge sessionId subId number =>
    exact h.congr ⟨subscriptionAcknowledge_keys _ _ _ _, rfl, rfl⟩
  | deleteSubscription sessionId subId => exact subscriptionDelete_consistent h sessionId subId
  | createItem subId body node nowMs w =>
    simp only [EngineOp.apply]
    split
    · rename_i hused
      obtain ⟨hfull, -⟩ | ⟨i, id, next, old, hi, hfree, hnonzero, hfresh, hcreate⟩ :=
        createItem_cases h.items subId body node nowMs w
      · rw [hfull]
        exact h
      · obtain ⟨hnew, hid⟩ := createdItem_new (b := b) subId id body node nowMs w
        have hitems := h.items.create hi hfree hnew.inUse (by rwa [hid]) (by rwa [hid]) next
        rw [hcreate]
        refine ⟨h.size, h.ids, h.nonzero, hitems, fun k hk => ?_⟩
        obtain rfl | hk := List.mem_cons.mp ((usedItems_fill hi hfree hnew.inUse).mem_iff.mp hk)
        · rw [hnew.subscription]
          exact subscriptionIdInUse_iff.mp hused
        · exact h.owned k hk
    · exact h
  | modifyItem subId body =>
    obtain ⟨items, hitems, hedits⟩ := modifyItem_edits (b := b) subId body s.items
    simp only [EngineOp.apply, hitems]
    exact h.congr ⟨rfl, hedits.map_eq (fun _ _ ⟨_, _, heq⟩ => heq ▸ rfl), rfl⟩
  | setMonitoringMode mode subId itemId =>
    obtain ⟨items, hitems, hedits⟩ := setMonitoringModeResult_edits mode subId itemId s
    simp only [EngineOp.apply, hitems]
    exact h.congr ⟨rfl, hedits.map_eq (fun _ _ heq => heq ▸ rfl), rfl⟩
  | deleteItem subId itemId =>
    obtain ⟨hitems, hsubset⟩ := monitoredItemDelete_consistent h.items subId itemId
    exact ⟨h.size, h.ids, h.nonzero, hitems, fun k hk => h.owned k (hsubset hk)⟩
  | addTriggerLink subId triggeringId linkedId =>
    exact h.congr ⟨rfl, (addTriggerLink_edits _ _ _ _).map_eq (fun _ _ hlink => hlink.2.2.2 ▸ rfl), rfl⟩
  | removeTriggerLink subId triggeringId linkedId =>
    exact h.congr ⟨rfl, (removeTriggerLink_edits _ _ _ _).map_eq (fun _ _ heq => heq ▸ rfl), rfl⟩
  | park request =>
    obtain ⟨queue, hqueue, -⟩ := parkPublish_edits request s
    simp only [EngineOp.apply, hqueue]
    exact h.congr ⟨rfl, rfl, rfl⟩
  | sample nowMs w => exact h.congr (sampleItems_same s nowMs _ w)
  | turn x =>
    simp only [EngineOp.apply]
    obtain hidle | ⟨sub, hsub, -, -, hturn⟩ := turn_cases b x s
    · rw [hidle]
      exact h
    · obtain ⟨items, queue, sub', hsteps, hkey, hframe⟩ := turnOf_frame b x sub s
      rw [hturn, hframe]
      refine h.congr ⟨?_, slots_of_keys (keys_of_works (works_of_steps hsteps)), rfl⟩
      exact map_set_eq hsub hkey
  | triggerEvent e => exact h.congr ⟨triggerEvent_keys s e, rfl, rfl⟩
  | reset => exact init_consistent

theorem EngineRuns.consistent {P : Subscriptions W → EngineOp W → Prop} (h : EngineRuns b P s t)
    (hs : s.Consistent b) : t.Consistent b := by
  induction h with
  | refl => exact hs
  | tail _ hstep ih =>
    obtain ⟨op, -, rfl⟩ := hstep
    exact op.apply_consistent ih

theorem runOps_consistent (ops : List (EngineOp W)) (h : s.Consistent b) :
    (runOps b ops s).Consistent b := by
  induction ops generalizing s with
  | nil => exact h
  | cons op ops ih => exact ih (op.apply_consistent h)

end Consistent

end MicroOpcua
