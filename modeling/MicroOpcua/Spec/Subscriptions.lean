import MicroOpcua.Core.Script

namespace MicroOpcua

open Lib.Slots Lib.Table

variable {W A : Type} {b : Build} {c : Config W} {app : Application W A}

section Tables

variable {s : Subscriptions W}

theorem Subscriptions.Consistent.subscription_eq (h : s.Consistent b) {i j : Nat}
    {sub sub' : Subscription} (hi : s.subscriptions[i]? = some sub)
    (hj : s.subscriptions[j]? = some sub') (hin : sub.inUse = true)
    (hin' : sub'.inUse = true) (heq : sub.subscriptionId = sub'.subscriptionId) : i = j := by
  have hslot {k : Nat} {sub : Subscription} (hk : s.subscriptions[k]? = some sub)
    (hin : sub.inUse = true) :
      (s.subscriptions.map Subscription.slot)[k]? = some (some sub.subscriptionId) := by
    rw [List.getElem?_map, hk, Option.map_some, Subscription.slot, if_pos hin]
  apply eq_of_nodup (f := id) (l := s.subscriptions.map Subscription.slot)
  · rw [List.map_id]
    exact h.ids
  · exact hslot hi hin
  · exact hslot hj hin'
  · exact heq

theorem ItemTable.Consistent.item_eq {t : ItemTable W} (h : t.Consistent b) {i j : Nat}
    {item item' : MonitoredItem W} (hi : t.monitoredItems[i]? = some item)
    (hj : t.monitoredItems[j]? = some item') (hin : item.inUse = true)
    (hin' : item'.inUse = true) (heq : item.monitoredItemId = item'.monitoredItemId) : i = j := by
  have hslot {k : Nat} {item : MonitoredItem W} (hk : t.monitoredItems[k]? = some item)
    (hin : item.inUse = true) :
      (t.monitoredItems.map MonitoredItem.slot)[k]? =
        some (some (item.monitoredItemId, item.subscriptionId)) := by
    rw [List.getElem?_map, hk, Option.map_some, MonitoredItem.slot, if_pos hin]
  exact eq_of_nodup h.ids (hslot hi hin) (hslot hj hin') heq

theorem usedItems_length (items : ItemList W) : (usedItems items).length = items.countP (·.inUse) := by
  induction items with
  | nil => rfl
  | cons item items ih =>
    rw [usedItems_cons, List.countP_cons]
    by_cases hin : item.inUse = true
    · simp [hin, ih]
    · simp [hin, ih]

/-- Whatever operations are made on the engine: ids in use are distinct and not 0, every item belongs to
a subscription in use, the count of items is right, so that the scans it ends miss none, and only a full
table refuses a new entry. -/
theorem engine_tables_consistent (b : Build) (ops : List (EngineOp W)) :
    let s := runOps b ops (Subscriptions.init b)
    (∀ (i : Nat) sub, s.subscriptions[i]? = some sub → sub.inUse = true → sub.subscriptionId ≠ 0 ∧
      ∀ (j : Nat) sub', s.subscriptions[j]? = some sub' → sub'.inUse = true →
        sub.subscriptionId = sub'.subscriptionId → i = j) ∧
    (∀ (i : Nat) item, s.items.monitoredItems[i]? = some item → item.inUse = true →
      item.monitoredItemId ≠ 0 ∧ ∀ (j : Nat) item', s.items.monitoredItems[j]? = some item' →
      item'.inUse = true →
        item.monitoredItemId = item'.monitoredItemId → i = j) ∧
    (∀ item ∈ s.items.monitoredItems, item.inUse = true →
      ∃ sub ∈ s.subscriptions, sub.inUse = true ∧ sub.subscriptionId = item.subscriptionId) ∧
    s.items.activeMonitoredItemsCount.toNat = s.items.monitoredItems.countP (·.inUse) ∧
    (∀ subId itemId, findMonitoredItem s.items subId itemId =
      findMonitoredItemInSubscription s.items.monitoredItems subId itemId) ∧
    (∀ nowMs, sampleItems b nowMs s.items.activeMonitoredItemsCount.toNat s.items.monitoredItems =
      sampleEvery b nowMs s.items.monitoredItems) ∧
    ((∃ sub ∈ s.subscriptions, sub.inUse = false) → ∀ sessionId p enabled nowMs, ∃ sub,
      (subscriptionCreate s.subscriptions s.nextSubscriptionId sessionId p enabled nowMs).1 = .ok sub) ∧
    ((∃ item ∈ s.items.monitoredItems, item.inUse = false) → ∀ subId, ∃ slot id,
      (monitoredItemAlloc b s.items subId).1 = .ok (slot, id)) := by
  intro s
  have h : s.Consistent b := runOps_consistent ops init_consistent
  refine ⟨fun i sub hi hin => ⟨fun hzero => ?_, fun j sub' hj hin' => h.subscription_eq hi hj hin hin'⟩,
    fun i item hi hin => ⟨?_, fun j item' hj hin' => h.items.item_eq hi hj hin hin'⟩,
    fun item hitem hin => ?_, ?_, ?_, ?_,
    ?_, ?_⟩
  · exact h.nonzero (mem_usedSubscriptions.mpr ⟨sub, List.mem_of_getElem? hi, hin, hzero⟩)
  · exact h.items.nonzero (item.monitoredItemId, item.subscriptionId)
      (mem_usedItems.mpr ⟨item, List.mem_of_getElem? hi, hin, rfl, rfl⟩)
  · exact mem_usedSubscriptions.mp (h.owned (item.monitoredItemId, item.subscriptionId)
      (mem_usedItems.mpr ⟨item, hitem, hin, rfl, rfl⟩))
  · rw [h.items.active, usedItems_length]
  · intro subId itemId
    rw [findMonitoredItem, h.items.active, findMonitoredItemFrom_eq]
    simp
  · intro nowMs
    rw [h.items.active, sampleItems_eq]
  · rintro ⟨free, hmem, hfree⟩ sessionId p enabled nowMs
    obtain ⟨-, hfull⟩ | ⟨i, next, old, sub, -, -, -, -, -, -, -, hcreate⟩ :=
      subscriptionCreate_cases sessionId h p enabled nowMs
    · rw [hfull free hmem] at hfree
      cases hfree
    · exact ⟨sub, by rw [hcreate]⟩
  · rintro ⟨free, hmem, hfree⟩ subId
    obtain ⟨-, hfull⟩ | ⟨i, id, next, old, -, -, -, -, halloc⟩ := monitoredItemAlloc_cases h.items subId
    · rw [hfull free hmem] at hfree
      cases hfree
    · exact ⟨i, id, by rw [halloc]⟩

end Tables

section Isolation

variable {s t u : Subscriptions W} {id sessionId subId : UInt32}

def subscriptionsOf (id : UInt32) (s : Subscriptions W) : Set UInt32 :=
  { k | ∃ sub ∈ s.subscriptions, (sub.inUse = true ∧ sub.sessionId = id) ∧ sub.subscriptionId = k }

/-- Everything of session `id` is as it was, in the same slots: its subscriptions with their
retransmission slots, the items of those subscriptions with their queues and links, and its parked
Publish requests. -/
structure Untouched (id : UInt32) (s t : Subscriptions W) : Prop where
  subscriptions :
    SameOn (fun sub => sub.inUse = true ∧ sub.sessionId = id) s.subscriptions t.subscriptions
  items : SameOn (fun item => item.inUse = true ∧ item.subscriptionId ∈ subscriptionsOf id s)
    s.items.monitoredItems t.items.monitoredItems
  requests : SameOn (fun r => r.inUse = true ∧ r.sessionId = id) s.publishQueue t.publishQueue

theorem Untouched.refl (id : UInt32) (s : Subscriptions W) : Untouched id s s :=
  ⟨.refl _, .refl _, .refl _⟩

theorem Untouched.subscriptionsOf_eq (h : Untouched id s t) :
    subscriptionsOf id t = subscriptionsOf id s := by
  ext k
  exact exists_congr (fun sub => and_congr_left (fun hsub => (h.subscriptions.mem_iff hsub.1).symm))

theorem Untouched.trans (h : Untouched id s t) (h' : Untouched id t u) : Untouched id s u := by
  refine ⟨h.subscriptions.trans h'.subscriptions, ?_, h.requests.trans h'.requests⟩
  have hitems := h'.items
  rw [h.subscriptionsOf_eq] at hitems
  exact h.items.trans hitems

theorem notMem_subscriptionsOf (h : s.Consistent b) (hne : sessionId ≠ id)
    (hfound : (subscriptionFind s.subscriptions sessionId subId).isSome = true) :
    subId ∉ subscriptionsOf id s := by
  rintro ⟨sub, hmem, ⟨hin, hid⟩, hsub⟩
  obtain ⟨i, hi⟩ := Option.isSome_iff_exists.mp hfound
  obtain ⟨sub', hi', hin', hid', hsub'⟩ := subscriptionFind_eq_some hi
  obtain ⟨j, hj⟩ := List.mem_iff_getElem?.mp hmem
  obtain rfl := h.subscription_eq hi' hj hin' hin (hsub'.trans hsub.symm)
  obtain rfl := Option.some.inj (hi'.symm.trans hj)
  exact hne (hid'.symm.trans hid)

theorem Untouched.of_subscriptions {subs : List Subscription} (next : UInt32)
    (h : SameOn (fun sub => sub.inUse = true ∧ sub.sessionId = id) s.subscriptions subs) :
    Untouched id s { s with subscriptions := subs, nextSubscriptionId := next } := ⟨h, .refl _, .refl _⟩

theorem Untouched.of_items {items : ItemTable W}
    (h : SameOn (fun item => item.inUse = true ∧ item.subscriptionId ∈ subscriptionsOf id s)
      s.items.monitoredItems items.monitoredItems) : Untouched id s { s with items := items } :=
  ⟨.refl _, h, .refl _⟩

theorem Untouched.edits {R : Subscription → Subscription → Prop} {subs : List Subscription}
    (hne : sessionId ≠ id) (h : Edits (Subscription.Named sessionId subId) R s.subscriptions subs)
    (hR : ∀ sub sub', R sub sub' → sub'.key = sub.key) :
    Untouched id s { s with subscriptions := subs } := by
  refine .of_subscriptions s.nextSubscriptionId
    (h.sameOn (fun sub hsub hid => ?_) (fun sub sub' hsub hR' hid => ?_))
  · exact hne (hsub.2.1.symm.trans hid.2)
  · have hkey : sub'.sessionId = sub.sessionId := congrArg SubscriptionKey.sessionId (hR sub sub' hR')
    exact hne (hsub.2.1.symm.trans (hkey.symm.trans hid.2))

theorem Untouched.editsItem {R : MonitoredItem W → MonitoredItem W → Prop} {items : ItemList W}
    {itemId : UInt32} (hfound : subId ∉ subscriptionsOf id s)
    (h : Edits (MonitoredItem.Named subId itemId) R s.items.monitoredItems items)
    (hR : ∀ item item', R item item' → item'.subscriptionId = item.subscriptionId) :
    Untouched id s (setItemList items s) := by
  refine .of_items (h.sameOn (fun item hitem hid => ?_) (fun item item' hitem hR' hid => ?_))
  · exact hfound (hitem.2.1 ▸ hid.2)
  · exact hfound (hitem.2.1 ▸ hR item item' hR' ▸ hid.2)

theorem EngineOp.By.untouched {op : EngineOp W} (h : op.By sessionId s) (hne : sessionId ≠ id)
    (hs : s.Consistent b) : Untouched id s (op.apply b s) := by
  cases op with
  | createSubscription owner p enabled nowMs =>
    obtain rfl : owner = sessionId := h
    simp only [EngineOp.apply, MicroOpcua.createSubscription]
    obtain ⟨⟨e, hfull⟩, -⟩ | ⟨i, next, old, sub, hi, hfree, hkey, -, -, -, -, hcreate⟩ :=
      subscriptionCreate_cases owner hs p enabled nowMs
    · rw [hfull]
      exact .refl id s
    · rw [hcreate]
      have howner : sub.sessionId = owner := congrArg SubscriptionKey.sessionId hkey
      refine .of_subscriptions next (.set hi ?_ ?_)
      · exact fun hid => Bool.false_ne_true (hfree.symm.trans hid.1)
      · exact fun hid => hne (howner.symm.trans hid.2)
  | modifySubscription owner k p =>
    obtain rfl : owner = sessionId := h
    exact .edits hne (subscriptionUpdate_edits _ _ _ _) (fun _ _ heq => heq ▸ rfl)
  | setPublishingMode owner enabled k =>
    obtain rfl : owner = sessionId := h
    exact .edits hne (subscriptionUpdate_edits _ _ _ _) (fun _ _ heq => heq ▸ rfl)
  | requestResendData owner k =>
    obtain rfl : owner = sessionId := h
    exact .edits hne (subscriptionUpdate_edits _ _ _ _) (fun _ _ heq => heq ▸ rfl)
  | acknowledge owner k number =>
    obtain rfl : owner = sessionId := h
    exact .edits hne (subscriptionAcknowledge_edits _ _ _ _) (fun _ _ heq => heq.2.2 ▸ rfl)
  | deleteSubscription owner k =>
    obtain rfl : owner = sessionId := h
    simp only [EngineOp.apply, subscriptionDelete]
    cases hfind : subscriptionFind s.subscriptions owner k with
    | none => exact .refl id s
    | some i =>
      obtain ⟨sub, hi, hsub⟩ := subscriptionFind_eq_some hfind
      have hforeign := notMem_subscriptionsOf hs hne (Option.isSome_of_eq_some hfind)
      refine ⟨.set hi (fun hid => hne (hsub.2.1.symm.trans hid.2)) (fun hid =>
        Bool.false_ne_true hid.1), ?_, .refl _⟩
      rw [releaseItemsOf_items]
      refine .map (fun item hitem => if_neg ?_)
      simp only [Bool.and_eq_true, decide_eq_true_eq]
      rintro ⟨hin, rfl⟩
      obtain hitem | hitem := hitem
      · exact hforeign hitem.2
      · simp only [hin, decide_true, Bool.and_self, if_true] at hitem
        exact Bool.false_ne_true hitem.1
  | createItem k body node nowMs w =>
    simp only [EngineOp.apply, if_pos (subscriptionIdInUse_of_find h)]
    have hforeign := notMem_subscriptionsOf hs hne h
    obtain ⟨hfull, -⟩ | ⟨i, itemId, next, old, hi, hfree, -, -, hcreate⟩ :=
      createItem_cases hs.items k body node nowMs w
    · rw [hfull]
      exact .refl id s
    · have hnew := (createdItem_new (b := b) k itemId body node nowMs w).1
      rw [hcreate]
      refine .of_items (.set hi ?_ ?_)
      · exact fun hid => Bool.false_ne_true (hfree.symm.trans hid.1)
      · exact fun hid => hforeign (hnew.subscription ▸ hid.2)
  | modifyItem k body =>
    obtain ⟨items, hitems, hedits⟩ := modifyItem_edits (b := b) k body s.items
    simp only [EngineOp.apply, hitems]
    refine .editsItem (notMem_subscriptionsOf hs hne h) hedits ?_
    rintro _ - ⟨_, _, rfl⟩
    rfl
  | setMonitoringMode mode k itemId =>
    obtain ⟨items, hitems, hedits⟩ := setMonitoringModeResult_edits mode k itemId s
    simp only [EngineOp.apply, hitems]
    exact .editsItem (notMem_subscriptionsOf hs hne h) hedits (fun _ _ heq => heq ▸ rfl)
  | deleteItem k itemId =>
    have hforeign := notMem_subscriptionsOf hs hne h
    simp only [EngineOp.apply, deleteMonitoredItemResult]
    obtain hsame | ⟨i, item, hi, hitem, hdelete⟩ := monitoredItemDelete_cases (b := b) s.items k itemId
    · rw [hsame]
      exact .refl id s
    · rw [hdelete]
      exact .of_items (.set hi (fun hid => hforeign (hitem.2.1 ▸ hid.2)) (fun hid =>
        Bool.false_ne_true hid.1))
  | addTriggerLink k triggeringId linkedId =>
    exact .editsItem (notMem_subscriptionsOf hs hne h) (addTriggerLink_edits _ _ _ _)
      (fun _ _ hlink => hlink.2.2.2 ▸ rfl)
  | removeTriggerLink k triggeringId linkedId =>
    exact .editsItem (notMem_subscriptionsOf hs hne h) (removeTriggerLink_edits _ _ _ _)
      (fun _ _ heq => heq ▸ rfl)
  | park request =>
    obtain ⟨rfl, -⟩ := h
    obtain ⟨queue, hqueue, hedits⟩ := parkPublish_edits request s
    simp only [EngineOp.apply, hqueue]
    refine ⟨.refl _, .refl _, hedits.sameOn (fun r hfree hid => ?_) (fun r r' _ heq hid => ?_)⟩
    · exact Bool.false_ne_true (hfree.symm.trans hid.1)
    · exact hne (heq ▸ hid.2)
  | sample | turn | triggerEvent | reset => cases h

theorem SessionRuns.untouched (h : SessionRuns b sessionId s t) (hne : sessionId ≠ id)
    (hs : s.Consistent b) : Untouched id s t := by
  induction h with
  | refl => exact .refl id s
  | tail hrun hstep ih =>
    obtain ⟨op, hop, rfl⟩ := hstep
    exact ih.trans (hop.untouched hne (EngineRuns.consistent hrun hs))

def subscriptionServices : List Service :=
  [.createSubscription, .modifySubscription, .deleteSubscriptions, .setPublishingMode,
    .publish, .republish, .createMonitoredItems, .modifyMonitoredItems, .deleteMonitoredItems,
    .setMonitoringMode, .setTriggering]

variable {cap : Nat} {server : Server W A}

/-- Whatever ids a request of one session names, it leaves alone all that belongs to another session. -/
theorem other_session_untouched (h : Visited b c app server) {cert : Bytes} {ch : SecureChannel}
    {req : Request} {w : W} {service : Service} {i j : Nat} {session other : Session}
    (hservice : service ∈ subscriptionServices)
    (hgate : dispatchGate b req ⟨{ server.shared with channelClientCert := cert }, ch⟩ =
      .ok (service, some (i, session)))
    (hother : server.shared.sessions[j]? = some other) (hopen : other.open = true) (hij : j ≠ i) :
    Untouched other.sessionId server.shared.subs
      (serviceDispatch b c app req ⟨{ server.shared with channelClientCert := cert }, ch⟩ w :
        Dispatched W A cap).scope.shared.subs := by
  have hwf := h.wellFormed
  have hgated := dispatchGate_eq_ok hgate
  have husable := hgated.usable i session rfl
  have hne : session.sessionId ≠ other.sessionId := fun heq =>
    hij (hwf.identifiers.id.distinct j i other session hother husable.found hopen
      husable.isOpen heq.symm)
  have hservices : service ≠ .closeSession ∧ service ≠ .closeSecureChannel := by
    constructor
    · rintro rfl
      exact absurd hservice (by decide)
    · rintro rfl
      exact absurd hservice (by decide)
  have heffect : Effect (ScopeStep b req service session.sessionId)
      (handler b c app req service (some (i, session)) : ScopeM W A cap Answer) :=
        handler_effect service (some (i, session))
  rw [serviceDispatch_scope hgate hservices.2]
  have hstep := heffect.execute req.body ⟨{ server.shared with channelClientCert := cert }, ch⟩ w
  exact (hstep.subs.sessionRuns hservices.1).untouched hne hwf.engine

open Script

def secondToken : Nat := 0x40DA1C5B

def twoSessions : Server Script Unit :=
  play (config 6 8192 none) (oneChannel 10 ++
    [deliver 10 (msg 2 (createRequest [])), deliver 10 (msg 3 (activateRequest sessionToken)),
      deliver 10 (msg 4 (createRequest [])), deliver 10 (msg 5 (activateRequest secondToken)),
      deliver 10 (msg 6 (subscribeRequest secondToken))])

def deleteForeign : Request :=
  ⟨⟨0, 1⟩, 847, (request 847 sessionToken ++ u32 1 ++ u32 1).drop 4, 7, none, none⟩

def dispatchDelete (s : Server Script Unit) : Dispatched Script Unit 256 :=
  serviceDispatch build (config 6 8192 none) application deleteForeign
    ⟨s.shared, (s.conns.getD 0 (.empty 0)).channel⟩ idle

theorem other_session_untouched_by_delete :
    let other := twoSessions.shared.sessions.getD 1 .init
    (∃ sub ∈ twoSessions.shared.subs.subscriptions, sub.Named other.sessionId 1) ∧
      Untouched other.sessionId twoSessions.shared.subs
      (dispatchDelete twoSessions).scope.shared.subs := by
  have huntouched (s : Server Script Unit) (h : Reachable build (config 6 8192 none) application s)
      (hrun : dispatchGate build deleteForeign ⟨s.shared, (s.conns.getD 0 (.empty 0)).channel⟩ =
          .ok (.deleteSubscriptions, some (0, s.shared.sessions.getD 0 .init)) ∧
        s.shared.sessions[1]? = some (s.shared.sessions.getD 1 .init) ∧
        (s.shared.sessions.getD 1 .init).open = true) :
      Untouched (s.shared.sessions.getD 1 .init).sessionId s.shared.subs
          (dispatchDelete s).scope.shared.subs :=
    other_session_untouched h.visited (by decide) hrun.1 hrun.2.1 hrun.2.2 (by decide)
  exact And.imp_right (huntouched _ (play_reachable (by decide) _)) (by decide +kernel)

end Isolation

end MicroOpcua
