import MicroOpcua.Services.RequestLaws
import MicroOpcua.Spec.Subscriptions

namespace MicroOpcua

open HandlerM Lib.StateRun Lib.Steps Lib.Table

variable {W A : Type} {cap : Nat} {b : Build} {c : Config W} {app : Application W A}

section Elements

variable {σ α π τ : Type}

/-- A request changes the tables if and only if one of its elements does: what an element changes, no
later one takes back. -/
theorem ArrayActs.same_iff {T : π → α → σ → σ → Prop} {elements : Option (π × List α)} {s t : σ}
    (I : σ → Prop) (Idle : π → α → σ → Prop) (tables : σ → τ) (μ : π → τ → Nat)
    (h : ArrayActs T elements s t)
    (hstep : ∀ p a s t, I s → T p a s t →
      I t ∧ (Idle p a s ∧ t = s ∨ ¬ Idle p a s ∧ μ p (tables t) < μ p (tables s))) (hs : I s) :
    tables t = tables s ↔ ∀ p as, elements = some (p, as) → ∀ a ∈ as, Idle p a s := by
  obtain ⟨hnone, rfl⟩ | ⟨p, as, hsome, hacts⟩ := h
  · exact iff_of_true rfl (fun p as hsome => nomatch hnone.symm.trans hsome)
  · obtain ⟨-, ⟨hidle, rfl⟩ | ⟨hactive, hlt⟩⟩ :=
      hacts.idle_or_lt I (Idle p) (fun s => μ p (tables s)) (hstep p) hs
    · refine iff_of_true rfl (fun p' as' hsome' => ?_)
      obtain ⟨rfl, rfl⟩ := Prod.mk.inj (Option.some.inj (hsome.symm.trans hsome'))
      exact hidle
    · exact iff_of_false (fun heq => (congrArg (μ p) heq).not_lt hlt) (fun hall =>
        hactive (hall p as hsome))

end Elements

section Idle

variable {s t : Subscriptions W} {sessionId : UInt32}

theorem subscriptionFind_cases (subs : List Subscription) (sessionId id : UInt32) :
    (subscriptionFind subs sessionId id = none ∧ ∀ sub ∈ subs, ¬ sub.Named sessionId id) ∨
      ∃ i sub, subscriptionFind subs sessionId id = some i ∧ subs[i]? = some sub ∧
      sub.Named sessionId id := by
  cases hfind : subscriptionFind subs sessionId id with
  | none =>
    refine .inl ⟨rfl, fun sub hsub hnamed => ?_⟩
    have hnot := List.findIdx?_eq_none_iff.mp hfind sub hsub
    simp [hnamed.1, hnamed.2.1, hnamed.2.2] at hnot
  | some i =>
    obtain ⟨sub, hi, hsub⟩ := subscriptionFind_eq_some hfind
    exact .inr ⟨i, sub, rfl, hi, hsub⟩

theorem Subscription.Named.unique (hs : s.Consistent b) {i : Nat} {sub sub' : Subscription} {id : UInt32}
    (hi : s.subscriptions[i]? = some sub) (hsub : sub.Named sessionId id) (hmem : sub' ∈ s.subscriptions)
    (hsub' : sub'.Named sessionId id) : sub' = sub := by
  obtain ⟨j, hj⟩ := List.mem_iff_getElem?.mp hmem
  obtain rfl := hs.subscription_eq hi hj hsub.1 hsub'.1 (hsub.2.2.trans hsub'.2.2.symm)
  exact Option.some.inj (hj.symm.trans hi)

theorem setPublishingMode_idle_or_lt (hs : s.Consistent b) (enabled : Bool) (id : UInt32) :
    ((∀ sub ∈ s.subscriptions, sub.Named sessionId id → sub.publishingEnabled = enabled) ∧
        (setPublishingModeResult sessionId enabled id s).2 = s) ∨
      (¬ ∀ sub ∈ s.subscriptions, sub.Named sessionId id → sub.publishingEnabled = enabled) ∧
        (setPublishingModeResult sessionId enabled id s).2.subscriptions.countP (fun sub =>
          sub.publishingEnabled != enabled) <
              s.subscriptions.countP (fun sub => sub.publishingEnabled != enabled) := by
  simp only [setPublishingModeResult, subscriptionUpdate]
  obtain ⟨hfind, hnone⟩ | ⟨i, sub, hfind, hi, hsub⟩ :=
    subscriptionFind_cases s.subscriptions sessionId id
  · rw [hfind]
    exact .inl ⟨fun sub hmem hsub => absurd hsub (hnone sub hmem), rfl⟩
  · rw [hfind]
    dsimp only
    rw [modify_eq_set hi]
    by_cases hsame : sub.publishingEnabled = enabled
    · refine .inl ⟨fun sub' hmem hsub' => ?_, ?_⟩
      · rw [hsub.unique hs hi hmem hsub']
        exact hsame
      · obtain ⟨hlt, rfl⟩ := List.getElem?_eq_some_iff.mp hi
        subst hsame
        rw [List.set_getElem_self]
    · refine .inr ⟨fun hall => hsame (hall sub (List.mem_of_getElem? hi) hsub), ?_⟩
      exact countP_set_lt hi (by simpa using hsame) (by simp)

theorem deleteSubscription_idle_or_lt (s : Subscriptions W) (id : UInt32) :
    ((∀ sub ∈ s.subscriptions, ¬ sub.Named sessionId id) ∧ (subscriptionDelete b s sessionId id).2 = s) ∨
      (¬ ∀ sub ∈ s.subscriptions, ¬ sub.Named sessionId id) ∧
        (subscriptionDelete b s sessionId id).2.subscriptions.countP (·.inUse) <
        s.subscriptions.countP (·.inUse) := by
  simp only [subscriptionDelete]
  obtain ⟨hfind, hnone⟩ | ⟨i, sub, hfind, hi, hsub⟩ :=
    subscriptionFind_cases s.subscriptions sessionId id
  · rw [hfind]
    exact .inl ⟨hnone, rfl⟩
  · rw [hfind]
    exact .inr ⟨fun hall => hall sub (List.mem_of_getElem? hi) hsub, countP_set_lt hi hsub.1 rfl⟩

end Idle

section Items

variable {t u : ItemTable W} {subId : UInt32}

theorem findMonitoredItemInSubscription_cases (items : ItemList W) (subId id : UInt32) :
    (findMonitoredItemInSubscription items subId id = none ∧ ∀ item ∈ items, ¬ item.Named subId id) ∨
      ∃ i item, findMonitoredItemInSubscription items subId id = some i ∧ items[i]? = some item ∧
        item.Named subId id := by
  cases hfind : findMonitoredItemInSubscription items subId id with
  | none =>
    refine .inl ⟨rfl, fun item hitem hnamed => ?_⟩
    have hnot := List.findIdx?_eq_none_iff.mp hfind item hitem
    simp [hnamed.1, hnamed.2.1, hnamed.2.2] at hnot
  | some i =>
    obtain ⟨item, hi, hitem⟩ := findMonitoredItemInSubscription_eq_some hfind
    exact .inr ⟨i, item, rfl, hi, hitem⟩

theorem ItemTable.Consistent.find_eq (h : t.Consistent b) (subId id : UInt32) :
    findMonitoredItem t subId id = findMonitoredItemInSubscription t.monitoredItems subId id := by
  rw [findMonitoredItem, h.active, findMonitoredItemFrom_eq]
  simp

theorem MonitoredItem.Named.unique (h : t.Consistent b) {i : Nat}
    {item item' : MonitoredItem W} {id : UInt32} (hi : t.monitoredItems[i]? = some item)
    (hitem : item.Named subId id) (hmem : item' ∈ t.monitoredItems)
    (hitem' : item'.Named subId id) : item' = item := by
  obtain ⟨j, hj⟩ := List.mem_iff_getElem?.mp hmem
  obtain rfl := h.item_eq hi hj hitem.1 hitem'.1 (hitem.2.2.trans hitem'.2.2.symm)
  exact Option.some.inj (hj.symm.trans hi)

theorem setMonitoringMode_idle_or_lt {s : Subscriptions W} (hs : s.items.Consistent b)
    (mode id : UInt32) :
    ((∀ item ∈ s.items.monitoredItems, item.Named subId id → item.monitoringMode = mode.toUInt8) ∧
        (setMonitoringModeResult mode subId id s).2 = s) ∨
      (¬ ∀ item ∈ s.items.monitoredItems, item.Named subId id → item.monitoringMode = mode.toUInt8) ∧
        (setMonitoringModeResult mode subId id s).2.items.monitoredItems.countP
            (fun item => item.monitoringMode != mode.toUInt8) <
          s.items.monitoredItems.countP (fun item => item.monitoringMode != mode.toUInt8) := by
  simp only [setMonitoringModeResult, hs.find_eq]
  obtain ⟨hfind, hnone⟩ | ⟨i, item, hfind, hi, hitem⟩ :=
    findMonitoredItemInSubscription_cases s.items.monitoredItems subId id
  · rw [hfind]
    exact .inl ⟨fun item hmem hitem => absurd hitem (hnone item hmem), rfl⟩
  · rw [hfind]
    dsimp only
    rw [modify_eq_set hi]
    by_cases hsame : item.monitoringMode = mode.toUInt8
    · refine .inl ⟨fun item' hmem hitem' => ?_, ?_⟩
      · rw [hitem.unique hs hi hmem hitem']
        exact hsame
      · obtain ⟨hlt, rfl⟩ := List.getElem?_eq_some_iff.mp hi
        rw [← hsame, List.set_getElem_self]
    · refine .inr ⟨fun hall => hsame (hall item (List.mem_of_getElem? hi) hitem), ?_⟩
      exact countP_set_lt hi (by simpa using hsame) (by simp)

theorem deleteItem_idle_or_lt (s : Subscriptions W) (id : UInt32) :
    ((∀ item ∈ s.items.monitoredItems, ¬ item.Named subId id) ∧
        (deleteMonitoredItemResult b subId id s).2 = s) ∨
      (¬ ∀ item ∈ s.items.monitoredItems, ¬ item.Named subId id) ∧
        (deleteMonitoredItemResult b subId id s).2.items.monitoredItems.countP (·.inUse) <
          s.items.monitoredItems.countP (·.inUse) := by
  simp only [deleteMonitoredItemResult, monitoredItemDelete]
  obtain ⟨hfind, hnone⟩ | ⟨i, item, hfind, hi, hitem⟩ :=
    findMonitoredItemInSubscription_cases s.items.monitoredItems subId id
  · simp only [findMonitoredItemInSubscription] at hfind
    rw [hfind]
    exact .inl ⟨hnone, rfl⟩
  · simp only [findMonitoredItemInSubscription] at hfind
    rw [hfind]
    exact .inr ⟨fun hall => hall item (List.mem_of_getElem? hi) hitem, countP_set_lt hi hitem.1 rfl⟩

theorem createsItem_idle_or_lt {resolve : NodeId → Option (Node W)} {body : MonitoredItemCreateBody}
    (ht : t.Consistent b) (h : CreatesItem b resolve subId body t u) : u.Consistent b ∧
      (((∀ node, createItemCheck b body (resolve body.nodeId) = .ok node →
          ∀ item ∈ t.monitoredItems, item.inUse = true) ∧ u = t) ∨
        (¬ ∀ node, createItemCheck b body (resolve body.nodeId) = .ok node →
          ∀ item ∈ t.monitoredItems, item.inUse = true) ∧
          u.monitoredItems.countP (fun item => !item.inUse) <
              t.monitoredItems.countP (fun item => !item.inUse)) := by
  unfold CreatesItem at h
  cases hcheck : createItemCheck b body (resolve body.nodeId) with
  | error e =>
    rw [hcheck] at h
    obtain rfl : u = t := h
    exact ⟨ht, .inl ⟨nofun, rfl⟩⟩
  | ok node =>
    rw [hcheck] at h
    obtain ⟨clauses, nowMs, w, rfl⟩ := h
    obtain ⟨hfull, hused⟩ | ⟨i, id, next, old, hi, hfree, hnonzero, hfresh, hcreate⟩ :=
      createItem_cases ht subId { body with selectClauses := clauses } node nowMs w
    · rw [hfull]
      exact ⟨ht, .inl ⟨fun _ _ => hused, rfl⟩⟩
    · obtain ⟨hnew, hid⟩ :=
        createdItem_new (b := b) subId id { body with selectClauses := clauses } node nowMs w
      rw [hcreate]
      refine ⟨ht.create hi hfree hnew.inUse (by rwa [hid]) (by rwa [hid]) next,
        .inr ⟨fun hall => ?_, ?_⟩⟩
      · rw [hall node rfl old (List.mem_of_getElem? hi)] at hfree
        cases hfree
      · exact countP_set_lt hi (by simp [hfree]) (by simp [hnew.inUse])

end Items

section Modify

variable {t u : ItemTable W} {subId : UInt32}

def ModifyBody.Modifies (subscriptionId : UInt32) (item : MonitoredItem W) (body : ModifyBody) : Prop :=
  item.Named subscriptionId body.monitoredItemId ∧ body.filterResult = good ∧
    (body.hasDatachangeFilter = true → item.attributeId = 13)

instance (item : MonitoredItem W) : DecidablePred (ModifyBody.Modifies subscriptionId item) :=
  fun _ => inferInstanceAs (Decidable ((_ ∧ _ ∧ _) ∧ _ ∧ (_ → _)))

def MonitoredItem.modified (b : Build) (subscriptionId : UInt32) (item : MonitoredItem W)
    (body : ModifyBody) : MonitoredItem W :=
  if body.Modifies subscriptionId item then
    { item with
      samplingIntervalMs := publishingIntervalBitsToMs b body.samplingIntervalBits
      clientHandle := body.clientHandle }
  else item

def ItemTable.mapItems (f : MonitoredItem W → MonitoredItem W) (t : ItemTable W) : ItemTable W :=
  { t with monitoredItems := t.monitoredItems.map f }

theorem ItemTable.mapItems_eq_self {f : MonitoredItem W → MonitoredItem W}
    (h : ∀ item ∈ t.monitoredItems, f item = item) : t.mapItems f = t := by
  have hitems : t.monitoredItems.map f = t.monitoredItems := by
    rw [List.map_congr_left h, List.map_id']
  rw [mapItems, hitems]

theorem modifyItem_eq (h : t.Consistent b) (body : ModifyBody) :
    (modifyItem b subId body t).2 = t.mapItems (·.modified b subId body) := by
  have hsame (hother : ∀ item ∈ t.monitoredItems, ¬ body.Modifies subId item) :
      t = t.mapItems (·.modified b subId body) :=
    (ItemTable.mapItems_eq_self (fun item hitem => if_neg (hother item hitem))).symm
  simp only [modifyItem, h.find_eq]
  obtain ⟨hfind, hnone⟩ | ⟨i, item, hfind, hi, hitem⟩ :=
    findMonitoredItemInSubscription_cases t.monitoredItems subId body.monitoredItemId
  · rw [hfind]
    exact hsame (fun item hmem hmodifies => hnone item hmem hmodifies.1)
  · have hunique {item' : MonitoredItem W} (hmem : item' ∈ t.monitoredItems)
        (hmodifies : body.Modifies subId item') : item' = item := hitem.unique h hi hmem hmodifies.1
    rw [hfind]
    dsimp only
    by_cases hfilter : body.filterResult = good
    · rw [check, dif_pos hfilter, hi, Option.any_some]
      dsimp only
      by_cases hallowed : body.hasDatachangeFilter = true → item.attributeId = 13
      · have hmodifies : body.Modifies subId item := ⟨hitem, hfilter, hallowed⟩
        have hpass : ¬ (body.hasDatachangeFilter && decide (item.attributeId ≠ 13)) = true := by
          simpa using hallowed
        rw [if_neg hpass]
        refine congrArg (fun items => ({ t with monitoredItems := items } : ItemTable W))
          (modify_eq_map hi ?_ ?_)
        · exact if_pos hmodifies
        · intro j item' hj hne
          refine if_neg (fun hmodifies' => hne ?_)
          exact h.item_eq hj hi hmodifies'.1.1 hitem.1 (hmodifies'.1.2.2.trans hitem.2.2.symm)
      · have hstop : (body.hasDatachangeFilter && decide (item.attributeId ≠ 13)) = true := by
          simpa using hallowed
        rw [if_pos hstop]
        exact hsame (fun item' hmem hmodifies => hallowed (hunique hmem hmodifies ▸ hmodifies.2.2))
    · rw [check, dif_neg hfilter]
      exact hsame (fun _ _ hmodifies => hfilter hmodifies.2.1)

theorem modified_fields (subId : UInt32) (item : MonitoredItem W) (bodies : List ModifyBody) :
    ∃ sampling handle, bodies.foldl (·.modified b subId) item =
      { item with samplingIntervalMs := sampling, clientHandle := handle } := by
  induction bodies using List.reverseRecOn with
  | nil => exact ⟨item.samplingIntervalMs, item.clientHandle, rfl⟩
  | append_singleton bodies body ih =>
    obtain ⟨sampling, handle, hfold⟩ := ih
    rw [List.foldl_concat, hfold, MonitoredItem.modified]
    split
    · exact ⟨_, _, rfl⟩
    · exact ⟨_, _, rfl⟩

/-- A list of modify requests leaves an item as it is when the last one carried out on it repeats its
values. -/
theorem foldl_modified_eq_iff (item : MonitoredItem W) (bodies : List ModifyBody) :
    bodies.foldl (·.modified b subId) item = item ↔
      ∀ body, (bodies.filter (ModifyBody.Modifies subId item ·)).getLast? = some body →
        publishingIntervalBitsToMs b body.samplingIntervalBits = item.samplingIntervalMs ∧
          body.clientHandle = item.clientHandle := by
  induction bodies using List.reverseRecOn with
  | nil => exact iff_of_true rfl nofun
  | append_singleton bodies body ih =>
    obtain ⟨sampling, handle, hfold⟩ := modified_fields (b := b) subId item bodies
    rw [List.foldl_concat, List.filter_append]
    by_cases hmodifies : body.Modifies subId item
    · have hlast : (bodies.foldl (·.modified b subId) item).modified b subId body =
          { item with
            samplingIntervalMs := publishingIntervalBitsToMs b body.samplingIntervalBits
            clientHandle := body.clientHandle } := by
        rw [hfold]
        exact if_pos hmodifies
      rw [hlast, List.filter_cons_of_pos (by simpa using hmodifies), List.filter_nil,
        List.getLast?_concat]
      constructor
      · intro heq body' hbody'
        obtain rfl := Option.some.inj hbody'
        exact ⟨congrArg MonitoredItem.samplingIntervalMs heq, congrArg MonitoredItem.clientHandle heq⟩
      · intro hvalues
        obtain ⟨hsampling, hhandle⟩ := hvalues body rfl
        rw [hsampling, hhandle]
    · have hlast : (bodies.foldl (·.modified b subId) item).modified b subId body =
          bodies.foldl (·.modified b subId) item := by
        rw [hfold]
        exact if_neg hmodifies
      rw [hlast, List.filter_cons_of_neg (by simpa using hmodifies), List.filter_nil, List.append_nil]
      exact ih

theorem modifyItems_eq (ht : t.Consistent b) {bodies : List ModifyBody}
    (h : InTurn (fun body t u => u = (modifyItem b subId body t).2) bodies t u) :
    u = t.mapItems (fun item => bodies.foldl (·.modified b subId) item) := by
  induction bodies generalizing t with
  | nil =>
    obtain rfl : u = t := h
    exact (ItemTable.mapItems_eq_self (fun _ _ => rfl)).symm
  | cons body bodies ih =>
    obtain ⟨v, rfl, hrest⟩ := h
    have hmodified : (t.mapItems (·.modified b subId body)).Consistent b := by
      refine ht.congr ?_ rfl
      rw [ItemTable.mapItems, List.map_map]
      refine List.map_congr_left (fun item _ => ?_)
      simp only [Function.comp_apply, MonitoredItem.modified]
      split <;> rfl
    rw [modifyItem_eq ht] at hrest
    rw [ih hmodified hrest]
    simp only [ItemTable.mapItems, List.map_map]
    rfl

end Modify

section Dispatch

variable {req : Request}

def arrayServices : List Service :=
  [.createMonitoredItems, .modifyMonitoredItems, .setMonitoringMode, .setPublishingMode,
    .deleteMonitoredItems, .deleteSubscriptions]

/-- No element the handler gets to changes anything: the ids of SetPublishingMode and SetMonitoringMode
name what has the mode already, those of the delete services name nothing, the items to create are
refused or find no free slot, and the last modification of each item repeats its values. -/
def ElementsIdle (b : Build) (resolve : NodeId → Option (Node W)) (cap : Nat)
    (sessionId : UInt32) (body : Bytes) (s : Subscriptions W) : Service → Prop
  | .setPublishingMode => ∀ enabled ids,
      arrayElements (idPreamble (unchecked false readBoolean))
      (fun _ => none) readUInt32 4 cap s.subscriptions sessionId
        body = some (enabled, ids) →
      ∀ id ∈ ids, ∀ sub ∈ s.subscriptions, sub.Named sessionId id → sub.publishingEnabled = enabled
  | .deleteSubscriptions => ∀ u ids,
      arrayElements (idPreamble (pure ()))
      (fun _ => none) readUInt32 4 cap s.subscriptions sessionId body =
        some (u, ids) →
      ∀ id ∈ ids, ∀ sub ∈ s.subscriptions, ¬ sub.Named sessionId id
  | .setMonitoringMode => ∀ p ids,
      arrayElements (idPreamble readMonitoringMode)
      (fun p => some p.1) readUInt32 4 cap s.subscriptions sessionId body =
        some (p, ids) →
      ∀ id ∈ ids, ∀ item ∈ s.items.monitoredItems, item.Named p.1 id → item.monitoringMode = p.2.toUInt8
  | .deleteMonitoredItems => ∀ subscriptionId ids,
      arrayElements (idPreamble (unchecked 0 readUInt32)) some readUInt32 4 cap
      s.subscriptions sessionId body =
        some (subscriptionId, ids) →
      ∀ id ∈ ids, ∀ item ∈ s.items.monitoredItems, ¬ item.Named subscriptionId id
  | .createMonitoredItems => ∀ subscriptionId bodies,
      arrayElements itemsPreamble some (readMonitoredItemCreateBody b noClauses) 23 cap
      s.subscriptions sessionId body =
        some (subscriptionId, bodies) →
      ∀ body ∈ bodies, ∀ node, createItemCheck b body (resolve body.nodeId) = .ok node →
        ∀ item ∈ s.items.monitoredItems, item.inUse = true
  | .modifyMonitoredItems => ∀ subscriptionId bodies,
      arrayElements itemsPreamble some (readModifyBody b) 19 cap s.subscriptions sessionId body =
        some (subscriptionId, bodies) →
      ∀ item ∈ s.items.monitoredItems, ∀ last,
        (bodies.filter (ModifyBody.Modifies subscriptionId item ·)).getLast? = some last →
        publishingIntervalBitsToMs b last.samplingIntervalBits = item.samplingIntervalMs ∧
          last.clientHandle = item.clientHandle
  | _ => True

def Subscriptions.tables (s : Subscriptions W) : List Subscription × ItemList W :=
  (s.subscriptions, s.items.monitoredItems)

section Services

variable (resolve : NodeId → Option (Node W)) (caller : Caller) (body : Bytes)
    {s : Subscriptions W} (w : W)

theorem handleSetPublishingMode_tables_iff (hs : s.Consistent b) :
    ((handleSetPublishingMode caller : SubscriptionM W cap Unit).run.run ⟨.init body, .init, s,
      w⟩).2.state.tables = s.tables ↔
        ElementsIdle b resolve cap caller.sessionId body s .setPublishingMode := by
  refine ArrayActs.same_iff (·.Consistent b)
    (fun enabled id s => ∀ sub ∈ s.subscriptions, sub.Named caller.sessionId id →
      sub.publishingEnabled = enabled)
    Subscriptions.tables (fun enabled tables =>
      tables.1.countP (fun sub => sub.publishingEnabled != enabled))
    (handleSetPublishingMode_acts caller body s w) ?_ hs
  rintro enabled id s t hs rfl
  exact ⟨(EngineOp.setPublishingMode caller.sessionId enabled id).apply_consistent hs,
    setPublishingMode_idle_or_lt hs enabled id⟩

theorem handleDeleteSubscriptions_tables_iff (hs : s.Consistent b) :
    ((handleDeleteSubscriptions b caller : SubscriptionM W cap Unit).run.run ⟨.init body, .init, s,
      w⟩).2.state.tables = s.tables ↔
        ElementsIdle b resolve cap caller.sessionId body s .deleteSubscriptions := by
  refine ArrayActs.same_iff (·.Consistent b)
    (fun _ id s => ∀ sub ∈ s.subscriptions, ¬ sub.Named caller.sessionId id)
    Subscriptions.tables (fun _ tables => tables.1.countP (·.inUse))
    (handleDeleteSubscriptions_acts caller body s w) ?_ hs
  rintro _ id s t hs rfl
  exact ⟨(EngineOp.deleteSubscription caller.sessionId id).apply_consistent hs,
    deleteSubscription_idle_or_lt s id⟩

theorem handleSetMonitoringMode_tables_iff (hs : s.Consistent b) :
    ((handleSetMonitoringMode caller : SubscriptionM W cap Unit).run.run ⟨.init body, .init, s,
      w⟩).2.state.tables = s.tables ↔
        ElementsIdle b resolve cap caller.sessionId body s .setMonitoringMode := by
  refine ArrayActs.same_iff (·.Consistent b)
    (fun p id s => ∀ item ∈ s.items.monitoredItems, item.Named p.1 id →
      item.monitoringMode = p.2.toUInt8)
    Subscriptions.tables (fun p tables =>
      tables.2.countP (fun item => item.monitoringMode != p.2.toUInt8))
    (handleSetMonitoringMode_acts caller body s w) ?_ hs
  rintro p id s t hs rfl
  exact ⟨(EngineOp.setMonitoringMode p.2 p.1 id).apply_consistent hs,
    setMonitoringMode_idle_or_lt hs.items p.2 id⟩

theorem handleDeleteMonitoredItems_tables_iff (hs : s.Consistent b) :
    ((handleDeleteMonitoredItems b caller : SubscriptionM W cap Unit).run.run ⟨.init body, .init, s,
      w⟩).2.state.tables = s.tables ↔
        ElementsIdle b resolve cap caller.sessionId body s .deleteMonitoredItems := by
  refine ArrayActs.same_iff (·.Consistent b)
    (fun subId id s => ∀ item ∈ s.items.monitoredItems, ¬ item.Named subId id)
    Subscriptions.tables (fun _ tables => tables.2.countP (·.inUse))
    (handleDeleteMonitoredItems_acts caller body s w) ?_ hs
  rintro subId id s t hs rfl
  exact ⟨(EngineOp.deleteItem subId id).apply_consistent hs, deleteItem_idle_or_lt s id⟩

theorem handleCreateMonitoredItems_tables_iff (p : Platform W) (hs : s.Consistent b) :
    ((handleCreateMonitoredItems b p resolve s.subscriptions caller : ItemM W cap Unit).run.run
        ⟨.init body, .init, s.items, w⟩).2.state.monitoredItems = s.items.monitoredItems ↔
      ElementsIdle b resolve cap caller.sessionId body s .createMonitoredItems := by
  refine ArrayActs.same_iff (·.Consistent b)
    (fun _ body t => ∀ node, createItemCheck b body (resolve body.nodeId) = .ok node →
      ∀ item ∈ t.monitoredItems, item.inUse = true)
    ItemTable.monitoredItems (fun _ items => items.countP (fun item => !item.inUse))
    (handleCreateMonitoredItems_acts p resolve caller s.subscriptions body s.items w) ?_ hs.items
  exact fun _ body t u ht hcreates => createsItem_idle_or_lt ht hcreates

theorem handleModifyMonitoredItems_tables_iff (hs : s.Consistent b) :
    ((handleModifyMonitoredItems b s.subscriptions caller : ItemM W cap Unit).run.run
        ⟨.init body, .init, s.items, w⟩).2.state.monitoredItems = s.items.monitoredItems ↔
      ElementsIdle b resolve cap caller.sessionId body s .modifyMonitoredItems := by
  unfold ElementsIdle
  obtain ⟨hnone, hsame⟩ | ⟨subId, bodies, hsome, hacts⟩ :=
    handleModifyMonitoredItems_acts (b := b) caller s.subscriptions body s.items w
  · rw [hsame, hnone]
    exact iff_of_true rfl nofun
  · have hitems :
      (s.items.mapItems (fun item => bodies.foldl (·.modified b subId) item)).monitoredItems =
        s.items.monitoredItems ↔
          ∀ item ∈ s.items.monitoredItems, bodies.foldl (·.modified b subId) item = item := by
      rw [ItemTable.mapItems, ← List.map_id' s.items.monitoredItems, List.map_map, List.map_inj_left]
      simp
    rw [modifyItems_eq hs.items hacts, hitems, hsome]
    simp only [foldl_modified_eq_iff]
    constructor
    · rintro hvalues _ _ heq
      obtain ⟨rfl, rfl⟩ := Prod.mk.inj (Option.some.inj heq)
      exact hvalues
    · exact fun hvalues => hvalues subId bodies rfl

end Services

theorem onSubs_subs (m : SubscriptionM W cap Unit) (answer : Answer)
    (s : HandlerState (Scope W A) W cap) :
    ((onSubs m >>= fun _ => pure answer).run.run s).2.state.shared.subs =
      (m.run.run ⟨s.reader, s.writer, s.state.shared.subs, s.world⟩).2.state := by
  rw [run_bind_pure]
  rfl

theorem onItems_subs (m : ItemM W cap Unit) (answer : Answer) (s : HandlerState (Scope W A) W cap) :
    ((onItems m >>= fun _ => pure answer).run.run s).2.state.shared.subs = { s.state.shared.subs with
        items := (m.run.run ⟨s.reader, s.writer, s.state.shared.subs.items, s.world⟩).2.state } := by
  rw [run_bind_pure]
  rfl

theorem tables_items_iff (s : Subscriptions W) (items : ItemTable W) :
    ({ s with items := items } : Subscriptions W).tables = s.tables ↔
      items.monitoredItems = s.items.monitoredItems := by
  simp [Subscriptions.tables]

theorem handler_tables_iff {service : Service} (hservice : service ∈ arrayServices) {s : Scope W A}
    (hs : s.shared.subs.Consistent b) (i : Nat) (session : Session) (w : W) :
    ((handler b c app req service (some (i, session)) : ScopeM W A cap Answer).execute req.body s
      w).2.1.shared.subs.tables =
        s.shared.subs.tables ↔
      ElementsIdle b (app.resolveNode s.shared.app) cap session.sessionId req.body
          s.shared.subs service := by
  rw [execute_state]
  simp only [arrayServices, List.mem_cons, List.not_mem_nil, or_false] at hservice
  obtain rfl | rfl | rfl | rfl | rfl | rfl := hservice <;> simp only [handler, run_state_bind]
  · rw [onItems_subs, tables_items_iff]
    exact handleCreateMonitoredItems_tables_iff _ (req.caller session.sessionId) req.body w c.platform hs
  · rw [onItems_subs, tables_items_iff]
    exact handleModifyMonitoredItems_tables_iff _ (req.caller session.sessionId) req.body w hs
  · rw [onSubs_subs]
    exact handleSetMonitoringMode_tables_iff _ (req.caller session.sessionId) req.body w hs
  · rw [onSubs_subs]
    exact handleSetPublishingMode_tables_iff _ (req.caller session.sessionId) req.body w hs
  · rw [onSubs_subs]
    exact handleDeleteMonitoredItems_tables_iff _ (req.caller session.sessionId) req.body w hs
  · rw [onSubs_subs]
    exact handleDeleteSubscriptions_tables_iff _ (req.caller session.sessionId) req.body w hs

variable {server : Server W A}

/-- A request that fails leaves the tables as they are if and only if no element before the failure takes
effect. -/
theorem failed_request_keeps_tables_iff (h : Visited b c app server) {cert : Bytes}
    {ch : SecureChannel} {w : W} {service : Service} {i : Nat} {session : Session}
    (hservice : service ∈ arrayServices)
    (hgate : dispatchGate b req ⟨{ server.shared with channelClientCert := cert }, ch⟩ =
      .ok (service, some (i, session))) :
    let d : Dispatched W A cap :=
  serviceDispatch b c app req ⟨{ server.shared with channelClientCert := cert }, ch⟩ w
    (∀ e, d.result = .error e → d.scope.shared.subs.tables = server.shared.subs.tables) ↔
      ∀ e, d.result = .error e →
        ElementsIdle b (app.resolveNode server.shared.app) cap session.sessionId req.body
        server.shared.subs service := by
  intro d
  have hhandled : service ≠ .closeSecureChannel := by
    rintro rfl
    exact absurd hservice (by decide)
  have hscope : d.scope = _ := serviceDispatch_scope hgate hhandled
  refine forall_congr' (fun e => imp_congr_right (fun _ => ?_))
  rw [hscope]
  exact handler_tables_iff hservice h.wellFormed.engine i session w

end Dispatch

section Truncated

open Script

def oneSubscription : Server Script Unit :=
  play (config 6 8192 none) (oneChannel 10 ++
    [deliver 10 (msg 2 (createRequest [])), deliver 10 (msg 3 (activateRequest sessionToken)),
      deliver 10 (msg 4 (subscribeRequest sessionToken))])

def truncatedDelete (id : Nat) : Request :=
  ⟨⟨0, 1⟩, 847, (request 847 sessionToken ++ u32 2 ++ u32 id).drop 4, 7, none, none⟩

def dispatchTruncated (id : Nat) (s : Server Script Unit) : Dispatched Script Unit 256 :=
  serviceDispatch build (config 6 8192 none) application (truncatedDelete id)
    ⟨s.shared, (s.conns.getD 0 (.empty 0)).channel⟩ idle

theorem failed_request_keeps_tables_unknown_id :
    (∃ e, (dispatchTruncated 5 oneSubscription).result = .error e) ∧
      ∀ e, (dispatchTruncated 5 oneSubscription).result = .error e →
        (dispatchTruncated 5 oneSubscription).scope.shared.subs.tables =
          oneSubscription.shared.subs.tables := by
  have hkeeps (s : Server Script Unit) (h : Reachable build (config 6 8192 none) application s)
      (hrun : (dispatchTruncated 5 s).result = .error .decodingError ∧
        dispatchGate build (truncatedDelete 5) ⟨s.shared, (s.conns.getD 0 (.empty 0)).channel⟩ =
          .ok (.deleteSubscriptions, some (0, s.shared.sessions.getD 0 .init)) ∧
        arrayElements (idPreamble (pure ())) (fun _ => none) readUInt32 4 256 s.shared.subs.subscriptions
          (s.shared.sessions.getD 0 .init).sessionId (truncatedDelete 5).body = some ((), [5]) ∧
        ∀ sub ∈ s.shared.subs.subscriptions, ¬ sub.Named (s.shared.sessions.getD 0 .init).sessionId 5) :
      (∃ e, (dispatchTruncated 5 s).result = .error e) ∧ ∀ e, (dispatchTruncated 5 s).result = .error e →
        (dispatchTruncated 5 s).scope.shared.subs.tables = s.shared.subs.tables := by
    obtain ⟨hresult, hgate, hids, hunknown⟩ := hrun
    refine ⟨⟨_, hresult⟩, ?_⟩
    refine (failed_request_keeps_tables_iff h.visited (by decide) hgate).mpr
      (fun _ _ _ ids hsome id hid => ?_)
    obtain ⟨-, rfl⟩ := Prod.mk.inj (Option.some.inj (hids.symm.trans hsome))
    obtain rfl := List.mem_singleton.mp hid
    exact hunknown
  exact hkeeps _ (play_reachable (by decide) _) (by decide +kernel)

/-- The id that the request has names the subscription of the session: the client gets a fault, the
subscription is gone. -/
theorem failed_request_deletes_subscription :
    Reachable build (config 6 8192 none) application oneSubscription ∧
      dispatchGate build (truncatedDelete 1)
      ⟨oneSubscription.shared, (oneSubscription.conns.getD 0 (.empty 0)).channel⟩ =
        .ok (.deleteSubscriptions, some (0, oneSubscription.shared.sessions.getD 0 .init)) ∧
      ¬ ∀ e, (dispatchTruncated 1 oneSubscription).result = .error e →
        (dispatchTruncated 1 oneSubscription).scope.shared.subs.tables =
          oneSubscription.shared.subs.tables := by
  refine ⟨play_reachable (by decide) _, And.imp_right (fun hrun hkeeps => ?_) (by decide +kernel :
    dispatchGate build (truncatedDelete 1) ⟨oneSubscription.shared,
      (oneSubscription.conns.getD 0 (.empty 0)).channel⟩ =
        .ok (.deleteSubscriptions, some (0, oneSubscription.shared.sessions.getD 0 .init)) ∧
      (dispatchTruncated 1 oneSubscription).result = .error .decodingError ∧
      (dispatchTruncated 1 oneSubscription).scope.shared.subs.tables.1.map (·.inUse) ≠
        oneSubscription.shared.subs.tables.1.map (·.inUse))⟩
  exact hrun.2 (congrArg (fun tables => tables.1.map (·.inUse)) (hkeeps _ hrun.1))

end Truncated

section Publish

variable {s : Subscriptions W} {sessionId : UInt32}

def acknowledgements (b : Build) (body : Bytes) : List (UInt32 × UInt32) :=
  match (do
      let _ ← requestHeaderDecode
      readInt32 : ReadM Int).run.run (.init body) with
  | (.error _, _) => []
  | (.ok count, r) => if count > b.maxPublishAcks then [] else reached readIdPair 0 count.toNat r 0

def Subscription.Retains (sequenceNumber : UInt32) (sub : Subscription) : Prop :=
  sub.retransmit.valid = true ∧ sub.retransmit.sequenceNumber = sequenceNumber

def Subscriptions.retained (s : Subscriptions W) : List Retransmit :=
  s.subscriptions.map Subscription.retransmit

theorem acknowledge_idle_or_lt (hs : s.Consistent b) (id number : UInt32) :
    ((∀ sub ∈ s.subscriptions, sub.Named sessionId id → ¬ sub.Retains number) ∧
        (acknowledge sessionId id number s).2 = s) ∨
      (¬ ∀ sub ∈ s.subscriptions, sub.Named sessionId id → ¬ sub.Retains number) ∧
        (acknowledge sessionId id number s).2.retained.countP (·.valid) <
        s.retained.countP (·.valid) := by
  simp only [acknowledge, subscriptionAcknowledge]
  obtain ⟨hfind, hnone⟩ | ⟨i, sub, hfind, hi, hsub⟩ :=
    subscriptionFind_cases s.subscriptions sessionId id
  · rw [hfind]
    exact .inl ⟨fun sub hmem hsub => absurd hsub (hnone sub hmem), rfl⟩
  · rw [hfind]
    dsimp only
    rw [hi, Option.any_some, modify_eq_set hi]
    by_cases hretains : sub.Retains number
    · rw [if_pos (by simpa [Subscription.Retains] using hretains)]
      refine .inr ⟨fun hall => hall sub (List.mem_of_getElem? hi) hsub hretains, ?_⟩
      simp only [Subscriptions.retained, List.countP_map]
      exact countP_set_lt hi hretains.1 rfl
    · rw [if_neg (by simpa [Subscription.Retains] using hretains)]
      refine .inl ⟨fun sub' hmem hsub' => ?_, rfl⟩
      rw [hsub.unique hs hi hmem hsub']
      exact hretains

theorem parkPublish_retained (request : PublishRequest) (s : Subscriptions W) :
    (parkPublish request s).2.retained = s.retained := by
  unfold parkPublish
  split
  · rfl
  · rfl

theorem readAcknowledgements_acts (n : Nat) (s : HandlerState (Subscriptions W) W cap) :
    InTurn (fun ack s t => t = (acknowledge sessionId ack.1 ack.2 s).2)
      (reached readIdPair 0 n s.reader 0) s.state
      ((readAcknowledgements sessionId n).run.run s).2.state := by
  induction n generalizing s with
  | zero => rfl
  | succ n ih =>
    unfold readAcknowledgements
    rw [run_decode_bind, reached]
    obtain ⟨e | ack, r⟩ := readIdPair.run.run s.reader
    · rfl
    · dsimp only
      rw [run_update_bind, if_neg (Nat.lt_irrefl 0), Nat.sub_zero, run_bind_pure]
      exact ⟨_, rfl, ih ⟨r, s.writer, _, s.world⟩⟩

theorem handlePublish_acts (p : Platform W) (caller : Caller) (body : Bytes)
    (s : Subscriptions W) (w : W) :
    ∃ t, InTurn (fun ack s t => t = (acknowledge caller.sessionId ack.1 ack.2 s).2)
      (acknowledgements b body) s t ∧
      ((handlePublish b p caller : SubscriptionM W cap Unit).run.run ⟨.init body, .init, s,
        w⟩).2.state.retained = t.retained := by
  unfold handlePublish acknowledgements
  rw [run_decode_bind, ExceptT.run_bind, run_bind]
  obtain ⟨e | req, r⟩ := requestHeaderDecode.run.run (.init body)
  · exact ⟨s, rfl, rfl⟩
  · dsimp only
    rw [run_decode_bind]
    dsimp only
    obtain ⟨e | count, r⟩ := readInt32.run.run r
    · exact ⟨s, rfl, rfl⟩
    · dsimp only
      by_cases hmany : count > b.maxPublishAcks
      · rw [if_pos hmany, if_pos hmany]
        exact ⟨s, rfl, rfl⟩
      · rw [if_neg hmany, if_neg hmany]
        let s' : HandlerState (Subscriptions W) W cap := ⟨r, .init, s, w⟩
        refine ⟨_, readAcknowledgements_acts count.toNat s', ?_⟩
        obtain ⟨e, -, hrun⟩ | ⟨results, -, hrun⟩ := run_run_bind
          (readAcknowledgements caller.sessionId count.toNat : SubscriptionM W cap (List StatusCode)) _
          s'
        · rw [hrun]
        · rw [hrun]
          exact parkPublish_retained _ _

theorem handlePublish_retained_iff (p : Platform W) (caller : Caller) (body : Bytes) (w : W)
    (hs : s.Consistent b) :
    ((handlePublish b p caller : SubscriptionM W cap Unit).run.run ⟨.init body, .init, s,
      w⟩).2.state.retained =
        s.retained ↔
      ∀ ack ∈ acknowledgements b body, ∀ sub ∈ s.subscriptions, sub.Named caller.sessionId ack.1 →
        ¬ sub.Retains ack.2 := by
  obtain ⟨t, hacts, hretained⟩ : ∃ t, InTurn _ (acknowledgements b body) s t ∧
      ((handlePublish b p caller : SubscriptionM W cap Unit).run.run ⟨.init body, .init, s,
        w⟩).2.state.retained = t.retained := handlePublish_acts p caller body s w
  rw [hretained]
  obtain ⟨-, ⟨hidle, rfl⟩ | ⟨hactive, hlt⟩⟩ := hacts.idle_or_lt (·.Consistent b)
    (fun ack s => ∀ sub ∈ s.subscriptions, sub.Named caller.sessionId ack.1 → ¬ sub.Retains ack.2)
    (fun s => s.retained.countP (·.valid))
    (fun ack s t hs ht => by
      subst ht
      exact ⟨(EngineOp.acknowledge caller.sessionId ack.1 ack.2).apply_consistent hs,
        acknowledge_idle_or_lt hs ack.1 ack.2⟩) hs
  · exact iff_of_true rfl hidle
  · exact iff_of_false (fun heq => (congrArg (List.countP (·.valid)) heq).not_lt hlt) hactive

variable {server : Server W A} {req : Request}

/-- A Publish request that is rejected leaves every retransmission slot as it is if and only if none of
the acknowledgements decoded before the failure names a retained message of the session. -/
theorem rejected_publish_keeps_retained_iff (h : Visited b c app server) {cert : Bytes}
    {ch : SecureChannel} {w : W} {i : Nat} {session : Session}
    (hgate : dispatchGate b req ⟨{ server.shared with channelClientCert := cert }, ch⟩ =
      .ok (.publish, some (i, session))) :
    let d : Dispatched W A cap :=
  serviceDispatch b c app req ⟨{ server.shared with channelClientCert := cert }, ch⟩ w
    (∀ e, d.result = .error e → d.scope.shared.subs.retained = server.shared.subs.retained) ↔
      ∀ e, d.result = .error e → ∀ ack ∈ acknowledgements b req.body,
      ∀ sub ∈ server.shared.subs.subscriptions,
        sub.Named session.sessionId ack.1 → ¬ sub.Retains ack.2 := by
  intro d
  have hscope : d.scope = _ := serviceDispatch_scope hgate (by decide)
  refine forall_congr' (fun e => imp_congr_right (fun _ => ?_))
  rw [hscope, execute_state]
  simp only [handler, run_state_bind]
  rw [onSubs_subs]
  exact handlePublish_retained_iff c.platform (req.caller session.sessionId) req.body
    w h.wellFormed.engine

end Publish

section RejectedPublish

open Script

def oneReported : Server Script Unit :=
  playWith dataApplication (config 6 8192 none) (oneChannel 10 ++
    [deliver 10 (msg 2 (createRequest [])), deliver 10 (msg 3 (activateRequest sessionToken)),
      deliver 10 (msg 4 (subscribeRequest sessionToken)),
      deliver 10 (msg 5 (monitorRequest sessionToken)),
      deliver 10 (msg 6 (publishRequest sessionToken)), { idle with nowMs := 100 }])

/-- A Publish request that announces two acknowledgements and ends after the first. -/
def truncatedPublish (sequenceNumber : Nat) : Request :=
  ⟨⟨0, 1⟩, 826, (request 826 sessionToken ++ u32 2 ++ u32 1 ++ u32 sequenceNumber).drop 4, 7, none, none⟩

def dispatchPublish (sequenceNumber : Nat) (s : Server Script Unit) : Dispatched Script Unit 256 :=
  serviceDispatch build (config 6 8192 none) dataApplication (truncatedPublish sequenceNumber)
    ⟨s.shared, (s.conns.getD 0 (.empty 0)).channel⟩ idle

theorem rejected_publish_keeps_retained_unknown_number :
    (∃ e, (dispatchPublish 2 oneReported).result = .error e) ∧
      ∀ e, (dispatchPublish 2 oneReported).result = .error e →
        (dispatchPublish 2 oneReported).scope.shared.subs.retained =
          oneReported.shared.subs.retained := by
  have hkeeps (s : Server Script Unit) (h : Reachable build (config 6 8192 none) dataApplication s)
      (hrun : (dispatchPublish 2 s).result = .error .decodingError ∧
        dispatchGate build (truncatedPublish 2) ⟨s.shared, (s.conns.getD 0 (.empty 0)).channel⟩ =
          .ok (.publish, some (0, s.shared.sessions.getD 0 .init)) ∧
        acknowledgements build (truncatedPublish 2).body = [(1, 2)] ∧
        ∀ sub ∈ s.shared.subs.subscriptions, sub.retransmit.sequenceNumber ≠ 2) :
      (∃ e, (dispatchPublish 2 s).result = .error e) ∧ ∀ e, (dispatchPublish 2 s).result = .error e →
        (dispatchPublish 2 s).scope.shared.subs.retained = s.shared.subs.retained := by
    obtain ⟨hresult, hgate, hacks, hretained⟩ := hrun
    refine ⟨⟨_, hresult⟩, ?_⟩
    refine (rejected_publish_keeps_retained_iff h.visited hgate).mpr
      (fun _ _ ack hack sub hsub _ hretains => ?_)
    rw [hacks] at hack
    obtain rfl := List.mem_singleton.mp hack
    exact hretained sub hsub hretains.2
  exact hkeeps _ (playWith_reachable (by decide) _) (by decide +kernel)

/-- The acknowledgement that the request has is carried out: the client gets a fault, and the message is
gone. -/
theorem rejected_publish_drops_message :
    Reachable build (config 6 8192 none) dataApplication oneReported ∧
      dispatchGate build (truncatedPublish 1)
      ⟨oneReported.shared, (oneReported.conns.getD 0 (.empty 0)).channel⟩ =
        .ok (.publish, some (0, oneReported.shared.sessions.getD 0 .init)) ∧
      ¬ ∀ e, (dispatchPublish 1 oneReported).result = .error e →
        (dispatchPublish 1 oneReported).scope.shared.subs.retained =
          oneReported.shared.subs.retained := by
  refine ⟨playWith_reachable (by decide) _, And.imp_right (fun hrun hkeeps => ?_) (by decide +kernel :
    dispatchGate build (truncatedPublish 1) ⟨oneReported.shared,
      (oneReported.conns.getD 0 (.empty 0)).channel⟩ =
        .ok (.publish, some (0, oneReported.shared.sessions.getD 0 .init)) ∧
      (dispatchPublish 1 oneReported).result = .error .decodingError ∧
      (dispatchPublish 1 oneReported).scope.shared.subs.retained.map Retransmit.valid ≠
        oneReported.shared.subs.retained.map Retransmit.valid)⟩
  exact hrun.2 (congrArg (List.map Retransmit.valid) (hkeeps _ hrun.1))

end RejectedPublish

end MicroOpcua
