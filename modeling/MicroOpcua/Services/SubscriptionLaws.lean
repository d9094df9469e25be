import MicroOpcua.Services.EngineLaws

namespace MicroOpcua

open HandlerM Lib.StateRun Lib.Table

variable {W A : Type} {cap : Nat} {b : Build} (caller : Caller)

section Runs

variable {P Q : Subscriptions W → EngineOp W → Prop} {s t : Subscriptions W}

instance : Std.Refl (EngineRuns b P) := ⟨fun _ => Relation.ReflTransGen.refl⟩

instance : IsTrans (Subscriptions W) (EngineRuns b P) := ⟨fun _ _ _ => Relation.ReflTransGen.trans⟩

theorem EngineRuns.op (op : EngineOp W) (h : P s op) : EngineRuns b P s (op.apply b s) :=
  .single ⟨op, h, rfl⟩

theorem EngineRuns.mono (h : EngineRuns b P s t) (hPQ : ∀ s op, P s op → Q s op) :
    EngineRuns b Q s t := by
  induction h with
  | refl => exact .refl
  | tail _ hstep ih =>
    obtain ⟨op, hop, rfl⟩ := hstep
    exact ih.tail ⟨op, hPQ _ op hop, rfl⟩

theorem EngineRuns.of_ops (ops : List (EngineOp W)) (hP : ∀ op ∈ ops, ∀ s, P s op)
    (s : Subscriptions W) : EngineRuns b P s (runOps b ops s) := by
  induction ops generalizing s with
  | nil => exact .refl
  | cons op ops ih =>
    obtain ⟨hop, hops⟩ := List.forall_mem_cons.mp hP
    exact (EngineRuns.op op (hop s)).trans (ih hops _)

theorem EngineRuns.concat {ops : List (EngineOp W)} (h : EngineRuns b P s (runOps b ops s))
    (op : EngineOp W) (hop : P (runOps b ops s) op) : EngineRuns b P s (runOps b (ops ++ [op]) s) := by
  rw [runOps, List.foldl_concat]
  exact Relation.ReflTransGen.tail h ⟨op, hop, rfl⟩

abbrev SessionRuns (b : Build) (sessionId : UInt32) : Subscriptions W → Subscriptions W → Prop :=
  EngineRuns b (EngineOp.By sessionId)

end Runs

section Owners

def owners (subs : List Subscription) : Set UInt32 :=
  { id | ∃ sub ∈ subs, sub.inUse = true ∧ sub.sessionId = id }

theorem owners_congr {subs subs' : List Subscription}
    (h : subs'.map Subscription.key = subs.map Subscription.key) : owners subs' = owners subs := by
  have hkeys (subs : List Subscription) :
      owners subs = { id | ∃ k ∈ subs.map Subscription.key, k.inUse = true ∧ k.sessionId = id } := by
    ext id
    simp only [owners, Set.mem_ofPred_eq, List.mem_map, exists_exists_and_eq_and]
    rfl
  rw [hkeys, hkeys, h]

theorem owners_set_subset (subs : List Subscription) (i : Nat) (sub : Subscription) :
    owners (subs.set i sub) ⊆ { id | sub.inUse = true ∧ sub.sessionId = id } ∪ owners subs := by
  rintro id ⟨sub', hmem, hin, hid⟩
  obtain hold | rfl := List.mem_or_eq_of_mem_set hmem
  · exact .inr ⟨sub', hold, hin, hid⟩
  · exact .inl ⟨hin, hid⟩

def OwnersGrow (sessionId : UInt32) (s t : Subscriptions W) : Prop :=
  owners t.subscriptions ⊆ insert sessionId (owners s.subscriptions)

instance (sessionId : UInt32) : Std.Refl (OwnersGrow (W := W) sessionId) :=
  ⟨fun _ => Set.subset_insert _ _⟩

instance (sessionId : UInt32) : IsTrans (Subscriptions W) (OwnersGrow sessionId) :=
  ⟨fun _ _ _ h h' id hid => by
    obtain rfl | hid := h' hid
    · exact .inl rfl
    · exact h hid⟩

theorem OwnersGrow.of_subset {sessionId : UInt32} {s t : Subscriptions W}
    (h : owners t.subscriptions ⊆ owners s.subscriptions) : OwnersGrow sessionId s t :=
  h.trans (Set.subset_insert _ _)

variable {sessionId subId : UInt32}

theorem createSubscription_owners (p : SubscriptionParameters) (enabled : Bool) (nowMs : UInt64)
    (s : Subscriptions W) :
    OwnersGrow sessionId s (createSubscription sessionId p enabled nowMs s).2 := by
  simp only [createSubscription, subscriptionCreate]
  split
  · exact .of_subset subset_rfl
  · split
    · exact .of_subset subset_rfl
    · intro id hid
      obtain ⟨-, rfl⟩ | hid := owners_set_subset _ _ _ hid
      · exact .inl rfl
      · exact .inr hid

theorem subscriptionDelete_owners (s : Subscriptions W) :
    owners (subscriptionDelete b s sessionId subId).2.subscriptions ⊆ owners s.subscriptions := by
  unfold subscriptionDelete
  split
  · exact subset_rfl
  · intro id hid
    obtain ⟨hin, -⟩ | hid := owners_set_subset _ _ _ hid
    · cases hin
    · exact hid

variable {s : Subscriptions W}

theorem EngineOp.By.owners {op : EngineOp W} (h : op.By sessionId s) :
    OwnersGrow sessionId s (op.apply b s) := by
  have hkeys {t : Subscriptions W}
    (h : t.subscriptions.map Subscription.key = s.subscriptions.map Subscription.key) :
      OwnersGrow sessionId s t := .of_subset (owners_congr h).subset
  cases op with
  | createSubscription owner p enabled nowMs =>
    obtain rfl : owner = sessionId := h
    exact createSubscription_owners p enabled nowMs s
  | deleteSubscription owner id => exact .of_subset (subscriptionDelete_owners s)
  | modifySubscription owner id p | setPublishingMode owner enabled id | requestResendData owner id =>
    apply hkeys
    apply subscriptionUpdate_keys
    intro _
    rfl
  | acknowledge owner id number => exact hkeys (subscriptionAcknowledge_keys _ _ _ _)
  | createItem id body node nowMs w =>
    simp only [EngineOp.apply]
    split
    · exact hkeys rfl
    · exact hkeys rfl
  | setMonitoringMode mode id itemId =>
    simp only [EngineOp.apply, setMonitoringModeResult]
    split
    · exact hkeys rfl
    · exact hkeys rfl
  | park request =>
    simp only [EngineOp.apply, parkPublish]
    split
    · exact hkeys rfl
    · exact hkeys rfl
  | modifyItem | deleteItem | addTriggerLink | removeTriggerLink => exact hkeys rfl
  | sample | turn | triggerEvent | reset => cases h

theorem SessionRuns.owners {t : Subscriptions W} (h : SessionRuns b sessionId s t) :
    OwnersGrow sessionId s t := by
  induction h with
  | refl => exact refl s
  | tail _ hstep ih =>
    obtain ⟨op, hop, rfl⟩ := hstep
    exact IsTrans.trans _ _ _ ih hop.owners

abbrev DeleteRuns (b : Build) : Subscriptions W → Subscriptions W → Prop :=
  EngineRuns b (fun _ op => ∃ owner id, op = .deleteSubscription owner id)

theorem DeleteRuns.owners {t : Subscriptions W} (h : DeleteRuns b s t) :
    owners t.subscriptions ⊆ owners s.subscriptions := by
  induction h with
  | refl => exact subset_rfl
  | tail _ hstep ih =>
    obtain ⟨_, ⟨owner, id, rfl⟩, rfl⟩ := hstep
    exact (subscriptionDelete_owners _).trans ih

end Owners

section Handlers

section

variable {R : Subscriptions W → Subscriptions W → Prop} (responseTypeId requestHandle sessionId : UInt32)
    (subId : Option UInt32) {itemResult : UInt32 → Subscriptions W → Except Fault Unit × Subscriptions W}

/-- A list of operations on what a check of the subscription id, if there is one, has found. -/
theorem driveSubscriptionIdStatusArray_effect [Std.Refl R]
    [IsTrans (Subscriptions W) R] (found : Subscriptions W → Prop)
    (hfound : ∀ s, (∀ id, subId = some id →
      (subscriptionFind s.subscriptions sessionId id).isSome = true) → found s) (h :
        ∀ id s, found s → R s (itemResult id s).2 ∧ found (itemResult id s).2) :
    Effect R (driveSubscriptionIdStatusArray responseTypeId requestHandle sessionId subId itemResult :
      SubscriptionM W cap Unit) := by
  let S (s t : Subscriptions W) : Prop := found s → R s t ∧ found t
  have : Std.Refl S := ⟨fun s hs => ⟨refl s, hs⟩⟩
  have : IsTrans (Subscriptions W) S := ⟨fun s t u hst htu hs =>
    ⟨IsTrans.trans _ _ _ (hst hs).1 (htu (hst hs).2).1, (htu (hst hs).2).2⟩⟩
  refine .bind (.decode _) (fun count => .guard (fun _ => .state_bind (fun subs => ?_)))
  by_cases hmissing :
    subId.any (fun id => (subscriptionFind subs.subscriptions sessionId id).isNone) = true
  · rw [if_pos hmissing]
    exact fun s _ => refl s.state
  · rw [if_neg hmissing]
    have hsubs : found subs := by
      refine hfound subs (fun id hid => ?_)
      subst hid
      simpa [Option.isSome_iff_ne_none] using hmissing
    refine Lib.StateRun.Moves.mono (R := fun s t => S s.state t.state) ?_ (fun s t hst heq =>
      (hst (heq ▸ hsubs)).1)
    refine Effect.guard (R := S) (fun _ =>
      .bind (.encode _) (fun _ => .bind (.repeatM ?_ _) (fun _ => .encode _)))
    exact .bind (.decode _) (fun id => .bind (.update (h id)) (fun _ => .encode _))

theorem driveSubscriptionIdStatusArray_effect_of [Std.Refl R]
    [IsTrans (Subscriptions W) R] (h : ∀ id s, R s (itemResult id s).2) :
    Effect R (driveSubscriptionIdStatusArray responseTypeId requestHandle sessionId subId itemResult :
      SubscriptionM W cap Unit) :=
  driveSubscriptionIdStatusArray_effect _ _ _ _ (fun _ => True) (fun _ _ => trivial)
    (fun id s _ => ⟨h id s, trivial⟩)

end

theorem handleCreateSubscription_effect (p : Platform W) :
    Effect (SessionRuns b caller.sessionId)
      (handleCreateSubscription b p caller : SubscriptionM W cap Unit) := by
  refine .bind (.decode _) (fun req =>
    .bind (.decode _) (fun params => .bind (.adapter _) (fun nowMs => ?_)))
  exact .bind (.updateChecked (fun s => .op (.createSubscription _ params.1 params.2 nowMs) rfl))
    (fun sub => .encode _)

theorem handleModifySubscription_effect :
    Effect (SessionRuns b caller.sessionId)
      (handleModifySubscription b caller : SubscriptionM W cap Unit) := by
  refine .bind (.decode _) (fun req =>
    .bind (.decode _) (fun id => .bind (.decode _) (fun params => ?_)))
  exact .bind (.updateChecked (fun s => .op (.modifySubscription _ id params.1) rfl))
    (fun _ => .encode _)

theorem handleSetPublishingMode_effect :
    Effect (SessionRuns b caller.sessionId)
      (handleSetPublishingMode caller : SubscriptionM W cap Unit) :=
  .bind (.decode _) (fun _ =>
    .bind (.decode _) (fun enabled => driveSubscriptionIdStatusArray_effect_of _ _ _ _ (fun id _ =>
      .op (.setPublishingMode _ enabled id) rfl)))

theorem handleDeleteSubscriptions_effect :
    Effect (SessionRuns b caller.sessionId)
      (handleDeleteSubscriptions b caller : SubscriptionM W cap Unit) :=
  .bind (.decode _) (fun _ => driveSubscriptionIdStatusArray_effect_of _ _ _ _
    (fun id _ => .op (.deleteSubscription _ id) rfl))

theorem readAcknowledgements_effect (sessionId : UInt32) (n : Nat) :
    Effect (SessionRuns b sessionId)
      (readAcknowledgements sessionId n : SubscriptionM W cap (List StatusCode)) := by
  induction n with
  | zero => exact .pure []
  | succ n ih =>
    refine .bind (.decode _) (fun ids => .bind (.update ?_) (fun r => .bind ih (fun _ => .pure _)))
    exact fun s => .op (.acknowledge _ ids.1 ids.2) rfl

theorem handlePublish_effect (p : Platform W) :
    Effect (SessionRuns b caller.sessionId) (handlePublish b p caller : SubscriptionM W cap Unit) := by
  refine .bind (.decode _) (fun req => .bind (.decode _) (fun count => .guard (fun _ => ?_)))
  refine .bind (readAcknowledgements_effect _ _) (fun results => .bind (.adapter _) (fun nowMs => ?_))
  exact .updateChecked (fun s => .op (.park _) ⟨rfl, rfl⟩)

theorem handleRepublish_effect :
    Effect (SessionRuns b caller.sessionId) (handleRepublish caller : SubscriptionM W cap Unit) := by
  refine .bind (.decode _) (fun req => .bind (.decode _) (fun ids => .bind .state (fun s => ?_)))
  split
  · exact .throw _
  · exact .encode _

theorem handleSetMonitoringMode_effect :
    Effect (SessionRuns b caller.sessionId)
      (handleSetMonitoringMode caller : SubscriptionM W cap Unit) := by
  refine .bind (.decode _) (fun req => .bind (.decode _) (fun id => .bind (.decode _) (fun mode => ?_)))
  refine driveSubscriptionIdStatusArray_effect _ _ _ _
    (fun s => (subscriptionFind s.subscriptions caller.sessionId id).isSome = true)
    (fun s hs => hs id rfl) (fun item s hs => ⟨.op (.setMonitoringMode mode id item) hs, ?_⟩)
  unfold setMonitoringModeResult
  split <;> exact hs

theorem handleDeleteMonitoredItems_effect :
    Effect (SessionRuns b caller.sessionId)
      (handleDeleteMonitoredItems b caller : SubscriptionM W cap Unit) :=
  .bind (.decode _) (fun _ => .bind (.decode _) (fun id => driveSubscriptionIdStatusArray_effect _ _ _ _
    (fun s => (subscriptionFind s.subscriptions caller.sessionId id).isSome = true)
    (fun _ hs => hs id rfl) (fun item _ hs => ⟨.op (.deleteItem id item) hs, hs⟩)))

end Handlers

section ItemHandlers

variable {s : Subscriptions W} {sessionId : UInt32}

def ItemRuns (b : Build) (sessionId : UInt32) (s : Subscriptions W) (t u : ItemTable W) : Prop :=
  SessionRuns b sessionId { s with items := t } { s with items := u }

instance : Std.Refl (ItemRuns b sessionId s) := ⟨fun t => refl ({ s with items := t } : Subscriptions W)⟩

instance : IsTrans (ItemTable W) (ItemRuns b sessionId s) := ⟨fun _ _ _ h h' =>
  Relation.ReflTransGen.trans h h'⟩

theorem subscriptionIdInUse_of_find {subs : List Subscription} {id : UInt32}
    (h : (subscriptionFind subs sessionId id).isSome = true) : subscriptionIdInUse subs id = true := by
  obtain ⟨i, hi⟩ := Option.isSome_iff_exists.mp h
  obtain ⟨sub, hsub, hin, -, hid⟩ := subscriptionFind_eq_some hi
  exact subscriptionIdInUse_iff.mpr
    (mem_usedSubscriptions.mpr ⟨sub, List.mem_of_getElem? hsub, hin, hid⟩)

variable {subId : UInt32}

theorem createMonitoredItem_effect (p : Platform W) (resolve : NodeId → Option (Node W))
    (nowMs : UInt64) (hfound : (subscriptionFind s.subscriptions sessionId subId).isSome = true) :
    Effect (ItemRuns b sessionId s)
      (createMonitoredItem b p resolve subId nowMs : ItemM W cap Unit) := by
  refine .bind (.adapter _) (fun clauses =>
    .bind (.adapter _) (fun count => .bind (.decode _) (fun body => ?_)))
  unfold createDecoded
  split
  · exact .encode _
  · rename_i node _
    intro u
    have hrun : SessionRuns b sessionId { s with items := u.state }
        { s with items := createItem b subId body node nowMs u.world u.state } := by
      have hop := EngineRuns.op (b := b) (P := EngineOp.By sessionId) (s := { s with items := u.state })
        (.createItem subId body node nowMs u.world) hfound
      rwa [EngineOp.apply, if_pos (subscriptionIdInUse_of_find hfound)] at hop
    rw [run_update_bind]
    unfold createItem at hrun
    generalize monitoredItemAlloc b u.state subId = r at hrun
    obtain ⟨e | ⟨slot, id⟩, t⟩ := r
    · exact hrun
    · exact hrun

theorem modifyMonitoredItem_effect
    (hfound : (subscriptionFind s.subscriptions sessionId subId).isSome = true) :
    Effect (ItemRuns b sessionId s) (modifyMonitoredItem b subId : ItemM W cap Unit) := by
  refine .bind (.decode _) (fun body => .bind (.update (fun t => ?_)) (fun _ => .encode _))
  exact EngineRuns.op (s := { s with items := t }) (.modifyItem subId body) hfound

theorem checkItemsPreamble_found {subs : List Subscription} {count : Int}
    (h : checkItemsPreamble subs sessionId subId count = .ok ()) :
    (subscriptionFind subs sessionId subId).isSome = true := by
  simp only [checkItemsPreamble, guard_eq_ok] at h
  simpa [Option.isSome_iff_ne_none] using h.2.1

theorem driveItemOperations_effect {α : Type} (responseTypeId : UInt32) {setup : ItemM W cap α}
    {operation : UInt32 → α → ItemM W cap Unit} (hsetup : Effect (ItemRuns b sessionId s) setup)
    (h : ∀ id a, (subscriptionFind s.subscriptions sessionId id).isSome = true →
      Effect (ItemRuns b sessionId s) (operation id a)) :
    Effect (ItemRuns b sessionId s)
      (driveItemOperations s.subscriptions sessionId responseTypeId setup operation) := by
  refine .bind (.decode _) (fun req => .bind (.decode _) (fun ids => .checked_bind (fun _ hcheck => ?_)))
  refine .bind (.encode _) (fun _ => .bind hsetup (fun a => .bind (.repeatM ?_ _) (fun _ => .encode _)))
  exact h ids.1 a (checkItemsPreamble_found hcheck)

theorem applyLinks_runs (operation : ItemList W → UInt32 → Except Fault Unit × ItemList W)
    (h : ∀ t : ItemTable W, ∀ id,
      ItemRuns b sessionId s t { t with monitoredItems := (operation t.monitoredItems id).2 })
    (ids : List UInt32) (t : ItemTable W) :
    ItemRuns b sessionId s t
        { t with monitoredItems := (applyLinks operation ids t.monitoredItems).2 } := by
  induction ids generalizing t with
  | nil => exact refl t
  | cons id ids ih =>
    exact IsTrans.trans _ _ _ (h t id)
      (ih { t with monitoredItems := (operation t.monitoredItems id).2 })

theorem handleSetTriggering_effect :
    Effect (ItemRuns b caller.sessionId s)
      (handleSetTriggering b s.subscriptions caller : ItemM W cap Unit) := by
  refine .bind (.decode _) (fun req =>
    .bind (.decode _) (fun ids => .bind (.decode _) (fun linksToAdd => ?_)))
  refine .bind (.decode _) (fun linksToRemove =>
    .guard (fun _ => .guard (fun hmissing => .guard (fun _ => ?_))))
  have hfound : (subscriptionFind s.subscriptions caller.sessionId ids.1).isSome = true := by
    simpa [Option.isSome_iff_ne_none] using hmissing
  intro u
  have hadd (t : ItemTable W) (id : UInt32) : ItemRuns b caller.sessionId s t
      { t with monitoredItems := (addTriggerLink b t.monitoredItems ids.1 ids.2 id).2 } :=
    EngineRuns.op (s := { s with items := t }) (.addTriggerLink ids.1 ids.2 id) hfound
  have hremove (t : ItemTable W) (id : UInt32) : ItemRuns b caller.sessionId s t
      { t with monitoredItems := (removeTriggerLink t.monitoredItems ids.1 ids.2 id).2 } :=
    EngineRuns.op (s := { s with items := t }) (.removeTriggerLink ids.1 ids.2 id) hfound
  exact Relation.ReflTransGen.trans
    (applyLinks_runs (fun is id => addTriggerLink b is ids.1 ids.2 id) hadd linksToAdd u.state)
    (applyLinks_runs (fun is id => removeTriggerLink is ids.1 ids.2 id) hremove linksToRemove _)

end ItemHandlers

section Call

/-- The same for a part of the server that holds the subscriptions and the application. -/
instance (sessionId : UInt32) :
    Std.Refl (fun s t : Subscriptions W × A => SessionRuns b sessionId s.1 t.1) :=
  ⟨fun s => refl s.1⟩

instance (sessionId : UInt32) :
    IsTrans (Subscriptions W × A) (fun s t : Subscriptions W × A => SessionRuns b sessionId s.1 t.1) :=
  ⟨fun _ _ _ h h' => IsTrans.trans _ _ _ h h'⟩

theorem callServerMethod_runs (sessionId methodId subId : UInt32) (s : Subscriptions W) :
    SessionRuns b sessionId s (callServerMethod b sessionId methodId subId s).2 := by
  unfold callServerMethod
  split
  · split <;> exact refl s
  · exact .op (.requestResendData sessionId subId) rfl

theorem callMethod_effect (app : Application W A) (objectId methodId : NodeId) (args : List Scalar) :
    Effect (fun s t => SessionRuns b caller.sessionId s.1 t.1)
      (callMethod b app caller objectId methodId args : CallM W A cap MethodResult) := by
  have happ : Effect (fun s t => SessionRuns b caller.sessionId s.1 t.1)
      (callApplicationMethod app objectId methodId args : CallM W A cap MethodResult) :=
        fun s => refl s.state.1
  unfold callMethod
  split
  · split
    · split
      · exact .pure _
      · exact .update (fun s => callServerMethod_runs _ _ _ s.1)
    · exact happ
  · exact happ

theorem handleCall_effect (app : Application W A) :
    Effect (fun s t => SessionRuns b caller.sessionId s.1 t.1)
      (handleCall b app caller : CallM W A cap Unit) := by
  refine .bind (.decode _) (fun req =>
    .bind (.decode _) (fun count => .guard (fun _ => .guard (fun _ => ?_))))
  refine .guard (fun _ => .bind (.encode _) (fun _ => .bind (.repeatM ?_ _) (fun _ => .encode _)))
  refine .bind (.decode _) (fun objectId =>
    .bind (.decode _) (fun methodId => .bind (.decode _) (fun args => ?_)))
  exact .bind (callMethod_effect caller app objectId methodId args) (fun _ => .encode _)

end Call

end MicroOpcua
