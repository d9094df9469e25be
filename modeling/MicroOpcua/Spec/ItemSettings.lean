import MicroOpcua.Services.RequestLaws
import MicroOpcua.Spec.Durations
import MicroOpcua.Spec.ItemQueue

namespace MicroOpcua

open HandlerM Relation Lib.LittleEndian Lib.StateRun Lib.Table

variable {W : Type} {b : Build} {s : Subscriptions W} {t : ItemTable W} {item item' : MonitoredItem W}

section Mode

def MonitoredItem.ValidMode (item : MonitoredItem W) : Prop :=
  item.monitoringMode = monitoringDisabled ∨ item.monitoringMode = monitoringSampling ∨
    item.monitoringMode = monitoringReporting

def MonitoredItem.HasMode (mode : UInt32) (item : MonitoredItem W) : Prop :=
  item.ValidMode ∧ item.monitoringMode.toUInt32 = mode

instance (item : MonitoredItem W) : Decidable item.ValidMode := inferInstanceAs (Decidable (_ ∨ _ ∨ _))

instance (mode : UInt32) (item : MonitoredItem W) : Decidable (item.HasMode mode) :=
  inferInstanceAs (Decidable (_ ∧ _))

def EngineOp.AsksForMode : EngineOp W → Prop
  | .createItem _ body _ _ _ => body.monitoringMode ≤ 2
  | .setMonitoringMode mode _ _ => mode ≤ 2
  | _ => True

theorem validMode_iff (item : MonitoredItem W) : item.ValidMode ↔ item.monitoringMode.toNat ≤ 2 := by
  unfold MonitoredItem.ValidMode monitoringDisabled monitoringSampling monitoringReporting
  simp only [← UInt8.toNat_inj]
  change _ = 0 ∨ _ = 1 ∨ _ = 2 ↔ _
  omega

theorem hasMode_iff {mode : UInt32} (h : item.monitoringMode = mode.toUInt8) :
    item.HasMode mode ↔ mode ≤ 2 := by
  rw [MonitoredItem.HasMode, validMode_iff, h, ← UInt32.toNat_inj, UInt8.toNat_toUInt32,
    UInt32.toNat_toUInt8, UInt32.le_iff_toNat_le]
  change _ ∧ _ ↔ _ ≤ 2
  omega

theorem createdItem_mode (subId id : UInt32) (body : MonitoredItemCreateBody)
    (node : Node W) (nowMs : UInt64) (w : W) :
    (createdItem b subId id body node nowMs w).monitoringMode = body.monitoringMode.toUInt8 := by
  refine createdItem_keeps (P := fun item => item.monitoringMode = _) ?_ (fun _ _ _ h => h) w
  simp only [fillItem]
  split
  · rfl
  · rfl

theorem ItemWorks.validMode (h : ItemWorks b item item') (hitem : item.ValidMode) : item'.ValidMode := by
  have hmode : item'.monitoringMode = item.monitoringMode := congrArg ItemKey.monitoringMode h.key
  rwa [MonitoredItem.ValidMode, hmode]

theorem ItemAct.validMode {op : EngineOp W} (hop : op.AsksForMode) (h : ItemAct b s op item item')
    (hitem : item.ValidMode) : item'.ValidMode := by
  cases h with
  | keep => exact hitem
  | create subId body node nowMs w id hfree =>
    exact ((hasMode_iff (createdItem_mode subId id body node nowMs w)).mpr hop).1
  | modify => exact hitem
  | mode mode subId itemId =>
    have hmode : ({ item with monitoringMode := mode.toUInt8 } : MonitoredItem W).HasMode mode ↔
        mode ≤ 2 :=
      hasMode_iff rfl
    exact (hmode.mpr hop).1
  | link => exact hitem
  | unlink => exact hitem
  | release => exact .inl rfl
  | sample nowMs => exact ItemWorks.validMode (.sample nowMs item _) hitem
  | turn x sub hsub hsteps => exact hsteps.works.validMode hitem

theorem createItem_slot (h : t.Consistent b) (subId : UInt32) (body : MonitoredItemCreateBody)
    (node : Node W) (nowMs : UInt64) (w : W) {slot : Nat} {id : UInt32} {t' : ItemTable W}
    (halloc : monitoredItemAlloc b t subId = (.ok (slot, id), t')) :
    (createItem b subId body node nowMs w t).monitoredItems[slot]? =
      some (createdItem b subId id body node nowMs w) := by
  obtain ⟨⟨e, hfull⟩, -⟩ | ⟨i, id', next, old, hi, -, -, -, hfilled⟩ := monitoredItemAlloc_cases h subId
  · cases hfull.symm.trans halloc
  · obtain ⟨hok, rfl⟩ := Prod.mk.inj (hfilled.symm.trans halloc)
    cases hok
    have hlt : slot < t.monitoredItems.length := (List.getElem?_eq_some_iff.mp hi).1
    simp only [createItem, halloc, createdItem, List.getD_eq_getElem?_getD, List.getElem?_set_self hlt,
      Option.getD_some, List.set_set]

theorem setMonitoringModeResult_item {mode subId itemId : UInt32}
    (h : (setMonitoringModeResult mode subId itemId s).1 = .ok ()) :
    ∃ item ∈ (setMonitoringModeResult mode subId itemId s).2.items.monitoredItems,
      item.Named subId itemId ∧ item.monitoringMode = mode.toUInt8 := by
  cases hfind : findMonitoredItem s.items subId itemId with
  | none =>
    rw [setMonitoringModeResult, hfind] at h
    cases h
  | some i =>
    obtain ⟨item, hi, hitem⟩ := findMonitoredItem_eq_some hfind
    have hset :
      (s.items.monitoredItems.modify i (fun item => { item with monitoringMode := mode.toUInt8 }))[i]? =
        some { item with monitoringMode := mode.toUInt8 } := by
      rw [List.getElem?_modify_eq, hi]
      rfl
    rw [setMonitoringModeResult, hfind]
    exact ⟨_, List.mem_of_getElem? hset, hitem, rfl⟩

/-- In every run that asks for the three modes only, every item is in one of them. An item that is
created or set with result Good is in the mode that was requested exactly when it is one of them. -/
theorem monitoring_mode_as_requested :
    (∀ s : Subscriptions W, EngineRuns b (fun _ op => op.AsksForMode) (.init b) s →
      ∀ item ∈ s.items.monitoredItems, item.inUse = true → item.ValidMode) ∧
    (∀ (s : Subscriptions W) mode subId itemId,
      (setMonitoringModeResult mode subId itemId s).1 = .ok () →
      ∃ item ∈ (setMonitoringModeResult mode subId itemId s).2.items.monitoredItems,
        item.Named subId itemId ∧ (item.HasMode mode ↔ mode ≤ 2)) ∧
    ∀ (t : ItemTable W), t.Consistent b → ∀ subId body node nowMs w slot id t',
      monitoredItemAlloc b t subId = (.ok (slot, id), t') →
      ∃ item, (createItem b subId body node nowMs w t).monitoredItems[slot]? = some item ∧
        item.Named subId id ∧ (item.HasMode body.monitoringMode ↔ body.monitoringMode ≤ 2) := by
  refine ⟨fun s hrun item hitem _ => ?_, fun s mode subId itemId h => ?_, ?_⟩
  · refine hrun.items (fun s op item item' hop hact _ =>
      hact.validMode hop) init_consistent ?_ item hitem
    intro item hitem
    obtain rfl := List.eq_of_mem_replicate hitem
    exact .inl rfl
  · obtain ⟨item, hmem, hnamed, hmode⟩ := setMonitoringModeResult_item h
    exact ⟨item, hmem, hnamed, hasMode_iff hmode⟩
  · intro t h subId body node nowMs w slot id t' halloc
    obtain ⟨hnew, hid⟩ := createdItem_new (b := b) subId id body node nowMs w
    exact ⟨_, createItem_slot h subId body node nowMs w halloc, ⟨hnew.inUse, hnew.subscription, hid⟩,
      hasMode_iff (createdItem_mode subId id body node nowMs w)⟩

end Mode

section Responses

variable {cap : Nat}

def nullExtensionObjectBytes : Bytes := [0] ++ [0] ++ [0]

def createResultBytes (status : StatusCode) (id : UInt32) (samplingBits : UInt64)
    (queueSize : UInt32) : Bytes :=
  put 4 status.toNat ++ (put 4 id.toNat ++ (put 8 samplingBits.toNat ++ (put 4 queueSize.toNat ++
    nullExtensionObjectBytes)))

def modifyResultBytes (status : StatusCode) (samplingBits : UInt64) (queueSize : UInt32) : Bytes :=
  put 4 status.toNat ++ (put 8 samplingBits.toNat ++ (put 4 queueSize.toNat ++ nullExtensionObjectBytes))

theorem writeNullExtensionObject_puts :
    Puts (writeNullExtensionObject : WriteM cap Unit) nullExtensionObjectBytes := by
  have hnode : Puts (writeNodeId (.ns0 0) : WriteM cap Unit) ([0] ++ [0]) :=
    .bind (writeBytes_encodes _).fits (writeBytes_encodes _).fits
  exact .bind hnode (writeBytes_encodes [0]).fits

theorem writeMonitoredItemCreateResult_emits (status : StatusCode) (id samplingMs queueSize : UInt32) :
    Emits (writeMonitoredItemCreateResult status id samplingMs queueSize : WriteM cap Unit)
      (createResultBytes status id (if status = good then
        publishingIntervalMsToBits samplingMs else 0) queueSize) := by
  apply Sized.emits
  · simpa [createResultBytes, nullExtensionObjectBytes] using
      writeMonitoredItemCreateResult_sized status id samplingMs queueSize
  · exact .bind (writeBytes_puts _)
      (.bind (writeBytes_puts _)
        (.bind (writeBytes_puts _) (.bind (writeBytes_puts _) (.check writeNullExtensionObject_puts))))

theorem writeMonitoredItemModifyResult_emits (result : Except Fault UInt32) :
    Emits (writeMonitoredItemModifyResult result : WriteM cap Unit)
      (modifyResultBytes (statusOf result)
        (match result with
          | .ok sampling => publishingIntervalMsToBits sampling
          | .error _ => 0) 1) := by
  apply Sized.emits
  · simpa [modifyResultBytes, nullExtensionObjectBytes] using writeMonitoredItemModifyResult_sized result
  · exact .bind (writeBytes_puts _) (.bind (writeBytes_puts _) (.bind (writeBytes_puts _)
      (.check writeNullExtensionObject_puts)))

end Responses

section Requests

structure ModifyRequest where
  body : ModifyBody
  filter : FilterBody
  queueSize : UInt32
  discardOldest : Bool

def readModifyFilterBody (b : Build) (type : NodeId) (length : Nat) : ReadM FilterBody := do
  ensureBytesRemaining length
  if b.subscriptionsStandard ∧ type.ns0Numeric? = some dataChangeFilterId then
    let filter ← readExactly length
      (readDatachangeFilterBody length { FilterBody.default with hasDatachangeFilter := true })
    return { filter with hasDatachangeFilter := true }
  else
    skipExtensionObjectBody length
    if b.subscriptionsStandard ∧ ¬ isKnownMonitoringFilterBinaryType b type length then
      return { FilterBody.default with filterResult := Fault.monitoredItemFilterUnsupported.code }
    return .default

def readModifyRequest (b : Build) : ReadM ModifyRequest := do
  let monitoredItemId ← unchecked 0 readUInt32
  let clientHandle ← unchecked 0 readUInt32
  let samplingIntervalBits ← unchecked 0 readUInt64
  checkReader
  let (filterType, filterLength) ← readExtensionObjectHeader
  let filter ← readModifyFilterBody b filterType filterLength
  let queueSize ← unchecked 0 readUInt32
  let discardOldest ← unchecked false readBoolean
  checkReader
  return ⟨⟨monitoredItemId, clientHandle, samplingIntervalBits, filter.filterResult,
    filter.hasDatachangeFilter⟩, filter, queueSize, discardOldest⟩

theorem readModifyFilter_eq (b : Build) (type : NodeId) (length : Nat) : readModifyFilter b type length =
      (fun f : FilterBody => (f.filterResult, f.hasDatachangeFilter)) <$>
      readModifyFilterBody b type length := by
  simp only [readModifyFilter, readModifyFilterBody, map_bind]
  refine bind_congr fun _ => ?_
  split
  · simp only [map_bind, map_pure]
  · simp only [map_bind]
    refine bind_congr fun _ => ?_
    split
    · simp only [map_pure]
      rfl
    · simp only [map_pure]
      rfl

theorem readModifyBody_eq (b : Build) :
    readModifyBody b = ModifyRequest.body <$> readModifyRequest b := by
  simp only [readModifyBody, readModifyRequest, map_bind, readModifyFilter_eq, bind_map_left, map_pure]

end Requests

section Settings

variable {cap : Nat} {st st' : HandlerState (ItemTable W) W cap} {body : MonitoredItemCreateBody}
    {request : ModifyRequest}

/-- A result carries the sampling interval and the effective queue size of the item. -/
def MonitoredItem.Reports (b : Build) (samplingBits : UInt64) (queueSize : UInt32)
    (item : MonitoredItem W) : Prop :=
  Denotes samplingBits item.samplingIntervalMs.toNat ∧
    queueSize = MonitoredItem.clampQueueSize b item.queueSize

structure MonitoredItem.Follows (b : Build) (request : ModifyRequest)
    (item : MonitoredItem W) : Prop where
  clientHandle : item.clientHandle = request.body.clientHandle
  sampling : item.samplingIntervalMs = publishingIntervalBitsToMs b request.body.samplingIntervalBits
  trigger : item.trigger = request.filter.trigger
  deadbandType : item.deadbandType = request.filter.deadbandType
  deadbandValue : item.deadbandValue = request.filter.deadbandValue
  queueSize :
    MonitoredItem.clampQueueSize b item.queueSize = MonitoredItem.clampQueueSize b request.queueSize
  discardOldest : item.discardOldest = request.discardOldest

/-- The settings a modify request cannot change, as the request has them. -/
structure MonitoredItem.Keeps (b : Build) (request : ModifyRequest) (item : MonitoredItem W) : Prop where
  trigger : item.trigger = request.filter.trigger
  deadbandType : item.deadbandType = request.filter.deadbandType
  deadbandValue : item.deadbandValue = request.filter.deadbandValue
  queueSize :
    MonitoredItem.clampQueueSize b item.queueSize = MonitoredItem.clampQueueSize b request.queueSize
  discardOldest : item.discardOldest = request.discardOldest

theorem encode_emits {m : WriteM cap Unit} {bs : Bytes} (hm : Emits m bs)
    (h : (encode m : ItemM W cap Unit).run.run st = (.ok (), st')) (hs : st.writer.status = none) :
    st'.writer.bytes = st.writer.bytes ++ bs ∧ st'.state = st.state := by
  obtain ⟨w, hrun, rfl⟩ := encode_returns.mp h
  obtain ⟨hfits, rfl⟩ := hm st.writer w hs hrun
  exact ⟨rfl, rfl⟩

theorem createdItem_settings (hstd : b.subscriptionsStandard = true) (subId id : UInt32)
    (body : MonitoredItemCreateBody) (node : Node W) (nowMs : UInt64) (w : W) :
    let item := createdItem b subId id body node nowMs w
    item.samplingIntervalMs = publishingIntervalBitsToMs b body.samplingIntervalBits ∧
      item.queueSize = MonitoredItem.clampQueueSize b body.queueSize := by
  refine createdItem_keeps (P := fun item => item.samplingIntervalMs = _ ∧ item.queueSize = _) ?_
    (fun _ _ _ h => h) w
  simp only [fillItem, if_pos hstd, and_self]

variable {subId : UInt32}

theorem createDecoded_reports {resolve : NodeId → Option (Node W)} {nowMs : UInt64}
    (h : (createDecoded b resolve subId nowMs body).run.run st = (.ok (), st'))
    (ht : st.state.Consistent b)
    (hs : st.writer.status = none) :
    ∃ status id samplingBits,
      (∃ queueSize, st'.writer.bytes =
        st.writer.bytes ++ createResultBytes status id samplingBits queueSize ∧
        (status = good → queueSize = 1)) ∧
      (status = good → ∃ node w, let item := createdItem b subId id body node nowMs w
        item ∈ st'.state.monitoredItems ∧
        samplingBits = publishingIntervalMsToBits item.samplingIntervalMs) := by
  unfold createDecoded at h
  cases hcheck : createItemCheck b body (resolve body.nodeId) with
  | error e =>
    rw [hcheck] at h
    obtain ⟨hbytes, -⟩ := encode_emits (writeMonitoredItemCreateResult_emits e.code 0 0 0) h hs
    exact ⟨_, _, _, ⟨_, hbytes, fun hgood => absurd hgood e.2⟩, fun hgood => absurd hgood e.2⟩
  | ok node =>
    rw [hcheck] at h
    dsimp only at h
    rw [run_update_bind] at h
    rcases halloc : monitoredItemAlloc b st.state subId with ⟨e | ⟨slot, id⟩, t⟩
    · rw [halloc] at h
      obtain ⟨hbytes, -⟩ := encode_emits (writeMonitoredItemCreateResult_emits e.code 0 0 0) h hs
      exact ⟨_, _, _, ⟨_, hbytes, fun hgood => absurd hgood e.2⟩, fun hgood => absurd hgood e.2⟩
    · have hslot := createItem_slot ht subId body node nowMs st.world halloc
      rw [halloc] at h
      let item :=
        (initialSample body node (fillItem b body node nowMs (t.monitoredItems.getD slot (.zero b)))).run
          st.world
      have hrun :
        (encode (writeMonitoredItemCreateResult good id item.1.samplingIntervalMs 1) :
          ItemM W cap Unit).run.run ⟨st.reader, st.writer,
          { t with monitoredItems := t.monitoredItems.set slot item.1 }, item.2⟩ = (.ok (), st') := h
      obtain ⟨hbytes, hstate⟩ :=
        encode_emits (writeMonitoredItemCreateResult_emits good id item.1.samplingIntervalMs 1) hrun hs
      have htable : createItem b subId body node nowMs st.world st.state = st'.state := by
        rw [hstate, createItem, halloc]
      rw [htable] at hslot
      have hitem : item.1 = createdItem b subId id body node nowMs st.world := by
        rw [hstate, List.getElem?_set_self', Option.map_eq_map, Option.map_eq_some_iff] at hslot
        obtain ⟨old, -, hitem⟩ := hslot
        exact hitem
      refine ⟨_, _, _, ⟨_, hbytes, fun _ => rfl⟩, fun _ => ⟨node, st.world, ?_, ?_⟩⟩
      · exact List.mem_of_getElem? hslot
      · rw [if_pos rfl, hitem]

theorem modifyItem_ok {sampling : UInt32} {body : ModifyBody}
    (h : (modifyItem b subId body t).1 = .ok sampling) :
    sampling = publishingIntervalBitsToMs b body.samplingIntervalBits ∧
      ∃ (i : Nat) (item : MonitoredItem W), t.monitoredItems[i]? = some item ∧
        item.Named subId body.monitoredItemId ∧ (modifyItem b subId body t).2.monitoredItems[i]? =
          some { item with samplingIntervalMs := sampling, clientHandle := body.clientHandle } := by
  cases hfind : findMonitoredItem t subId body.monitoredItemId with
  | none =>
    rw [modifyItem, hfind] at h
    cases h
  | some i =>
    obtain ⟨item, hi, hitem⟩ := findMonitoredItem_eq_some hfind
    simp only [modifyItem, hfind] at h ⊢
    split at h
    · cases h
    · split at h
      · cases h
      · rename_i hcheck hallowed
        obtain rfl := Except.ok.inj h
        refine ⟨rfl, i, item, hi, hitem, ?_⟩
        rw [if_neg hallowed, List.getElem?_modify_eq, hi]
        rfl

/-- What a modify operation reports: a fault, or the item with its new interval and handle. -/
theorem modifyMonitoredItem_reports (hs : st.writer.status = none)
    (h : (modifyMonitoredItem b subId).run.run st = (.ok (), st')) :
    ∃ request r, (readModifyRequest b).run.run st.reader = (.ok request, r) ∧ ∃ status samplingBits,
      st'.writer.bytes = st.writer.bytes ++ modifyResultBytes status samplingBits 1 ∧
      (status = good → ∃ (i : Nat) (item : MonitoredItem W), st.state.monitoredItems[i]? = some item ∧
        item.Named subId request.body.monitoredItemId ∧
        let sampling := publishingIntervalBitsToMs b request.body.samplingIntervalBits
        samplingBits = publishingIntervalMsToBits sampling ∧ st'.state.monitoredItems[i]? =
          some { item with
            samplingIntervalMs := sampling, clientHandle := request.body.clientHandle }) := by
  obtain ⟨body, u, hdecode, hrest⟩ := bind_returns.mp h
  obtain ⟨r, hread, rfl⟩ := decode_returns.mp hdecode
  obtain ⟨result, v, hupdate, hwrite⟩ := bind_returns.mp hrest
  obtain ⟨rfl, rfl⟩ := update_returns.mp hupdate
  obtain ⟨hbytes, hstate⟩ := encode_emits (writeMonitoredItemModifyResult_emits _) hwrite hs
  rw [readModifyBody_eq, run_map] at hread
  rcases hrequest : (readModifyRequest b).run.run st.reader with ⟨e | request, r'⟩
  · rw [hrequest] at hread
    cases hread
  · rw [hrequest] at hread
    cases hread
    refine ⟨request, r', rfl, _, _, hbytes, fun hgood => ?_⟩
    cases hresult : (modifyItem b subId request.body st.state).1 with
    | error e =>
      rw [hresult] at hgood
      exact absurd hgood e.2
    | ok sampling =>
      obtain ⟨rfl, i, item, hi, hitem, hmodified⟩ := modifyItem_ok hresult
      refine ⟨i, item, hi, hitem, rfl, ?_⟩
      rw [hstate]
      exact hmodified

/-- A created item is reported as it is exactly when its interval is not zero and the effective queue
size of the request is 1. A modified one is, and has the settings of the request, exactly when moreover
the request asks for the filter, queue size and policy that the item already has. -/
theorem item_settings_reported_iff (hstd : b.subscriptionsStandard = true) :
    (∀ (p : Platform W) resolve subId nowMs (st st' : HandlerState (ItemTable W) W cap),
      st.state.Consistent b → st.writer.status = none →
      (createMonitoredItem b p resolve subId nowMs).run.run st = (.ok (), st') →
      ∃ clauses body r, (readMonitoredItemCreateBody b clauses).run.run st.reader = (.ok body, r) ∧
      ∃ status id samplingBits queueSize,
        st'.writer.bytes = st.writer.bytes ++ createResultBytes status id samplingBits queueSize ∧
        (status = good → ∃ item ∈ st'.state.monitoredItems, item.Named subId id ∧
          (item.Reports b samplingBits queueSize ↔
            publishingIntervalBitsToMs b body.samplingIntervalBits ≠ 0 ∧
              MonitoredItem.clampQueueSize b body.queueSize = 1))) ∧
    ∀ subId (st st' : HandlerState (ItemTable W) W cap), st.writer.status = none →
      (modifyMonitoredItem b subId).run.run st = (.ok (), st') →
      ∃ request r, (readModifyRequest b).run.run st.reader = (.ok request, r) ∧
        ∃ status samplingBits queueSize,
        st'.writer.bytes = st.writer.bytes ++ modifyResultBytes status samplingBits queueSize ∧
        (status = good →
          ∃ (i : Nat) (item item' : MonitoredItem W), st.state.monitoredItems[i]? = some item ∧
          item.Named subId request.body.monitoredItemId ∧ st'.state.monitoredItems[i]? = some item' ∧
          (item.WellQueued b → item'.WellQueued b) ∧
          (item'.Reports b samplingBits queueSize ∧ item'.Follows b request ↔
            publishingIntervalBitsToMs b request.body.samplingIntervalBits ≠ 0 ∧
              MonitoredItem.clampQueueSize b item.queueSize = 1 ∧ item.Keeps b request)) := by
  constructor
  · intro p resolve subId nowMs st st' ht hs h
    obtain ⟨clauses, w, hrun⟩ := createMonitoredItem_draws (b := b) p resolve subId nowMs st
    obtain ⟨body, u, hdecode, hrest⟩ := bind_returns.mp (hrun.symm.trans h)
    obtain ⟨r, hread, rfl⟩ := decode_returns.mp hdecode
    obtain ⟨status, id, samplingBits, ⟨queueSize, hbytes, hqueue⟩, hitem⟩ :=
      createDecoded_reports hrest ht hs
    refine ⟨clauses, body, r, hread, status, id, samplingBits, queueSize, hbytes, fun hgood => ?_⟩
    obtain ⟨node, w, hmem, rfl⟩ := hitem hgood
    obtain ⟨hnew, hid⟩ := createdItem_new (b := b) subId id body node nowMs w
    obtain ⟨hsampling, hsize⟩ := createdItem_settings hstd subId id body node nowMs w
    refine ⟨_, hmem, ⟨hnew.inUse, hnew.subscription, hid⟩, ?_⟩
    rw [MonitoredItem.Reports, publishingIntervalMsToBits_denotes, hqueue hgood, hsampling, hsize,
      clampQueueSize_idem, eq_comm (a := (1 : UInt32))]
  · intro subId st st' hs h
    obtain ⟨request, r, hread, status, samplingBits, hbytes, hitem⟩ := modifyMonitoredItem_reports hs h
    refine ⟨request, r, hread, status, samplingBits, 1, hbytes, fun hgood => ?_⟩
    obtain ⟨i, item, hi, hnamed, rfl, hmodified⟩ := hitem hgood
    refine ⟨i, item, _, hi, hnamed, hmodified, fun hwell => hwell.congr rfl, ?_⟩
    rw [MonitoredItem.Reports, publishingIntervalMsToBits_denotes]
    constructor
    · rintro ⟨⟨hinterval, hsize⟩, hfollows⟩
      exact ⟨hinterval, hsize.symm, hfollows.trigger, hfollows.deadbandType, hfollows.deadbandValue,
        hfollows.queueSize, hfollows.discardOldest⟩
    · rintro ⟨hinterval, hsize, hkeeps⟩
      exact ⟨⟨hinterval, hsize.symm⟩, rfl, rfl, hkeeps.trigger, hkeeps.deadbandType,
        hkeeps.deadbandValue, hkeeps.queueSize, hkeeps.discardOldest⟩

end Settings

namespace EngineScript

theorem monitoring_mode_as_requested_sampling :
    ∀ item ∈ (after [subscribe 1, monitor 2 10 5, .setMonitoringMode 1 1 1]).items.monitoredItems,
      item.inUse = true → item.ValidMode := by
  apply monitoring_mode_as_requested.1
  apply EngineRuns.of_ops
  intro op hop s
  simp only [List.mem_cons, List.not_mem_nil, or_false] at hop
  obtain rfl | rfl | rfl := hop
  · trivial
  · exact (by decide : (2 : UInt32) ≤ 2)
  · exact (by decide : (1 : UInt32) ≤ 2)

/-- Mode 259 is accepted and stored as 3, which is no mode; 258 is accepted and stored as Reporting. -/
theorem monitoring_mode_stored_as_low_byte :
    let s := after [subscribe 1, monitor 2 10 5]
    (setMonitoringModeResult 259 1 1 s).1 = .ok () ∧
      (∃ item ∈ (setMonitoringModeResult 259 1 1 s).2.items.monitoredItems, item.inUse = true ∧
        ¬ item.ValidMode) ∧
      ∀ item ∈ (after [subscribe 1, monitor 258 10 5]).items.monitoredItems, item.inUse = true →
          ¬ item.HasMode 258 := by
  refine ⟨?_, ?_, ?_⟩
  · rfl
  · decide
  · decide

def deepBuild : Build :=
  { build with
    monitoredQueueDepth := 2
    maxMonitoredItems_lt := by decide
    monitoredQueueDepth_pos := by decide }

def modifyRequest (clientHandle queueSize : UInt32) (discardOldest : UInt8) : Bytes :=
  put 4 1 ++ put 4 clientHandle.toNat ++ put 8 0 ++ nullExtensionObjectBytes ++ put 4 queueSize.toNat ++
    [discardOldest]

def modifying (b : Build) (ops : List (EngineOp Unit)) (request : Bytes) :
    HandlerState (ItemTable Unit) Unit 64 :=
  ⟨.init request, .init, (runOps b ops (.init b)).items, ()⟩

theorem item_settings_reported_iff_same :
    let st := modifying deepBuild [subscribe 1, monitor 2 10 5] (modifyRequest 11 1 1)
    let st' := ((modifyMonitoredItem deepBuild 1).run.run st).2
    ∃ request r, (readModifyRequest deepBuild).run.run st.reader = (.ok request, r) ∧
      ∃ status samplingBits queueSize,
      st'.writer.bytes = modifyResultBytes status samplingBits queueSize ∧
        (status = good → ∃ (i : Nat) (item item' : MonitoredItem Unit),
          st.state.monitoredItems[i]? = some item ∧ item.Named 1 request.body.monitoredItemId ∧
          st'.state.monitoredItems[i]? = some item' ∧
          (item.WellQueued deepBuild → item'.WellQueued deepBuild) ∧
          (item'.Reports deepBuild samplingBits queueSize ∧ item'.Follows deepBuild request ↔
            publishingIntervalBitsToMs deepBuild request.body.samplingIntervalBits ≠ 0 ∧
              MonitoredItem.clampQueueSize deepBuild item.queueSize = 1 ∧
              item.Keeps deepBuild request)) :=
  (item_settings_reported_iff (b := deepBuild) rfl).2 1 _ _ rfl (returns_of_fst (by decide))

/-- An item with a queue of two entries is reported with one, and a request for one entry and the other
policy is reported Good and changes neither. -/
theorem queue_settings_dropped :
    let st := modifying deepBuild [subscribe 1, .createItem 1 (queueOf 2) ⟨none⟩ 0 ()]
      (modifyRequest 11 1 0)
    let p := (modifyMonitoredItem deepBuild 1).run.run st
    p.1 = .ok () ∧ p.2.writer.bytes = modifyResultBytes good (publishingIntervalMsToBits 50) 1 ∧
      ∀ item ∈ p.2.state.monitoredItems, item.inUse = true →
        item.clientHandle = 11 ∧ item.queueSize = 2 ∧ item.discardOldest = true := by
  decide

end EngineScript

end MicroOpcua
