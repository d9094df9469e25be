import MicroOpcua.Spec.ItemSettings

namespace MicroOpcua

open Lib.StateRun

variable {W : Type} {b : Build}

section Requests

structure CreateRequest where
  common : MonitoredItemCreateBody
  fields : Option Bytes
  deriving DecidableEq

def filterClauses (clauses : SelectClauses) : Option Bytes → SelectClauses
  | none => clauses
  | some fields => ⟨storedClauses fields, UInt8.ofNat (min fields.length 8)⟩

/-- The record the request is decoded into, where `clauses` is what it holds before. -/
def CreateRequest.body (clauses : SelectClauses) (request : CreateRequest) : MonitoredItemCreateBody :=
  { request.common with
    selectClauses := filterClauses clauses request.fields }

def readEventFields : ReadM Bytes := do
  let selectCount ← readInt32
  if selectCount < 0 then throw .decodingError
  let fields ← readEach readSelectClause selectCount.toNat
  let elementCount ← readInt32
  if elementCount < 0 then throw .decodingError
  let _ ← readEach skipContentFilterElement elementCount.toNat
  checkReader
  return fields

def readCreateFilter (b : Build) (type : NodeId) (length : Nat) : ReadM (FilterBody × Option Bytes) := do
  if b.subscriptionsStandard then
    ensureBytesRemaining length
    if type.ns0Numeric? = some dataChangeFilterId then
      let body ← readExactly length
        (readDatachangeFilterBody length { FilterBody.default with hasDatachangeFilter := true })
      return (body, none)
    else if type.ns0Numeric? = some aggregateFilterId then
      let body ← readExactly length (readAggregateFilterBody b.double length .default)
      return (body, none)
    else if b.events ∧ type.ns0Numeric? = some eventFilterId then
      return (.default, some (← readExactly length readEventFields))
    else if type.ns0Numeric? = some 0 ∧ length = 0 then
      return (.default, none)
    else
      skipExtensionObjectBody length
      return ({ FilterBody.default with filterResult := Fault.monitoredItemFilterUnsupported.code },
        none)
  else
    if b.events ∧ type.ns0Numeric? = some eventFilterId then
      return (.default, some (← readEventFields))
    else
      skipExtensionObjectBody length
      return (.default, none)

def readCreateRequest (b : Build) : ReadM CreateRequest := do
  let nodeId ← readNodeId
  let attributeId ← readUInt32
  let _ ← readString
  let _ ← readUInt16
  let _ ← readString
  let monitoringMode ← unchecked 0 readUInt32
  let clientHandle ← unchecked 0 readUInt32
  let samplingIntervalBits ← unchecked 0 readUInt64
  checkReader
  let (filterType, filterLength) ← readExtensionObjectHeader
  let (filter, fields) ← readCreateFilter b filterType filterLength
  let queueSize ← unchecked 0 readUInt32
  let discardOldest ← unchecked false readBoolean
  checkReader
  return ⟨⟨nodeId, attributeId, monitoringMode, clientHandle, samplingIntervalBits, filter,
    noClauses, queueSize, discardOldest⟩, fields⟩

theorem readEventFilterBody_eq : readEventFilterBody =
      (fun fields => (⟨storedClauses fields, UInt8.ofNat (min fields.length 8)⟩ : SelectClauses)) <$>
      readEventFields := by
  simp only [readEventFilterBody, readEventFields, map_bind]
  refine bind_congr fun _ => ?_
  split
  · rfl
  · simp only [map_bind]
    refine bind_congr fun _ => bind_congr fun _ => ?_
    split
    · rfl
    · simp only [map_bind, map_pure]

theorem readExactly_map {α β : Type} (length : Nat) (f : α → β) (m : ReadM α) :
    readExactly length (f <$> m) = f <$> readExactly length m := by
  simp only [readExactly, map_bind, bind_map_left]
  refine bind_congr fun _ => bind_congr fun _ => bind_congr fun _ => ?_
  split
  · rfl
  · rfl

theorem readStandardFilter_eq (hstd : b.subscriptionsStandard = true) (clauses : SelectClauses)
    (type : NodeId) (length : Nat) : readStandardFilter b clauses type length =
      (fun p : FilterBody × Option Bytes => (p.1, filterClauses clauses p.2)) <$>
      readCreateFilter b type length := by
  simp only [readStandardFilter, readCreateFilter, if_pos hstd, map_bind]
  refine bind_congr fun _ => ?_
  split
  · simp only [map_bind, map_pure, filterClauses]
  · split
    · simp only [map_bind, map_pure, filterClauses]
    · split
      · simp only [readEventFilterBody_eq, readExactly_map, map_bind, map_pure,
          bind_map_left, filterClauses]
      · split
        · rfl
        · simp only [map_bind, map_pure, filterClauses]

theorem readBasicFilter_eq (hbasic : ¬ b.subscriptionsStandard = true) (clauses : SelectClauses)
    (type : NodeId) (length : Nat) : readBasicFilter b clauses type length =
      (fun p : FilterBody × Option Bytes => (p.1, filterClauses clauses p.2)) <$>
      readCreateFilter b type length := by
  simp only [readBasicFilter, readCreateFilter, if_neg hbasic]
  split
  · simp only [readEventFilterBody_eq, map_bind, map_pure, bind_map_left, filterClauses]
  · simp only [map_bind, map_pure, filterClauses]

/-- The server decodes a request into a record, of which only an event filter sets the select clauses. -/
theorem readMonitoredItemCreateBody_eq (b : Build) (clauses : SelectClauses) :
    readMonitoredItemCreateBody b clauses = CreateRequest.body clauses <$> readCreateRequest b := by
  simp only [readMonitoredItemCreateBody, readCreateRequest, map_bind]
  iterate 10 refine bind_congr fun _ => ?_
  split
  · rename_i hstd
    simp only [readStandardFilter_eq hstd, bind_map_left, map_pure]
    rfl
  · rename_i hbasic
    simp only [readBasicFilter_eq hbasic, bind_map_left, map_pure]
    rfl

end Requests

section Stored

variable {r r' : Reader} {request : CreateRequest}

theorem createdItem_clauses (hevents : b.events = true) (subId id : UInt32)
    (body : MonitoredItemCreateBody) (node : Node W) (nowMs : UInt64) (w : W) :
    (createdItem b subId id body node nowMs w).selectClauses = body.selectClauses.clauses.1 ∧
      (createdItem b subId id body node nowMs w).selectClausesCount = body.selectClauses.count := by
  refine createdItem_keeps (P := fun item => item.selectClauses = _ ∧ item.selectClausesCount = _) ?_
    (fun _ _ _ h => h) w
  simp only [fillItem, if_pos hevents]
  split
  · exact ⟨rfl, rfl⟩
  · exact ⟨rfl, rfl⟩

theorem storedCount_toNat (fields : Bytes) :
    (UInt8.ofNat (min fields.length 8)).toNat = min fields.length 8 :=
  Nat.mod_eq_of_lt (by omega)

theorem createdItem_clauses_iff (hevents : b.events = true) (request : CreateRequest) (subId id : UInt32)
    (node : Node W) (nowMs : UInt64) (w : W) :
    let item clauses := createdItem b subId id (request.body clauses) node nowMs w
    (∀ clauses clauses', (item clauses).selectClauses = (item clauses').selectClauses ∧
        (item clauses).selectClausesCount = (item clauses').selectClausesCount) ∧
      (∀ clauses, (item clauses).selectClausesCount.toNat ≤ 8) ∧
      (∀ fields, request.fields = some fields →
        ∀ clauses, (item clauses).selectClausesCount.toNat = fields.length) ↔
      ∃ fields, request.fields = some fields ∧ fields.length ≤ 8 := by
  have hclauses (clauses : SelectClauses) :
      (createdItem b subId id (request.body clauses) node nowMs w).selectClauses =
        (filterClauses clauses request.fields).clauses.1 ∧
      (createdItem b subId id (request.body clauses) node nowMs w).selectClausesCount =
        (filterClauses clauses request.fields).count :=
    createdItem_clauses hevents subId id (request.body clauses) node nowMs w
  simp only [hclauses]
  cases hfields : request.fields with
  | none =>
    refine iff_of_false ?_ nofun
    rintro ⟨hsame, -, -⟩
    have hcount := (hsame noClauses ⟨noClauses.clauses, 1⟩).2
    exact absurd hcount (by decide)
  | some fields =>
    constructor
    · rintro ⟨-, -, hall⟩
      have hlength := hall fields rfl noClauses
      rw [filterClauses, storedCount_toNat] at hlength
      exact ⟨fields, rfl, by omega⟩
    · rintro ⟨fields', hfields', hlength⟩
      obtain rfl := Option.some.inj hfields'
      refine ⟨fun _ _ => ⟨rfl, rfl⟩, fun _ => ?_, fun fields' hfields' _ => ?_⟩
      · rw [filterClauses, storedCount_toNat]
        omega
      · obtain rfl := Option.some.inj hfields'
        rw [filterClauses, storedCount_toNat]
        omega

/-- An entry is decoded whatever the record holds before. If it is accepted and has a slot, then what is
stored of its select clauses depends on the entry alone, and is all of them, exactly for an event filter
of at most eight clauses. -/
theorem select_clauses_stored_iff {cap : Nat} {resolve : NodeId → Option (Node W)} {subId id : UInt32}
    {slot : Nat} {node : Node W} {t : ItemTable W} {st : HandlerState (ItemTable W) W cap}
    (hevents : b.events = true)
    (hread : (readCreateRequest b).run.run r = (.ok request, r'))
    (haccepted : createItemCheck b request.common (resolve request.common.nodeId) = .ok node)
    (halloc : monitoredItemAlloc b st.state subId = (.ok (slot, id), t)) (hstate : st.state.Consistent b)
    (hwriter : st.writer.status = none) (nowMs : UInt64) :
    (∀ clauses, (readMonitoredItemCreateBody b clauses).run.run r = (.ok (request.body clauses), r')) ∧
      ∃ item : SelectClauses → MonitoredItem W,
        (∀ clauses, ((createDecoded b resolve subId nowMs (request.body clauses)).run.run
          st).2.state.monitoredItems[slot]? = some (item clauses)) ∧
        ((∀ clauses clauses', (item clauses).selectClauses = (item clauses').selectClauses ∧
            (item clauses).selectClausesCount = (item clauses').selectClausesCount) ∧
          (∀ clauses, (item clauses).selectClausesCount.toNat ≤ 8) ∧
          (∀ fields, request.fields = some fields → ∀ clauses,
            (item clauses).selectClausesCount.toNat = fields.length) ↔
          ∃ fields, request.fields = some fields ∧ fields.length ≤ 8) := by
  refine ⟨fun clauses => ?_, fun clauses =>
    createdItem b subId id (request.body clauses) node nowMs st.world, fun clauses => ?_,
      createdItem_clauses_iff hevents request subId id node nowMs st.world⟩
  · rw [readMonitoredItemCreateBody_eq, run_map, hread]
    rfl
  · have hcheck : createItemCheck b (request.body clauses) (resolve (request.body clauses).nodeId) =
      .ok node := haccepted
    obtain ⟨result, u, hrun, hstored, -⟩ :=
      createDecoded_acts resolve subId nowMs (request.body clauses) hwriter
    rw [hcheck] at hstored
    rw [hrun]
    dsimp only at hstored ⊢
    rw [hstored]
    exact createItem_slot hstate subId (request.body clauses) node nowMs st.world halloc

end Stored

namespace EngineScript

open Lib.LittleEndian

def createEntry (filter : Bytes) : Bytes :=
  [0, 85] ++ put 4 13 ++ put 4 0xFFFFFFFF ++ put 2 0 ++ put 4 0xFFFFFFFF ++ put 4 2 ++ put 4 10 ++
    put 8 0 ++ filter ++ put 4 1 ++ [1]

/-- An event filter with one clause: an empty browse path, no index range, and no where clause. -/
def oneClauseFilter : Bytes :=
  [1, 0] ++ put 2 727 ++ [1] ++ put 4 22 ++
    (put 4 1 ++ [0, 0] ++ put 4 0 ++ put 4 13 ++ put 4 0xFFFFFFFF ++ put 4 0)

def oneClauseRequest : CreateRequest := ⟨⟨.ns0 85, 13, 2, 10, 0, .default, noClauses, 1, true⟩, some [0]⟩

theorem select_clauses_stored_iff_one :
    let st : HandlerState (ItemTable Unit) Unit 100 := ⟨.init [], .init, (after [subscribe 1]).items, ()⟩
    ∃ item : SelectClauses → MonitoredItem Unit,
      (∀ clauses,
        ((createDecoded build (fun _ => some ⟨none⟩) 1 0 (oneClauseRequest.body clauses)).run.run
          st).2.state.monitoredItems[0]? = some (item clauses)) ∧
      ((∀ clauses clauses', (item clauses).selectClauses = (item clauses').selectClauses ∧
          (item clauses).selectClausesCount = (item clauses').selectClausesCount) ∧
        (∀ clauses, (item clauses).selectClausesCount.toNat ≤ 8) ∧
        (∀ fields, oneClauseRequest.fields = some fields → ∀ clauses,
          (item clauses).selectClausesCount.toNat = fields.length) ↔
        ∃ fields, oneClauseRequest.fields = some fields ∧ fields.length ≤ 8) := by
  intro st
  have hread : ((readCreateRequest build).run.run (.init (createEntry oneClauseFilter))).1.toOption =
      some oneClauseRequest := by decide +kernel
  have halloc :
      monitoredItemAlloc build st.state 1 = (.ok (0, 1), (monitoredItemAlloc build st.state 1).2) :=
    Prod.ext (by decide) rfl
  rcases hrun :
    (readCreateRequest build).run.run (.init (createEntry oneClauseFilter)) with ⟨e | request, r'⟩
  · rw [hrun] at hread
    cases hread
  · rw [hrun] at hread
    obtain rfl := Option.some.inj hread
    exact (select_clauses_stored_iff rfl hrun rfl halloc
      (runOps_consistent [subscribe 1] init_consistent).items rfl 0).2

/-- An entry without a filter is stored with whatever count the stack held: here 200 clauses of an array
of eight. -/
theorem select_clauses_uninitialised :
    let read (count : UInt8) := ((readMonitoredItemCreateBody build ⟨noClauses.clauses, count⟩).run.run
      (.init (createEntry nullExtensionObjectBytes))).1
    (read 0).toOption.map (fun body => (createdItem build 1 1 body ⟨none⟩ 0 ()).selectClausesCount) =
      some 0 ∧
      (read 200).toOption.map (fun body => (createdItem build 1 1 body ⟨none⟩ 0 ()).selectClausesCount) =
        some 200 := by
  decide +kernel

end EngineScript

end MicroOpcua
