import MicroOpcua.Services.SubscriptionService

namespace MicroOpcua

def dataChangeFilterId : UInt32 := 724
def eventFilterId : UInt32 := 727
def aggregateFilterId : UInt32 := 730

structure FilterBody where
  trigger : DataChangeTrigger
  deadbandType : DeadbandType
  deadbandValue : UInt64
  filterResult : StatusCode
  hasDatachangeFilter : Bool
  hasAggregate : Bool
  aggregateType : UInt32
  processingInterval : UInt64
  deriving DecidableEq

def FilterBody.default : FilterBody := ⟨.statusValue, .none, 0, good, false, false, 0, 0⟩

structure SelectClauses where
  clauses : Block 8
  count : UInt8
  deriving DecidableEq

def noClauses : SelectClauses := ⟨⟨List.replicate 8 0, rfl⟩, 0⟩

structure MonitoredItemCreateBody where
  nodeId : NodeId
  attributeId : UInt32
  monitoringMode : UInt32
  clientHandle : UInt32
  samplingIntervalBits : UInt64
  filter : FilterBody
  selectClauses : SelectClauses
  queueSize : UInt32
  discardOldest : Bool
  deriving DecidableEq

def isNumericVariantType (type : UInt8) : Bool := 2 ≤ type && type ≤ 11

def monitoredNodeHasNumericStaticValue {W : Type} (node : Node W) : Bool :=
  match node.value with
  | none => false
  | some (.callback _) => true
  | some (.static (.array _ _ _)) => false
  | some (.static (.scalar v)) => isNumericVariantType v.type

def setDatachangeTriggerFromWire (body : FilterBody) (trigger : UInt32) : FilterBody :=
  if trigger = 0 then { body with trigger := .status }
  else if trigger = 1 then { body with trigger := .statusValue }
  else if trigger = 2 then { body with trigger := .statusValueTimestamp }
  else { body with filterResult := Fault.monitoredItemFilterInvalid.code }

def setDeadbandFromWire (body : FilterBody) (deadbandType : UInt32) (value : UInt64) : FilterBody :=
  if deadbandType = 0 then { body with deadbandType := .none, deadbandValue := 0 }
  else if deadbandType = 1 then { body with deadbandType := .absolute, deadbandValue := value }
  else if deadbandType = 2 then
    { body with
      deadbandType := .percent
      deadbandValue := value
      filterResult :=
        if body.filterResult = good then
          Fault.monitoredItemFilterUnsupported.code else body.filterResult }
  else { body with filterResult := Fault.monitoredItemFilterInvalid.code }

def readDatachangeFilterBody (filterLength : Nat) (body : FilterBody) : ReadM FilterBody := do
  if filterLength = 0 then return body
  if filterLength ≠ 16 then throw .decodingError
  ensureBytesRemaining filterLength
  let trigger ← unchecked 0 readUInt32
  let deadbandType ← unchecked 0 readUInt32
  let deadbandValue ← unchecked 0 readUInt64
  checkReader
  return setDeadbandFromWire (setDatachangeTriggerFromWire body trigger) deadbandType deadbandValue

def aggregateFilterResult (d : DoubleOps) (aggregateType : NodeId) (interval : UInt64)
    (body : FilterBody) : FilterBody :=
  let body := { body with hasAggregate := true, processingInterval := interval }
  match aggregateType.ns0Numeric? with
  | none => { body with filterResult := Fault.monitoredItemFilterUnsupported.code }
  | some type =>
    let body := { body with aggregateType := type }
    if type ≠ MonitoredItem.aggregateAverage ∧ type ≠ MonitoredItem.aggregateMinimum ∧
        type ≠ MonitoredItem.aggregateMaximum then
      { body with filterResult := Fault.monitoredItemFilterUnsupported.code }
    else if d.le interval 0 then { body with filterResult := Fault.filterNotAllowed.code }
    else body

def readAggregateFilterBody (d : DoubleOps) (filterLength : Nat) (body : FilterBody) :
    ReadM FilterBody := do
  if filterLength = 0 then return { body with filterResult := Fault.decodingError.code }
  ensureBytesRemaining filterLength
  let _ ← readUInt64
  let aggregateType ← readNodeId
  let interval ← readUInt64
  let _ ← unchecked false readBoolean
  let _ ← unchecked false readBoolean
  let _ ← unchecked 0 readByte
  let _ ← unchecked 0 readByte
  let _ ← unchecked false readBoolean
  checkReader
  return aggregateFilterResult d aggregateType interval body

def selectFieldType (name : MuString) : UInt8 :=
  if name = some (utf8 "EventId") then 1
  else if name = some (utf8 "EventType") then 2
  else if name = some (utf8 "Time") then 3
  else if name = some (utf8 "Message") then 4
  else if name = some (utf8 "Severity") then 5
  else 0

def readSelectClause : ReadM UInt8 := do
  let _ ← readNodeId
  let count ← readInt32
  if count < 0 then throw .decodingError
  let names ← readEach (do
    let _ ← unchecked 0 readUInt16
    readString) count.toNat
  let _ ← unchecked 0 readUInt32
  let _ ← readString
  return selectFieldType (names.getLast?.getD none)

def skipContentFilterElement : ReadM Unit := do
  let _ ← unchecked 0 readUInt32
  let argCount ← unchecked 0 readInt32
  if argCount < 0 then throw .decodingError
  let _ ← readEach (do
    let (_, len) ← readExtensionObjectHeader
    skipExtensionObjectBody len) argCount.toNat

def storedClauses (fields : Bytes) : Block 8 :=
  ⟨(fields ++ List.replicate 8 0).take 8, by simp⟩

def readEventFilterBody : ReadM SelectClauses := do
  let selectCount ← readInt32
  if selectCount < 0 then throw .decodingError
  let fields ← readEach readSelectClause selectCount.toNat
  let elementCount ← readInt32
  if elementCount < 0 then throw .decodingError
  let _ ← readEach skipContentFilterElement elementCount.toNat
  checkReader
  return ⟨storedClauses fields, UInt8.ofNat (min fields.length 8)⟩

def readExactly {α : Type} (length : Nat) (m : ReadM α) : ReadM α := do
  let start := (← get).position
  let a ← m
  if (← get).position ≠ start + length then throw .decodingError
  return a

def readStandardFilter (b : Build) (clauses : SelectClauses) (type : NodeId) (length : Nat) :
    ReadM (FilterBody × SelectClauses) := do
  ensureBytesRemaining length
  if type.ns0Numeric? = some dataChangeFilterId then
    let body ← readExactly length
      (readDatachangeFilterBody length { FilterBody.default with hasDatachangeFilter := true })
    return (body, clauses)
  else if type.ns0Numeric? = some aggregateFilterId then
    let body ← readExactly length (readAggregateFilterBody b.double length .default)
    return (body, clauses)
  else if b.events ∧ type.ns0Numeric? = some eventFilterId then
    return (.default, ← readExactly length readEventFilterBody)
  else if type.ns0Numeric? = some 0 ∧ length = 0 then
    return (.default, clauses)
  else
    skipExtensionObjectBody length
    return ({ FilterBody.default with filterResult := Fault.monitoredItemFilterUnsupported.code },
      clauses)

def readBasicFilter (b : Build) (clauses : SelectClauses) (type : NodeId) (length : Nat) :
    ReadM (FilterBody × SelectClauses) := do
  if b.events ∧ type.ns0Numeric? = some eventFilterId then
    return (.default, ← readEventFilterBody)
  else
    skipExtensionObjectBody length
    return (.default, clauses)

/-- `read_monitored_item_create_body`. `clauses` is what the uninitialised record holds in the
fields only an event filter sets. -/
def readMonitoredItemCreateBody (b : Build) (clauses : SelectClauses) :
    ReadM MonitoredItemCreateBody := do
  let nodeId ← readNodeId
  let attributeId ← readUInt32
  let _ ← readString
  let _ ← readUInt16
  let _ ← readString
  let monitoringMode ← unchecked 0 readUInt32
  let clientHandle ← unchecked 0 readUInt32
  let samplingIntervalBits ← unchecked 0 readUInt64
  checkReader
  let (filterType, filterLength) ← readExtensionObjectHeader
  let (filter, clauses) ←
    if b.subscriptionsStandard then readStandardFilter b clauses filterType filterLength
    else readBasicFilter b clauses filterType filterLength
  let queueSize ← unchecked 0 readUInt32
  let discardOldest ← unchecked false readBoolean
  checkReader
  return ⟨nodeId, attributeId, monitoringMode, clientHandle, samplingIntervalBits, filter,
    clauses, queueSize, discardOldest⟩

def copyMonitoredNodeId (b : Build) (nodeId : NodeId) : NodeId :=
  match nodeId.identifier with
  | .numeric _ => nodeId
  | .string none => nodeId
  | .string (some s) => { nodeId with identifier := .string (some (s.take b.maxMonitoredString)) }

section

variable {W : Type} {cap : Nat}

open HandlerM

def createItemCheck (b : Build) (body : MonitoredItemCreateBody) (node : Option (Node W)) :
    Except Fault (Node W) := do
  let some node := node | throw .nodeIdUnknown
  if b.subscriptionsStandard then
    check body.filter.filterResult
    if body.filter.hasDatachangeFilter ∧ body.attributeId ≠ 13 then throw .filterNotAllowed
    if body.filter.deadbandType = .absolute ∧ ¬ monitoredNodeHasNumericStaticValue node then
      throw .monitoredItemFilterUnsupported
    if body.filter.hasAggregate ∧ ¬ monitoredNodeHasNumericStaticValue node then throw .filterNotAllowed
  if body.attributeId ≠ 13 ∧ ¬ (b.events ∧ body.attributeId = MonitoredItem.eventNotifierAttribute) then
    throw .attributeIdInvalid
  return node

def fillItem (b : Build) (body : MonitoredItemCreateBody) (node : Node W) (nowMs : UInt64)
    (item : MonitoredItem W) : MonitoredItem W :=
  let sampling := publishingIntervalBitsToMs b body.samplingIntervalBits
  let item := { item with
    nodeId := copyMonitoredNodeId b body.nodeId
    resolvedNode := some node
    attributeId := body.attributeId
    clientHandle := body.clientHandle
    monitoringMode := body.monitoringMode.toUInt8
    trigger := .statusValue
    samplingIntervalMs := sampling
    nextSampleMs := nowMs + sampling.toUInt64
    selectClauses := if b.events then body.selectClauses.clauses.1 else item.selectClauses
    selectClausesCount := if b.events then body.selectClauses.count else item.selectClausesCount }
  if b.subscriptionsStandard then
    { item with
      trigger := body.filter.trigger
      deadbandType := body.filter.deadbandType
      deadbandValue := body.filter.deadbandValue
      queueSize := MonitoredItem.clampQueueSize b body.queueSize
      discardOldest := body.discardOldest
      hasAggregate := body.filter.hasAggregate
      aggregateState :=
        if body.filter.hasAggregate then
          ⟨body.filter.processingInterval, nowMs, 0, .null, body.filter.aggregateType, 0⟩
        else item.aggregateState }
  else item

def initialSample (body : MonitoredItemCreateBody) (node : Node W) (item : MonitoredItem W) :
    StateM W (MonitoredItem W) := do
  match node.value with
  | none => return item
  | some source =>
    if body.attributeId = MonitoredItem.eventNotifierAttribute then return item
    let (status, value) ← valueSourceRead source body.nodeId item.lastValue
    return { item with
      lastStatus := status
      lastValue := value
      hasValue := status = good
      pending := status = good }

abbrev ItemM (W : Type) (cap : Nat) := HandlerM (ItemTable W) W cap

def writeNullExtensionObject : WriteM cap Unit := writeExtensionObjectHeader (.ns0 0) 0

def writeMonitoredItemCreateResult (result : StatusCode) (itemId samplingMs queueSize : UInt32) :
    WriteM cap Unit := do
  uncheckedWrite (writeUInt32 result)
  uncheckedWrite (writeUInt32 itemId)
  uncheckedWrite (writeUInt64 (if result = good then publishingIntervalMsToBits samplingMs else 0))
  uncheckedWrite (writeUInt32 queueSize)
  checkWriter
  writeNullExtensionObject

def createDecoded (b : Build) (resolve : NodeId → Option (Node W)) (subscriptionId : UInt32)
    (nowMs : UInt64) (body : MonitoredItemCreateBody) : ItemM W cap Unit := do
  match createItemCheck b body (resolve body.nodeId) with
  | .error e => encode (writeMonitoredItemCreateResult e.code 0 0 0)
  | .ok node =>
    match ← update (fun t => monitoredItemAlloc b t subscriptionId) with
    | .error e => encode (writeMonitoredItemCreateResult e.code 0 0 0)
    | .ok (slot, id) =>
      let items := (← state).monitoredItems
      let item := fillItem b body node nowMs (items.getD slot (.zero b))
      let item ← adapter (initialSample body node item)
      update (fun t => ((), { t with monitoredItems := t.monitoredItems.set slot item }))
      encode (writeMonitoredItemCreateResult good id item.samplingIntervalMs 1)

def createMonitoredItem (b : Build) (p : Platform W) (resolve : NodeId → Option (Node W))
    (subscriptionId : UInt32) (nowMs : UInt64) : ItemM W cap Unit := do
  let clauses ← adapter (p.uninitialised 8)
  let count ← adapter (p.uninitialised 1)
  let body ← decode (readMonitoredItemCreateBody b ⟨clauses, count.1.headD 0⟩)
  createDecoded b resolve subscriptionId nowMs body

def readItemsPreamble : ReadM (UInt32 × Int) := do
  let subscriptionId ← unchecked 0 readUInt32
  let _ ← unchecked 0 readUInt32
  let count ← unchecked 0 readInt32
  checkReader
  return (subscriptionId, count)

def checkItemsPreamble (subs : List Subscription) (sessionId subscriptionId : UInt32) (count : Int) :
    Except Fault Unit := do
  if count > maxSubscriptionOperations then throw .tooManyOperations
  if (subscriptionFind subs sessionId subscriptionId).isNone then throw .subscriptionIdInvalid
  if count ≤ 0 then throw .nothingToDo

def driveItemOperations {α : Type} (subs : List Subscription) (sessionId responseTypeId : UInt32)
    (setup : ItemM W cap α) (operation : UInt32 → α → ItemM W cap Unit) : ItemM W cap Unit := do
  let req ← decode requestHeaderDecode
  let (subscriptionId, count) ← decode readItemsPreamble
  checked (checkItemsPreamble subs sessionId subscriptionId count)
  encode do
    writeResponsePrefix responseTypeId req.requestHandle good
    writeInt32 count
  let a ← setup
  repeatM (operation subscriptionId a) count.toNat
  encode (writeInt32 0)

def createMonitoredItemsResponseId : UInt32 := 754
def modifyMonitoredItemsResponseId : UInt32 := 766
def setMonitoringModeResponseId : UInt32 := 770
def setTriggeringResponseId : UInt32 := 776
def deleteMonitoredItemsResponseId : UInt32 := 784

def handleCreateMonitoredItems (b : Build) (p : Platform W) (resolve : NodeId → Option (Node W))
    (subs : List Subscription) (caller : Caller) : ItemM W cap Unit :=
  driveItemOperations subs caller.sessionId createMonitoredItemsResponseId (adapter p.getTickMs)
    (createMonitoredItem b p resolve)

def isKnownMonitoringFilterBinaryType (b : Build) (type : NodeId) (length : Nat) : Bool :=
  match type.ns0Numeric? with
  | none => false
  | some id => (id = 0 && length = 0) || id = dataChangeFilterId || id = aggregateFilterId ||
    (b.events && id = eventFilterId)

def readModifyFilter (b : Build) (type : NodeId) (length : Nat) : ReadM (StatusCode × Bool) := do
  ensureBytesRemaining length
  if b.subscriptionsStandard ∧ type.ns0Numeric? = some dataChangeFilterId then
    let body ← readExactly length
      (readDatachangeFilterBody length { FilterBody.default with hasDatachangeFilter := true })
    return (body.filterResult, true)
  else
    skipExtensionObjectBody length
    if b.subscriptionsStandard ∧ ¬ isKnownMonitoringFilterBinaryType b type length then
      return (Fault.monitoredItemFilterUnsupported.code, false)
    return (good, false)

structure ModifyBody where
  monitoredItemId : UInt32
  clientHandle : UInt32
  samplingIntervalBits : UInt64
  filterResult : StatusCode
  hasDatachangeFilter : Bool

/-- One MonitoredItemModifyRequest; the queue size and the discard policy are read and dropped. -/
def readModifyBody (b : Build) : ReadM ModifyBody := do
  let monitoredItemId ← unchecked 0 readUInt32
  let clientHandle ← unchecked 0 readUInt32
  let samplingIntervalBits ← unchecked 0 readUInt64
  checkReader
  let (filterType, filterLength) ← readExtensionObjectHeader
  let (filterResult, hasDatachangeFilter) ← readModifyFilter b filterType filterLength
  let _ ← unchecked 0 readUInt32
  let _ ← unchecked false readBoolean
  checkReader
  return ⟨monitoredItemId, clientHandle, samplingIntervalBits, filterResult, hasDatachangeFilter⟩

def modifyItem (b : Build) (subscriptionId : UInt32) (body : ModifyBody) (t : ItemTable W) :
    Except Fault UInt32 × ItemTable W :=
  match findMonitoredItem t subscriptionId body.monitoredItemId with
  | none => (.error .monitoredItemIdInvalid, t)
  | some i =>
    match check body.filterResult with
    | .error e => (.error e, t)
    | .ok () =>
      if body.hasDatachangeFilter && t.monitoredItems[i]?.any (fun item => item.attributeId ≠ 13) then
        (.error .filterNotAllowed, t)
      else
        let sampling := publishingIntervalBitsToMs b body.samplingIntervalBits
        (.ok sampling, { t with
          monitoredItems := t.monitoredItems.modify i (fun item =>
            { item with samplingIntervalMs := sampling, clientHandle := body.clientHandle }) })

def writeMonitoredItemModifyResult (result : Except Fault UInt32) : WriteM cap Unit := do
  uncheckedWrite (writeUInt32 (statusOf result))
  uncheckedWrite (writeUInt64 (match result with
    | .ok sampling => publishingIntervalMsToBits sampling
    | .error _ => 0))
  uncheckedWrite (writeUInt32 1)
  checkWriter
  writeNullExtensionObject

def modifyMonitoredItem (b : Build) (subscriptionId : UInt32) : ItemM W cap Unit := do
  let body ← decode (readModifyBody b)
  let result ← update (modifyItem b subscriptionId body)
  encode (writeMonitoredItemModifyResult result)

def handleModifyMonitoredItems (b : Build) (subs : List Subscription) (caller : Caller) :
    ItemM W cap Unit :=
  driveItemOperations subs caller.sessionId modifyMonitoredItemsResponseId (pure ())
    (fun subscriptionId _ => modifyMonitoredItem b subscriptionId)

/-- `set_monitoring_mode_result`: the stored mode is the low byte of the requested one. -/
def setMonitoringModeResult (mode subscriptionId itemId : UInt32) (s : Subscriptions W) :
    Except Fault Unit × Subscriptions W :=
  match findMonitoredItem s.items subscriptionId itemId with
  | none => (.error .monitoredItemIdInvalid, s)
  | some i =>
    let items :=
      s.items.monitoredItems.modify i (fun item => { item with monitoringMode := mode.toUInt8 })
    (.ok (), { s with items := { s.items with monitoredItems := items } })

def handleSetMonitoringMode (caller : Caller) : SubscriptionM W cap Unit := do
  let req ← decode requestHeaderDecode
  let subscriptionId ← decode (unchecked 0 readUInt32)
  let mode ← decode (unchecked 0 readUInt32)
  driveSubscriptionIdStatusArray setMonitoringModeResponseId req.requestHandle caller.sessionId
    (some subscriptionId) (setMonitoringModeResult mode subscriptionId)

def deleteMonitoredItemResult (b : Build) (subscriptionId itemId : UInt32) (s : Subscriptions W) :
    Except Fault Unit × Subscriptions W :=
  match monitoredItemDelete b s.items subscriptionId itemId with
  | (r, items) => (r, { s with items := items })

def handleDeleteMonitoredItems (b : Build) (caller : Caller) : SubscriptionM W cap Unit := do
  let req ← decode requestHeaderDecode
  let subscriptionId ← decode (unchecked 0 readUInt32)
  driveSubscriptionIdStatusArray deleteMonitoredItemsResponseId req.requestHandle caller.sessionId
    (some subscriptionId) (deleteMonitoredItemResult b subscriptionId)

def readSetTriggeringUInt32Array : ReadM (List UInt32) := do
  let count ← readInt32
  if count < -1 then throw .decodingError
  if count > maxSubscriptionOperations then throw .tooManyOperations
  ensureArrayItemsMinRemaining count 4
  readEach readUInt32 count.toNat

def applyLinks (operation : ItemList W → UInt32 → Except Fault Unit × ItemList W) :
    List UInt32 → ItemList W → List StatusCode × ItemList W
  | [], items => ([], items)
  | id :: ids, items =>
    let (r, items) := operation items id
    let (results, items) := applyLinks operation ids items
    (statusOf r :: results, items)

def writeLinkResults (results : List StatusCode) : WriteM cap Unit := do
  writeInt32 results.length
  writeEach writeUInt32 results
  writeInt32 0

def handleSetTriggering (b : Build) (subs : List Subscription) (caller : Caller) : ItemM W cap Unit := do
  let req ← decode requestHeaderDecode
  let (subscriptionId, triggeringId) ← decode readIdPair
  let linksToAdd ← decode readSetTriggeringUInt32Array
  let linksToRemove ← decode readSetTriggeringUInt32Array
  if linksToAdd.length + linksToRemove.length > maxSubscriptionOperations then throw .tooManyOperations
  if (subscriptionFind subs caller.sessionId subscriptionId).isNone then throw .subscriptionIdInvalid
  if linksToAdd.length = 0 ∧ linksToRemove.length = 0 then throw .nothingToDo
  let items := (← state).monitoredItems
  let (added, items) :=
    applyLinks (fun is id => addTriggerLink b is subscriptionId triggeringId id) linksToAdd items
  let (removed, items) :=
    applyLinks (fun is id => removeTriggerLink is subscriptionId triggeringId id) linksToRemove items
  update (fun t => ((), { t with monitoredItems := items }))
  encode do
    writeResponsePrefix setTriggeringResponseId req.requestHandle good
    writeLinkResults added
    writeLinkResults removed

end

end MicroOpcua
