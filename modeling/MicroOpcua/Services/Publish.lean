import MicroOpcua.Services.Subscription

namespace MicroOpcua

variable {W : Type}

namespace MonitoredItem

def inSubscription (item : MonitoredItem W) (sub : Subscription) : Bool :=
  item.inUse && item.subscriptionId = sub.subscriptionId

def reportable (b : Build) (item : MonitoredItem W) (sub : Subscription) : Bool :=
  item.inSubscription sub &&
    (if b.subscriptionsStandard then item.pending || item.queueCount > 0 else item.pending) &&
    item.monitoringMode = monitoringReporting

def reportsByTrigger (b : Build) (items : ItemList W) (sub : Subscription) (linked : MonitoredItem W) :
    Bool :=
  linked.inSubscription sub && linked.monitoringMode = monitoringSampling && linked.queueCount ≠ 0 &&
    items.any (fun t => t.reportable b sub && linked.monitoredItemId ∈ t.triggeredItems)

def drainLoop (size : UInt32) : (remaining : Nat) → MonitoredItem W → MonitoredItem W × Nat
  | 0, item => (item, 0)
  | n + 1, item =>
    if item.queueCount > 0 then
      drainLoop size n { item with
        queueHead := queueNext item.queueHead size
        queueCount := item.queueCount - 1 }
    else (item, n + 1)

def drainReportedEntries (b : Build) (item : MonitoredItem W) (remaining : Nat) :
    MonitoredItem W × Nat :=
  let item := item.effectiveQueueSize b
  let (item, remaining) := drainLoop item.queueSize remaining item
  if item.queueCount = 0 then
    ({ item with queueHead := 0, queueTail := 0, pending := false, queueOverflow := false }, remaining)
  else ({ item with pending := true }, remaining)

def resend (b : Build) (item : MonitoredItem W) : StateM W (MonitoredItem W) := do
  let (status, cur) ← item.readValue
  if status = good then
    return ({ item with lastValue := cur, lastStatus := status, hasValue := true }).enqueueReport
      b cur status
  else if item.hasValue then
    return ({ item with lastStatus := status }).enqueueReport b item.lastValue status
  else
    return ({ item with lastValue := .null, lastStatus := status, hasValue := true }).enqueueReport
      b .null status

end MonitoredItem

/-- `count_queue_entries`: the count goes up to the limit (0 is no limit), and the flag says that no
entry was left out. -/
def countQueueEntries (maxNotifications : Nat) : (queueCount count : Nat) → Nat × Bool
  | 0, count => (count, true)
  | n + 1, count =>
    if maxNotifications ≠ 0 ∧ count ≥ maxNotifications then (count, false)
    else countQueueEntries maxNotifications n (count + 1)

def countItems (maxNotifications : Nat) (selected : MonitoredItem W → Bool) :
    ItemList W → (count : Nat) → Nat × Bool
  | [], count => (count, true)
  | item :: items, count =>
    if selected item then
      match countQueueEntries maxNotifications item.queueCount.toNat count with
      | (count, true) => countItems maxNotifications selected items count
      | (count, false) => (count, false)
    else countItems maxNotifications selected items count

def countReportableItems (b : Build) (items : ItemList W) (sub : Subscription) : Nat × Subscription :=
  if b.subscriptionsStandard then
    match countItems sub.maxNotificationsPerPublish.toNat (fun i => i.reportable b sub) items 0 with
    | (count, false) => (count, { sub with moreNotifications := true })
    | (count, true) =>
      match countItems sub.maxNotificationsPerPublish.toNat (fun i =>
          i.reportsByTrigger b items sub) items count with
      | (count, all) => (count, { sub with moreNotifications := !all })
  else ((items.filter (fun i => i.reportable b sub)).length, sub)

def prepareReportableQueues (b : Build) (items : ItemList W) (sub : Subscription) :
    ItemList W :=
  items.map fun item =>
    if item.inSubscription sub && item.monitoringMode ≠ monitoringDisabled then
      item.preparePendingQueue b
    else item

def enqueueResendData (b : Build) (sub : Subscription) : ItemList W →
    StateM W (ItemList W)
  | [] => return []
  | item :: items => do
    let item ←
      if item.inSubscription sub && item.monitoringMode = monitoringReporting then
      item.resend b else pure item
    return item :: (← enqueueResendData b sub items)

def drainSelected (b : Build) : List (MonitoredItem W × Bool) → (remaining : Nat) →
    ItemList W × Nat
  | [], remaining => ([], remaining)
  | (item, selected) :: rest, remaining =>
    if remaining = 0 then ((item, selected) :: rest |>.map Prod.fst, 0)
    else
      let (item, remaining) :=
        if selected then item.drainReportedEntries b remaining else (item, remaining)
      let (items, remaining) := drainSelected b rest remaining
      (item :: items, remaining)

def clearReportedItems (b : Build) (items : ItemList W) (sub : Subscription) (reportCount : Nat) :
    ItemList W :=
  if b.subscriptionsStandard then
    let triggered := items.map (fun i => i.reportsByTrigger b items sub)
    let (items, remaining) := drainSelected b (items.map (fun i => (i, i.reportable b sub))) reportCount
    (drainSelected b (items.zip triggered) remaining).1
  else items.map (fun i => if i.reportable b sub then { i with pending := false } else i)

section Encode

variable {cap : Nat}

def writeNotification (clientHandle : UInt32) (r : Report) : WriteM cap Unit := do
  writeUInt32 clientHandle
  writeDataValue r.value r.status

def writeQueueEntries (item : MonitoredItem W) (size : UInt32) : (queued : Nat) → (index : UInt8) →
    (remaining : Nat) → WriteM cap Nat
  | 0, _, remaining => return remaining
  | n + 1, index, remaining => do
    if remaining = 0 then return 0
    writeNotification item.clientHandle (item.queue.getD index.toNat ⟨.null, good⟩)
    writeQueueEntries item size n (MonitoredItem.queueNext index size) (remaining - 1)

def writeItemQueues (b : Build) (selected : MonitoredItem W → Bool) : ItemList W →
    (remaining : Nat) → WriteM cap Nat
  | [], remaining => return remaining
  | item :: items, remaining => do
    if selected item then
      let remaining ← writeQueueEntries item (MonitoredItem.clampQueueSize b item.queueSize)
        item.queueCount.toNat item.queueHead remaining
      writeItemQueues b selected items remaining
    else writeItemQueues b selected items remaining

def writeNotifications (b : Build) (items : ItemList W) (sub : Subscription) (reportCount : Nat) :
    WriteM cap Unit := do
  if b.subscriptionsStandard then
    let remaining ← writeItemQueues b (fun i => i.reportable b sub) items reportCount
    let _ ← writeItemQueues b (fun i => i.reportsByTrigger b items sub) items remaining
  else
    writeEach (fun i => writeNotification i.clientHandle ⟨i.lastValue, i.lastStatus⟩)
      (items.filter (fun i => i.reportable b sub))

def dataChangeNotificationId : UInt32 := 811
def eventNotificationListId : UInt32 := 914

def writeDataChangeNotification (b : Build) (items : ItemList W) (sub : Subscription)
    (reportCount : Nat) : WriteM cap Unit := do
  writeNodeId (.ns0 dataChangeNotificationId)
  writeByte 1
  let lengthPos := (← get).position
  writeInt32 0
  let bodyStart := (← get).position
  writeInt32 reportCount
  writeNotifications b items sub reportCount
  writeInt32 0
  let bodyLength := (← get).position - bodyStart
  if bodyLength > 0x7FFFFFFF then throw .responseTooLarge
  backpatchInt32 lengthPos bodyLength

def eventField (e : EventNotification) (fieldType : UInt8) : Variant :=
  if fieldType = 1 then .scalar (.byteString e.eventId)
  else if fieldType = 2 then .scalar (.nodeId e.eventType)
  else if fieldType = 3 then .scalar (.dateTime e.time)
  else if fieldType = 4 then .scalar (.localizedText none e.message)
  else if fieldType = 5 then .scalar (.uint16 e.severity)
  else .null

/-- One EventFieldList. The count of select clauses may exceed the eight stored ones. -/
def writeEventFieldList (item : MonitoredItem W) (e : EventNotification) : WriteM cap Unit := do
  writeUInt32 item.clientHandle
  writeInt32 item.selectClausesCount.toNat
  writeEach (fun j => writeVariant (eventField e (item.selectClauses.getD j 0)))
    (List.range item.selectClausesCount.toNat)

def reportingEventItems (items : ItemList W) (sub : Subscription) : ItemList W :=
  items.filter fun i => i.inSubscription sub && i.attributeId = MonitoredItem.eventNotifierAttribute &&
    i.monitoringMode = monitoringReporting

/-- `write_event_notification_list`, whose body is built in a buffer of 1024 bytes. -/
def writeEventNotificationList (items : ItemList W) (sub : Subscription) : WriteM cap Unit := do
  let eventItems := reportingEventItems items sub
  let events := sub.eventQueue.events
  if eventItems.length = 0 then writeExtensionObjectHeader (.ns0 eventNotificationListId) 0
  else
    let body : WriteM 1024 Unit := do
      writeInt32 (eventItems.length * sub.eventQueue.count)
      writeEach (fun item => writeEach (writeEventFieldList item) events) eventItems
    match body.encode with
    | .error e => throw e
    | .ok bs =>
      writeExtensionObjectHeader (.ns0 eventNotificationListId) bs.1.length
      writeRaw .outOfMemory bs.1

def publishResponseId : UInt32 := 829

def writeNotificationMessage (b : Build) (items : ItemList W) (sub : Subscription)
    (request : PublishRequest) (sequenceNumber : UInt32) (includeData : Bool) (reportCount : Nat)
    (publishTime : UInt64) : WriteM cap (Nat × Nat) := do
  writeResponsePrefix publishResponseId request.requestHandle good
  writeUInt32 sub.subscriptionId
  writeInt32 0
  writeBoolean (b.subscriptionsStandard && includeData && sub.moreNotifications)
  let messageStart := (← get).position
  let withEvents := b.events && sub.eventQueue.count > 0
  writeUInt32 sequenceNumber
  writeUInt64 publishTime
  writeInt32 (if includeData then
    (if reportCount > 0 then 1 else 0) + (if withEvents then 1 else 0) else 0)
  if includeData then
    if reportCount > 0 then writeDataChangeNotification b items sub reportCount
    if withEvents then writeEventNotificationList items sub
  return (messageStart, (← get).position)

def buildPublishResponse (b : Build) (items : ItemList W) (sub : Subscription)
    (request : PublishRequest) (sequenceNumber : UInt32) (includeData : Bool) (reportCount : Nat)
    (publishTime : UInt64) : WriteM cap (Nat × Nat) := do
  let message ← writeNotificationMessage b items sub request sequenceNumber includeData
    reportCount publishTime
  let acks := request.ackResults.take b.maxPublishAcks
  writeInt32 acks.length
  writeEach writeUInt32 acks
  writeInt32 0
  return message

end Encode

def publishResponseOversizeStatus (e : Fault) : Bool :=
  e = .encodingError || e = .outOfMemory || e = .responseTooLarge

def publishBodyBytes : Nat := 512

section Turn

variable (b : Build)

def setItemList (items : ItemList W) (subs : Subscriptions W) : Subscriptions W :=
  { subs with items := { subs.items with monitoredItems := items } }

def setSubscription (i : Nat) (sub : Subscription) (subs : Subscriptions W) : Subscriptions W :=
  { subs with subscriptions := subs.subscriptions.set i sub }

def buildPublish (items : ItemList W) (sub : Subscription) (request : PublishRequest)
    (includeData : Bool) (reportCount : Nat) (publishTime : UInt64) : Except Fault (Bytes × Bytes) :=
  let m : WriteM publishBodyBytes (Nat × Nat) :=
    buildPublishResponse b items sub request sub.currentSequenceNumber includeData
      reportCount publishTime
  match m.run.run Writer.init with
  | (.ok (start, stop), w) => .ok (w.bytes, (w.bytes.take stop).drop start)
  | (.error e, _) => .error e

def prepareReport (sub : Subscription) (items : ItemList W) :
    StateM W (ItemList W × Nat × Subscription) := do
  if !sub.publishingEnabled then return (items, 0, sub)
  let items := if b.subscriptionsStandard then prepareReportableQueues b items sub else items
  let items ← if b.subscriptionsStandard && sub.resendDataPending then
    enqueueResendData b sub items else pure items
  let sub := if b.subscriptionsStandard then { sub with resendDataPending := false } else sub
  let (count, sub) := countReportableItems b items sub
  return (items, count, sub)

def Subscription.reported (sub : Subscription) (message : Bytes) : Subscription :=
  let hadEvents := b.events && sub.eventQueue.count > 0
  let sub :=
    if hadEvents then { sub with eventQueue := { sub.eventQueue with head := 0, tail := 0, count := 0 } }
    else sub
  ({ sub with keepAliveCounter := 0 }.storeRetransmit b sub.sequenceNumber message).advanceSequenceNumber

def Subscription.numbered (sub : Subscription) : Subscription :=
  { sub with sequenceNumber := sub.currentSequenceNumber }

def Subscription.counted (sub : Subscription) : Subscription :=
  { sub with keepAliveCounter := sub.keepAliveCounter + 1 }

def Subscription.hasData (sub : Subscription) (reportCount : Nat) : Bool :=
  sub.publishingEnabled && (reportCount > 0 || (b.events && sub.eventQueue.count > 0))

/-- What `publish_due` does to a subscription and to the tables when a response with a message is
emitted. -/
abbrev Sent (W : Type) := Subscription → Bytes → Subscriptions W → Subscription × Subscriptions W

def sentData (reportCount : Nat) : Sent W := fun sub message s =>
  (sub.reported b message, setItemList (clearReportedItems b s.items.monitoredItems sub reportCount) s)

def sentKeepAlive : Sent W := fun sub _ s => ({ sub with keepAliveCounter := 0 }, s)

end Turn

end MicroOpcua
