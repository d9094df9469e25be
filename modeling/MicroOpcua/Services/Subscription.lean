import MicroOpcua.Services.MonitoredItem
import MicroOpcua.Services.Session

namespace MicroOpcua

structure EventNotification where
  eventType : NodeId
  eventId : MuString
  time : UInt64
  message : MuString
  severity : UInt16
deriving DecidableEq

def EventNotification.zero : EventNotification := ⟨.ns0 0, none, 0, none, 0⟩

def maxEventQueueSize : Nat := 8

structure EventQueue where
  queue : List EventNotification
  head : Nat
  tail : Nat
  count : Nat
deriving DecidableEq

def EventQueue.empty : EventQueue := ⟨List.replicate maxEventQueueSize .zero, 0, 0, 0⟩

def EventQueue.push (q : EventQueue) (e : EventNotification) : EventQueue :=
  let q :=
    if q.count ≥ maxEventQueueSize then
      { q with head := (q.head + 1) % maxEventQueueSize, count := q.count - 1 }
    else q
  { q with
    queue := q.queue.set q.tail e
    tail := (q.tail + 1) % maxEventQueueSize
    count := q.count + 1 }

def EventQueue.events (q : EventQueue) : List EventNotification :=
  (List.range q.count).map (fun k => q.queue.getD ((q.head + k) % maxEventQueueSize) .zero)

/-- `mu_retransmit_slot_t`; the publish time kept beside the message is never read. -/
structure Retransmit where
  valid : Bool
  sequenceNumber : UInt32
  message : Bytes
deriving DecidableEq

/-- `mu_subscription_t`; `lifetime_counter` is only ever zero. -/
structure Subscription where
  inUse : Bool
  nextPublishMs : UInt64
  retransmit : Retransmit
  subscriptionId : UInt32
  sessionId : UInt32
  publishingIntervalMs : UInt32
  maxKeepAliveCount : UInt32
  lifetimeCount : UInt32
  maxNotificationsPerPublish : UInt32
  sequenceNumber : UInt32
  keepAliveCounter : UInt32
  priority : UInt8
  publishingEnabled : Bool
  moreNotifications : Bool
  resendDataPending : Bool
  eventQueue : EventQueue
deriving DecidableEq

def Subscription.zero : Subscription where
  inUse := false
  nextPublishMs := 0
  retransmit := ⟨false, 0, []⟩
  subscriptionId := 0
  sessionId := 0
  publishingIntervalMs := 0
  maxKeepAliveCount := 0
  lifetimeCount := 0
  maxNotificationsPerPublish := 0
  sequenceNumber := 0
  keepAliveCounter := 0
  priority := 0
  publishingEnabled := false
  moreNotifications := false
  resendDataPending := false
  eventQueue := .empty

/-- `mu_publish_request_t`. The last field is not in the source: it records, for the specification
only, the connection the request came in on. -/
structure PublishRequest where
  inUse : Bool
  sessionId : UInt32
  requestHandle : UInt32
  requestId : UInt32
  enqueuedMs : UInt64
  ackResults : List StatusCode
  origin : Option ConnId
deriving DecidableEq

def PublishRequest.zero : PublishRequest := ⟨false, 0, 0, 0, 0, [], none⟩

structure ItemTable (W : Type) where
  monitoredItems : ItemList W
  nextMonitoredItemId : UInt32
  activeMonitoredItemsCount : UInt32

structure Subscriptions (W : Type) where
  subscriptions : List Subscription
  items : ItemTable W
  publishQueue : List PublishRequest
  nextSubscriptionId : UInt32

def Subscriptions.init {W : Type} (b : Build) : Subscriptions W where
  subscriptions := List.replicate b.maxSubscriptions .zero
  items := ⟨List.replicate b.maxMonitoredItems (.zero b), 1, 0⟩
  publishQueue := List.replicate b.maxPublishRequests .zero
  nextSubscriptionId := 1

/-- The id allocators: up to `tries` candidates from `next` on, skipping 0; the counter after the
search is returned with the id, which is 0 when all candidates are taken. -/
def allocateId (inUse : UInt32 → Bool) : (tries : Nat) → (next : UInt32) → UInt32 × UInt32
  | 0, next => (0, next)
  | n + 1, next =>
    let id := if next = 0 then 1 else next
    let next := if id + 1 = 0 then 1 else id + 1
    if inUse id then allocateId inUse n next else (id, next)

section Subscriptions

def subscriptionIdInUse (subs : List Subscription) (id : UInt32) : Bool :=
  subs.any (fun s => s.inUse && s.subscriptionId = id)

def reviseSubscriptionCounts (requestedLifetime requestedKeepAlive : UInt32) : UInt32 × UInt32 :=
  let keepAlive := if requestedKeepAlive = 0 then 1 else requestedKeepAlive
  let keepAlive := if keepAlive > 0xFFFFFFFF / 3 then 0xFFFFFFFF / 3 else keepAlive
  let minLifetime := keepAlive * 3
  (if requestedLifetime < minLifetime then minLifetime else requestedLifetime, keepAlive)

structure SubscriptionParameters where
  publishingIntervalMs : UInt32
  lifetimeCount : UInt32
  maxKeepAliveCount : UInt32
  maxNotificationsPerPublish : UInt32
  priority : UInt8

def Subscription.applyParameters (sub : Subscription) (p : SubscriptionParameters) : Subscription :=
  let (lifetime, keepAlive) := reviseSubscriptionCounts p.lifetimeCount p.maxKeepAliveCount
  { sub with
    publishingIntervalMs := p.publishingIntervalMs
    maxKeepAliveCount := keepAlive
    lifetimeCount := lifetime
    maxNotificationsPerPublish := p.maxNotificationsPerPublish
    priority := p.priority }

def subscriptionCreate (subs : List Subscription) (nextId sessionId : UInt32)
    (p : SubscriptionParameters) (publishingEnabled : Bool) (nowMs : UInt64) :
    Except Fault Subscription × List Subscription × UInt32 :=
  match subs.findIdx? (fun s => !s.inUse) with
  | none => (.error .tooManySubscriptions, subs, nextId)
  | some i =>
    let (id, nextId) := allocateId (subscriptionIdInUse subs) (subs.length + 1) nextId
    if id = 0 then (.error .tooManySubscriptions, subs, nextId)
    else
      let sub := { ({ Subscription.zero with
          inUse := true, subscriptionId := id, sessionId := sessionId } :
              Subscription).applyParameters p with
        publishingEnabled := publishingEnabled
        sequenceNumber := 1
        nextPublishMs := nowMs + p.publishingIntervalMs.toUInt64 }
      (.ok sub, subs.set i sub, nextId)

def subscriptionFind (subs : List Subscription) (sessionId subscriptionId : UInt32) : Option Nat :=
  subs.findIdx? (fun s => s.inUse && s.sessionId = sessionId && s.subscriptionId = subscriptionId)

def subscriptionUpdate (subs : List Subscription) (sessionId subscriptionId : UInt32)
    (f : Subscription → Subscription) : Except Fault Unit × List Subscription :=
  match subscriptionFind subs sessionId subscriptionId with
  | none => (.error .subscriptionIdInvalid, subs)
  | some i => (.ok (), subs.modify i f)

def subscriptionAcknowledge (subs : List Subscription)
    (sessionId subscriptionId sequenceNumber : UInt32) : Except Fault Unit × List Subscription :=
  match subscriptionFind subs sessionId subscriptionId with
  | none => (.error .subscriptionIdInvalid, subs)
  | some i =>
    if subs[i]?.any (fun s => s.retransmit.valid && s.retransmit.sequenceNumber = sequenceNumber) then
      (.ok (),
        subs.modify i (fun s =>
          { s with retransmit := { s.retransmit with valid := false, message := [] } }))
    else (.error .sequenceNumberUnknown, subs)

def subscriptionRepublish (subs : List Subscription) (sessionId subscriptionId sequenceNumber : UInt32) :
    Except Fault Bytes :=
  match (subscriptionFind subs sessionId subscriptionId).bind (subs[·]?) with
  | none => .error .subscriptionIdInvalid
  | some s =>
    if s.retransmit.valid ∧ s.retransmit.sequenceNumber = sequenceNumber then .ok s.retransmit.message
    else .error .messageNotAvailable

def Subscription.currentSequenceNumber (sub : Subscription) : UInt32 :=
  if sub.sequenceNumber = 0 then 1 else sub.sequenceNumber

def Subscription.advanceSequenceNumber (sub : Subscription) : Subscription :=
  { sub with sequenceNumber := if sub.sequenceNumber + 1 = 0 then 1 else sub.sequenceNumber + 1 }

def Subscription.storeRetransmit (b : Build) (sub : Subscription) (sequenceNumber : UInt32)
    (body : Bytes) : Subscription :=
  if body.length > b.retransmitBytes then
    { sub with retransmit := { sub.retransmit with valid := false, message := [] } }
  else { sub with retransmit := ⟨true, sequenceNumber, body⟩ }

def advancePublishTimerFrom (interval nowMs next : UInt64) (hpos : 0 < interval) : UInt64 :=
  if _h : next > 0xFFFFFFFFFFFFFFFF - interval then 0xFFFFFFFFFFFFFFFF
  else if next + interval ≤ nowMs then advancePublishTimerFrom interval nowMs (next + interval) hpos
  else next + interval
termination_by (0xFFFFFFFFFFFFFFFF - next).toNat
decreasing_by
  simp only [gt_iff_lt, UInt64.lt_iff_toNat_lt, UInt64.toNat_sub, UInt64.toNat_add] at _h hpos ⊢
  have := next.toNat_lt
  have := interval.toNat_lt
  simp only [UInt64.reduceToNat] at _h hpos ⊢
  omega

def Subscription.advancePublishTimer (sub : Subscription) (nowMs : UInt64) : Subscription :=
  if h : 0 < sub.publishingIntervalMs.toUInt64 then
    { sub with
      nextPublishMs :=
        advancePublishTimerFrom sub.publishingIntervalMs.toUInt64 nowMs sub.nextPublishMs h }
  else
    { sub with nextPublishMs := advancePublishTimerFrom 1 nowMs sub.nextPublishMs (by decide) }

end Subscriptions

section PublishQueue

def publishRequestEnqueue (queue : List PublishRequest) (request : PublishRequest) :
    Except Fault (List PublishRequest) :=
  match queue.findIdx? (fun r => !r.inUse) with
  | some i => .ok (queue.set i request)
  | none => .error .tooManyPublishRequests

def oldestRequest (sessionId : UInt32) : List PublishRequest → Nat → Option (Nat × PublishRequest) →
    Option (Nat × PublishRequest)
  | [], _, best => best
  | r :: rs, i, best =>
    if r.inUse && r.sessionId = sessionId && best.all (fun p => r.enqueuedMs < p.2.enqueuedMs) then
      oldestRequest sessionId rs (i + 1) (some (i, r))
    else oldestRequest sessionId rs (i + 1) best

def publishRequestDequeue (queue : List PublishRequest) (sessionId : UInt32) :
    Option (PublishRequest × List PublishRequest) :=
  (oldestRequest sessionId queue 0 none).map (fun p => (p.2, queue.set p.1 .zero))

end PublishQueue

section Items

variable {W : Type}

def monitoredItemIdInUse (items : ItemList W) (id : UInt32) : Bool :=
  items.any (fun i => i.inUse && i.monitoredItemId = id)

def monitoredItemAlloc (b : Build) (t : ItemTable W) (subscriptionId : UInt32) :
    Except Fault (Nat × UInt32) × ItemTable W :=
  match t.monitoredItems.findIdx? (fun i => !i.inUse) with
  | none => (.error .tooManyMonitoredItems, t)
  | some i =>
    let (id, next) :=
      allocateId (monitoredItemIdInUse t.monitoredItems) (t.monitoredItems.length + 1)
        t.nextMonitoredItemId
    let t := { t with nextMonitoredItemId := next }
    if id = 0 then (.error .tooManyMonitoredItems, t)
    else
      let item := { MonitoredItem.zero b with
        inUse := true, subscriptionId := subscriptionId, monitoredItemId := id }
      (.ok (i, id), { t with
        monitoredItems := t.monitoredItems.set i item
        activeMonitoredItemsCount := t.activeMonitoredItemsCount + 1 })

def ItemTable.release (b : Build) (t : ItemTable W) (i : Nat) : ItemTable W :=
  { t with
    monitoredItems := t.monitoredItems.set i (.zero b)
    activeMonitoredItemsCount :=
      if t.activeMonitoredItemsCount > 0 then
        t.activeMonitoredItemsCount - 1 else t.activeMonitoredItemsCount }

def monitoredItemDelete (b : Build) (t : ItemTable W) (subscriptionId itemId : UInt32) :
    Except Fault Unit × ItemTable W :=
  match t.monitoredItems.findIdx?
      (fun i => i.inUse && i.subscriptionId = subscriptionId && i.monitoredItemId = itemId) with
  | none => (.error .monitoredItemIdInvalid, t)
  | some i => (.ok (), t.release b i)

def releaseItemsOf (b : Build) (t : ItemTable W) (subscriptionId : UInt32) : ItemTable W :=
  (List.range t.monitoredItems.length).foldl
    (fun t i =>
      if t.monitoredItems[i]?.any (fun item => item.inUse && item.subscriptionId = subscriptionId) then
        t.release b i
      else t)
    t

def findMonitoredItemInSubscription (items : ItemList W) (subscriptionId itemId : UInt32) :
    Option Nat :=
  items.findIdx? (fun i => i.inUse && i.subscriptionId = subscriptionId && i.monitoredItemId = itemId)

/-- `find_monitored_item` of the dispatcher, whose scan stops after `active` items in use. -/
def findMonitoredItemFrom (subscriptionId itemId : UInt32) : ItemList W → (active index : Nat) →
    Option Nat
  | [], _, _ => none
  | item :: items, active, index =>
    if active = 0 then none
    else if !item.inUse then findMonitoredItemFrom subscriptionId itemId items active (index + 1)
    else if item.subscriptionId = subscriptionId ∧ item.monitoredItemId = itemId then some index
    else findMonitoredItemFrom subscriptionId itemId items (active - 1) (index + 1)

def findMonitoredItem (t : ItemTable W) (subscriptionId itemId : UInt32) : Option Nat :=
  findMonitoredItemFrom subscriptionId itemId t.monitoredItems t.activeMonitoredItemsCount.toNat 0

def addTriggerLink (b : Build) (items : ItemList W) (subscriptionId triggeringId linkedId : UInt32) :
    Except Fault Unit × ItemList W :=
  match findMonitoredItemInSubscription items subscriptionId triggeringId,
      findMonitoredItemInSubscription items subscriptionId linkedId with
  | some i, some _ =>
    let links := (items[i]?.map (·.triggeredItems)).getD []
    if linkedId ∈ links then (.ok (), items)
    else if links.length ≥ b.maxTriggerLinks then (.error .tooManyOperations, items)
    else (.ok (),
      items.modify i (fun item => { item with triggeredItems := item.triggeredItems ++ [linkedId] }))
  | _, _ => (.error .monitoredItemIdInvalid, items)

def removeTriggerLink (items : ItemList W) (subscriptionId triggeringId linkedId : UInt32) :
    Except Fault Unit × ItemList W :=
  match findMonitoredItemInSubscription items subscriptionId triggeringId,
      findMonitoredItemInSubscription items subscriptionId linkedId with
  | some i, some _ =>
    let links := (items[i]?.map (·.triggeredItems)).getD []
    if linkedId ∈ links then
      (.ok (),
        items.modify i (fun item => { item with triggeredItems := item.triggeredItems.erase linkedId }))
    else (.error .monitoredItemIdInvalid, items)
  | _, _ => (.error .monitoredItemIdInvalid, items)

def subscriptionGetMonitoredItems (subs : List Subscription) (items : ItemList W)
    (sessionId subscriptionId : UInt32) (maxHandles : Nat) : Except Fault (List (UInt32 × UInt32)) :=
  match subscriptionFind subs sessionId subscriptionId with
  | none => .error .subscriptionIdInvalid
  | some _ =>
    let handles := (items.filter (fun i => i.inUse && i.subscriptionId = subscriptionId)).map
      (fun i => (i.monitoredItemId, i.clientHandle))
    if handles.length > maxHandles then .error .tooManyOperations else .ok handles

end Items

def subscriptionDelete {W : Type} (b : Build) (s : Subscriptions W) (sessionId subscriptionId : UInt32) :
    Except Fault Unit × Subscriptions W :=
  match subscriptionFind s.subscriptions sessionId subscriptionId with
  | none => (.error .subscriptionIdInvalid, s)
  | some i =>
    (.ok (), { s with
      items := releaseItemsOf b s.items subscriptionId
      subscriptions := s.subscriptions.set i .zero })

def triggerEvent {W : Type} (s : Subscriptions W) (e : EventNotification) : Subscriptions W :=
  let receive (sub : Subscription) : Subscription :=
    if sub.inUse then { sub with eventQueue := sub.eventQueue.push e } else sub
  { s with subscriptions := s.subscriptions.map receive }

end MicroOpcua
