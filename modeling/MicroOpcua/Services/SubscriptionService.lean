import MicroOpcua.Core.Handler
import MicroOpcua.Services.Publish

namespace MicroOpcua

def publishingIntervalMinBits : UInt64 := 0x4049000000000000
def publishingIntervalMaxBits : UInt64 := 0x40ed4c0000000000

def publishingIntervalBitsToMs (b : Build) (bits : UInt64) : UInt32 :=
  if bits &&& 0x8000000000000000 ≠ 0 ∨ bits < publishingIntervalMinBits then b.minPublishingIntervalMs
  else if bits > publishingIntervalMaxBits then b.maxPublishingIntervalMs
  else durationBitsToMs bits

def publishingIntervalMsToBits (ms : UInt32) : UInt64 :=
  let exponent := ms.log2
  let leading := (1 : UInt64) <<< exponent.toUInt64
  let fraction := (ms.toUInt64 - leading) <<< (52 - exponent).toUInt64
  ((exponent + 1023).toUInt64 <<< (52 : UInt64)) ||| fraction

def maxSubscriptionOperations : Nat := 32

structure Caller where
  sessionId : UInt32
  requestId : UInt32
  connection : ConnId

variable {W : Type} {cap : Nat}

abbrev SubscriptionM (W : Type) (cap : Nat) := HandlerM (Subscriptions W) W cap

open HandlerM

def driveIds (responseTypeId requestHandle sessionId : UInt32) (subscriptionId : Option UInt32)
    (itemResult : UInt32 → Subscriptions W → Except Fault Unit × Subscriptions W) (count : Int) :
    SubscriptionM W cap Unit := do
  if count > maxSubscriptionOperations then throw .tooManyOperations
  let subs ← state
  if subscriptionId.any (fun id => (subscriptionFind subs.subscriptions sessionId id).isNone) then
    throw .subscriptionIdInvalid
  if count ≤ 0 then throw .nothingToDo
  encode do
    writeResponsePrefix responseTypeId requestHandle good
    writeInt32 count
  repeatM (do
    let id ← decode readUInt32
    let result ← update (itemResult id)
    encode (writeUInt32 (statusOf result))) count.toNat
  encode (writeInt32 0)

/-- `drive_subscription_id_status_array`: one operation per id, each with its own result. The
subscription id is validated for the services that name one. -/
def driveSubscriptionIdStatusArray (responseTypeId requestHandle sessionId : UInt32)
    (subscriptionId : Option UInt32)
    (itemResult : UInt32 → Subscriptions W → Except Fault Unit × Subscriptions W) :
    SubscriptionM W cap Unit := do
  let count ← decode readInt32
  driveIds responseTypeId requestHandle sessionId subscriptionId itemResult count

def readSubscriptionParameters (b : Build) (withEnabled : Bool) :
    ReadM (SubscriptionParameters × Bool) := do
  let intervalBits ← unchecked 0 readUInt64
  let lifetimeCount ← unchecked 0 readUInt32
  let maxKeepAliveCount ← unchecked 0 readUInt32
  let maxNotificationsPerPublish ← unchecked 0 readUInt32
  let enabled ← if withEnabled then unchecked false readBoolean else pure false
  let priority ← unchecked 0 readByte
  checkReader
  return (⟨publishingIntervalBitsToMs b intervalBits, lifetimeCount, maxKeepAliveCount,
    maxNotificationsPerPublish, priority⟩, enabled)

def writeRevisedParameters (sub : Subscription) : WriteM cap Unit := do
  uncheckedWrite (writeUInt64 (publishingIntervalMsToBits sub.publishingIntervalMs))
  uncheckedWrite (writeUInt32 sub.lifetimeCount)
  uncheckedWrite (writeUInt32 sub.maxKeepAliveCount)
  checkWriter

def createSubscriptionResponseId : UInt32 := 790
def modifySubscriptionResponseId : UInt32 := 796
def setPublishingModeResponseId : UInt32 := 802
def republishResponseId : UInt32 := 835
def deleteSubscriptionsResponseId : UInt32 := 850

def createSubscription (sessionId : UInt32) (p : SubscriptionParameters)
    (enabled : Bool) (nowMs : UInt64) (s : Subscriptions W) :
    Except Fault Subscription × Subscriptions W :=
  match subscriptionCreate s.subscriptions s.nextSubscriptionId sessionId p enabled nowMs with
  | (r, subs, next) => (r, { s with subscriptions := subs, nextSubscriptionId := next })

def handleCreateSubscription (b : Build) (p : Platform W) (caller : Caller) :
    SubscriptionM W cap Unit := do
  let req ← decode requestHeaderDecode
  let (params, enabled) ← decode <| readSubscriptionParameters b true
  let nowMs ← adapter p.getTickMs
  let sub ← updateChecked (createSubscription caller.sessionId params enabled nowMs)
  encode do
    writeResponsePrefix createSubscriptionResponseId req.requestHandle good
    uncheckedWrite (writeUInt32 sub.subscriptionId)
    writeRevisedParameters sub

def modifySubscription (sessionId subscriptionId : UInt32) (p : SubscriptionParameters)
    (s : Subscriptions W) : Except Fault Unit × Subscriptions W :=
  match subscriptionUpdate s.subscriptions sessionId subscriptionId (·.applyParameters p) with
  | (r, subs) => (r, { s with subscriptions := subs })

def handleModifySubscription (b : Build) (caller : Caller) : SubscriptionM W cap Unit := do
  let req ← decode requestHeaderDecode
  let subscriptionId ← decode (unchecked 0 readUInt32)
  let (params, _) ← decode <| readSubscriptionParameters b false
  updateChecked (modifySubscription caller.sessionId subscriptionId params)
  encode do
    writeResponsePrefix modifySubscriptionResponseId req.requestHandle good
    writeRevisedParameters (Subscription.zero.applyParameters params)

def setPublishingModeResult (sessionId : UInt32) (enabled : Bool) (subscriptionId : UInt32)
    (s : Subscriptions W) : Except Fault Unit × Subscriptions W :=
  match subscriptionUpdate s.subscriptions sessionId subscriptionId
      (fun sub => { sub with publishingEnabled := enabled }) with
  | (r, subs) => (r, { s with subscriptions := subs })

def handleSetPublishingMode (caller : Caller) : SubscriptionM W cap Unit := do
  let req ← decode requestHeaderDecode
  let enabled ← decode (unchecked false readBoolean)
  driveSubscriptionIdStatusArray setPublishingModeResponseId req.requestHandle caller.sessionId none
    (setPublishingModeResult caller.sessionId enabled)

def handleDeleteSubscriptions (b : Build) (caller : Caller) : SubscriptionM W cap Unit := do
  let req ← decode requestHeaderDecode
  driveSubscriptionIdStatusArray deleteSubscriptionsResponseId req.requestHandle caller.sessionId none
    (fun id s => subscriptionDelete b s caller.sessionId id)

def acknowledge (sessionId subscriptionId sequenceNumber : UInt32) (s : Subscriptions W) :
    Except Fault Unit × Subscriptions W :=
  match subscriptionAcknowledge s.subscriptions sessionId subscriptionId sequenceNumber with
  | (r, subs) => (r, { s with subscriptions := subs })

def readIdPair : ReadM (UInt32 × UInt32) := do
  let first ← unchecked 0 readUInt32
  let second ← unchecked 0 readUInt32
  checkReader
  return (first, second)

def readAcknowledgements (sessionId : UInt32) : Nat → SubscriptionM W cap (List StatusCode)
  | 0 => return []
  | n + 1 => do
    let (subscriptionId, sequenceNumber) ← decode readIdPair
    let result ← update (acknowledge sessionId subscriptionId sequenceNumber)
    return statusOf result :: (← readAcknowledgements sessionId n)

def parkPublish (request : PublishRequest) (s : Subscriptions W) : Except Fault Unit × Subscriptions W :=
  match publishRequestEnqueue s.publishQueue request with
  | .ok queue => (.ok (), { s with publishQueue := queue })
  | .error e => (.error e, s)

/-- `handle_publish`: acknowledgements take effect while they are decoded; nothing is written. -/
def handlePublish (b : Build) (p : Platform W) (caller : Caller) : SubscriptionM W cap Unit := do
  let req ← decode requestHeaderDecode
  let ackCount ← decode readInt32
  if ackCount > b.maxPublishAcks then throw .tooManyOperations
  let ackResults ← readAcknowledgements caller.sessionId ackCount.toNat
  let nowMs ← adapter p.getTickMs
  updateChecked (parkPublish
    { inUse := true
      sessionId := caller.sessionId
      requestHandle := req.requestHandle
      requestId := caller.requestId
      enqueuedMs := nowMs
      ackResults := ackResults
      origin := some caller.connection })

def handleRepublish (caller : Caller) : SubscriptionM W cap Unit := do
  let req ← decode requestHeaderDecode
  let (subscriptionId, sequenceNumber) ← decode readIdPair
  match subscriptionRepublish (← state).subscriptions caller.sessionId subscriptionId sequenceNumber with
  | .error e => throw e
  | .ok message =>
    encode do
      writeResponsePrefix republishResponseId req.requestHandle good
      writeRaw .responseTooLarge message

end MicroOpcua
