import MicroOpcua.Core.Application

namespace MicroOpcua

variable {W : Type}

/-- What a turn of `publish_due` finds outside the engine: the tick, the world its resend reads from, the
publish time, and whether `mu_server_emit_message` takes the response. -/
structure TurnInput (W : Type) where
  index : Nat
  nowMs : UInt64
  world : W
  publishTime : UInt64
  accepted : Bool

structure Publication where
  response : Bytes
  message : Bytes
deriving DecidableEq

section Turn

variable (b : Build)

def turnAnswer (x : TurnInput W) (includeData : Bool) (reportCount : Nat) (sent : Sent W)
    (sub : Subscription) (s : Subscriptions W) : Option Publication × Subscription × Subscriptions W :=
  match publishRequestDequeue s.publishQueue sub.sessionId with
  | none => (none, sub, s)
  | some (request, queue) =>
    let s := { s with publishQueue := queue }
    let sub := sub.numbered
    match buildPublish b s.items.monitoredItems sub request includeData reportCount x.publishTime,
        x.accepted with
    | .ok (response, message), true => (some ⟨response, message⟩, sent sub message s)
    | _, _ => (none, sub, s)

def turnData (x : TurnInput W) (sub : Subscription) (reportCount : Nat) (s : Subscriptions W) :
    Option Publication × Subscription × Subscriptions W :=
  turnAnswer b x true reportCount (sentData b reportCount) sub s

def turnKeepAlive (x : TurnInput W) (sub : Subscription) (s : Subscriptions W) :
    Option Publication × Subscription × Subscriptions W :=
  let sub := sub.counted
  if sub.keepAliveCounter < sub.maxKeepAliveCount then (none, sub, s)
  else turnAnswer b x false 0 sentKeepAlive sub s

def turnBranch (x : TurnInput W) (sub : Subscription) (reportCount : Nat) (s : Subscriptions W) :
    Option Publication × Subscription × Subscriptions W :=
  if sub.hasData b reportCount then turnData b x sub reportCount s else turnKeepAlive b x sub s

def turnOf (x : TurnInput W) (sub : Subscription) (s : Subscriptions W) :
    Option Publication × Subscriptions W :=
  match ((prepareReport b sub s.items.monitoredItems).run x.world).1 with
  | (items, reportCount, sub) =>
    let (p, sub, s) := turnBranch b x sub reportCount (setItemList items s)
    (p, setSubscription x.index (sub.advancePublishTimer x.nowMs) s)

def turn (x : TurnInput W) (s : Subscriptions W) : Option Publication × Subscriptions W :=
  match s.subscriptions[x.index]? with
  | none => (none, s)
  | some sub => if sub.inUse && sub.nextPublishMs ≤ x.nowMs then turnOf b x sub s else (none, s)

end Turn

def createItem (b : Build) (subscriptionId : UInt32) (body : MonitoredItemCreateBody) (node : Node W)
    (nowMs : UInt64) (w : W) (t : ItemTable W) : ItemTable W :=
  match monitoredItemAlloc b t subscriptionId with
  | (.error _, t) => t
  | (.ok (slot, _), t) =>
    let item := fillItem b body node nowMs (t.monitoredItems.getD slot (.zero b))
    { t with monitoredItems := t.monitoredItems.set slot ((initialSample body node item).run w).1 }

/-- The operations of the engine. Those that call an application read carry the world they find. -/
inductive EngineOp (W : Type) where
  | createSubscription (sessionId : UInt32) (p : SubscriptionParameters)
    (enabled : Bool) (nowMs : UInt64)
  | modifySubscription (sessionId subscriptionId : UInt32) (p : SubscriptionParameters)
  | setPublishingMode (sessionId : UInt32) (enabled : Bool) (subscriptionId : UInt32)
  | requestResendData (sessionId subscriptionId : UInt32)
  | acknowledge (sessionId subscriptionId sequenceNumber : UInt32)
  | deleteSubscription (sessionId subscriptionId : UInt32)
  | createItem (subscriptionId : UInt32) (body : MonitoredItemCreateBody) (node : Node W)
    (nowMs : UInt64) (w : W)
  | modifyItem (subscriptionId : UInt32) (body : ModifyBody)
  | setMonitoringMode (mode subscriptionId itemId : UInt32)
  | deleteItem (subscriptionId itemId : UInt32)
  | addTriggerLink (subscriptionId triggeringId linkedId : UInt32)
  | removeTriggerLink (subscriptionId triggeringId linkedId : UInt32)
  | park (request : PublishRequest)
  | sample (nowMs : UInt64) (w : W)
  | turn (x : TurnInput W)
  | triggerEvent (e : EventNotification)
  | reset

namespace EngineOp

def apply (b : Build) : EngineOp W → Subscriptions W → Subscriptions W
  | .createSubscription sessionId p enabled nowMs, s =>
  (MicroOpcua.createSubscription sessionId p enabled nowMs s).2
  | .modifySubscription sessionId subscriptionId p, s =>
    (MicroOpcua.modifySubscription sessionId subscriptionId p s).2
  | .setPublishingMode sessionId enabled subscriptionId, s =>
    (setPublishingModeResult sessionId enabled subscriptionId s).2
  | .requestResendData sessionId subscriptionId, s =>
    (MicroOpcua.requestResendData sessionId subscriptionId s).2
  | .acknowledge sessionId subscriptionId sequenceNumber, s =>
    (MicroOpcua.acknowledge sessionId subscriptionId sequenceNumber s).2
  | .deleteSubscription sessionId subscriptionId, s =>
    (subscriptionDelete b s sessionId subscriptionId).2
  | .createItem subscriptionId body node nowMs w, s =>
    if subscriptionIdInUse s.subscriptions subscriptionId then
      { s with items := MicroOpcua.createItem b subscriptionId body node nowMs w s.items }
    else s
  | .modifyItem subscriptionId body, s =>
    { s with items := (MicroOpcua.modifyItem b subscriptionId body s.items).2 }
  | .setMonitoringMode mode subscriptionId itemId, s =>
    (setMonitoringModeResult mode subscriptionId itemId s).2
  | .deleteItem subscriptionId itemId, s => (deleteMonitoredItemResult b subscriptionId itemId s).2
  | .addTriggerLink subscriptionId triggeringId linkedId, s =>
    setItemList
      (MicroOpcua.addTriggerLink b s.items.monitoredItems subscriptionId triggeringId linkedId).2 s
  | .removeTriggerLink subscriptionId triggeringId linkedId, s =>
    setItemList
      (MicroOpcua.removeTriggerLink s.items.monitoredItems subscriptionId triggeringId linkedId).2 s
  | .park request, s => (parkPublish request s).2
  | .sample nowMs w, s =>
    setItemList
      ((sampleItems b nowMs s.items.activeMonitoredItemsCount.toNat s.items.monitoredItems).run w).1 s
  | .turn x, s => (MicroOpcua.turn b x s).2
  | .triggerEvent e, s => MicroOpcua.triggerEvent s e
  | .reset, _ => .init b

def By (sessionId : UInt32) (s : Subscriptions W) : EngineOp W → Prop
  | .createSubscription owner _ _ _ | .modifySubscription owner _ _ | .setPublishingMode owner _ _
  | .requestResendData owner _ | .acknowledge owner _ _ | .deleteSubscription owner _ =>
    owner = sessionId
  | .createItem id _ _ _ _ | .modifyItem id _ | .setMonitoringMode _ id _ | .deleteItem id _
  | .addTriggerLink id _ _ | .removeTriggerLink id _ _ =>
    (subscriptionFind s.subscriptions sessionId id).isSome = true
  | .park request => request.sessionId = sessionId ∧ request.inUse = true
  | _ => False

end EngineOp

/-- The engine goes from `s` to `t` by operations that meet `P` in the state they are made in. -/
def EngineRuns (b : Build) (P : Subscriptions W → EngineOp W → Prop) :
    Subscriptions W → Subscriptions W → Prop :=
  Relation.ReflTransGen (fun s t => ∃ op, P s op ∧ op.apply b s = t)

def runOps (b : Build) (ops : List (EngineOp W)) (s : Subscriptions W) : Subscriptions W :=
  ops.foldl (fun s op => op.apply b s) s

end MicroOpcua
