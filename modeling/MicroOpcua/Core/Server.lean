import MicroOpcua.Core.Connection

namespace MicroOpcua

variable {W A : Type}

section Emit

variable (b : Build) (c : Config W)

def emitMessage (request : PublishRequest) (body : Bytes) : ConnM W A (Except Fault Unit) := do
  let ch := (← get).conn.channel
  if b.security && ch.mode ≠ .none then
    match c.cryptoAdapter, ch.keysValid with
    | some cr, true =>
      modify Ctx.numbered
      let ch := (← get).conn.channel
      match ← onWorld (symChunkWrap cr ch.mode ch.serverKeys (utf8 "MSG") ch.channelId ch.tokenId
          ch.outSequenceNumber request.requestId body c.sendBufferSize).run with
      | .error e => return .error e
      | .ok bytes =>
        sendBufferChunk c (.chunk ch.outSequenceNumber request.requestId body (some request)) bytes
        return .ok ()
    | _, _ => return .error .securityChecksFailed
  else if body.length > c.sendBufferSize - symmetricHeaderSize then
    return .error .responseTooLarge
  else
    modify Ctx.numbered
    let ch := (← get).conn.channel
    match finalizeSymmetric ch.channelId ch.tokenId ch.outSequenceNumber request.requestId body
        c.sendBufferSize with
    | .error e => return .error e
    | .ok bytes =>
      sendBufferChunk c (.chunk ch.outSequenceNumber request.requestId body (some request)) bytes
      return .ok ()

def emitFault (request : PublishRequest) (e : Fault) : ConnM W A Unit := do
  if publishResponseOversizeStatus e then
    match (writeServiceFault request.requestHandle Fault.responseTooLarge.code :
        WriteM publishBodyBytes Unit).encode with
    | .ok fault => discard (emitMessage b c request fault.1)
    | .error _ => pure ()

def emitOrFault (request : PublishRequest) : Except Fault Bytes → ConnM W A Bool
  | .error e => do
    emitFault b c request e
    return false
  | .ok body => do
    match ← emitMessage b c request body with
    | .ok () => return true
    | .error e =>
      emitFault b c request e
      return false

end Emit

section Publish

variable (b : Build) (c : Config W)

def dequeuePublish (sessionId : UInt32) : ConnM W A (Option PublishRequest) := fun s =>
  match publishRequestDequeue s.shared.subs.publishQueue sessionId with
  | none => (none, s)
  | some (r, queue) =>
    (some r, { s with shared := { s.shared with subs := { s.shared.subs with publishQueue := queue } } })

def modifySubs (f : Subscriptions W → Subscriptions W) : ConnM W A Unit :=
  modify fun s => { s with shared := { s.shared with subs := f s.shared.subs } }

/-- What the two branches of `publish_due` share: a parked request is taken and answered, and `sent` is
what follows when the response goes out. -/
def publishAnswer (includeData : Bool) (reportCount : Nat) (sent : Sent W) (sub : Subscription) :
    ConnM W A Subscription := do
  match ← dequeuePublish sub.sessionId with
  | none => return sub
  | some request =>
    let sub := sub.numbered
    let publishTime ← onWorld c.platform.getTime
    let items := (← get).shared.subs.items.monitoredItems
    let built := buildPublish b items sub request includeData reportCount publishTime
    if ← emitOrFault b c request (built.map Prod.fst) then
      let (sub, subs) := sent sub ((built.map Prod.snd).toOption.getD []) (← get).shared.subs
      modifySubs fun _ => subs
      return sub
    else return sub

def publishData (sub : Subscription) (reportCount : Nat) : ConnM W A Subscription :=
  publishAnswer b c true reportCount (sentData b reportCount) sub

def publishKeepAlive (sub : Subscription) : ConnM W A Subscription := do
  let sub := sub.counted
  if sub.keepAliveCounter < sub.maxKeepAliveCount then return sub
  publishAnswer b c false 0 sentKeepAlive sub

def publishBranch (sub : Subscription) (reportCount : Nat) : ConnM W A Subscription :=
  if sub.hasData b reportCount then publishData b c sub reportCount else publishKeepAlive b c sub

def publishTurn (i : Nat) (nowMs : UInt64) : ConnM W A Unit := do
  match (← get).shared.subs.subscriptions[i]? with
  | none => return ()
  | some sub =>
    let items := (← get).shared.subs.items.monitoredItems
    let (items, reportCount, sub) ← onWorld (prepareReport b sub items)
    modifySubs (setItemList items)
    let sub ← publishBranch b c sub reportCount
    modifySubs (setSubscription i (sub.advancePublishTimer nowMs))

end Publish

/-- `struct mu_server`. A build for one connection has one entry in `conns`: its own fields. -/
structure Server (W A : Type) where
  shared : Shared W A
  conns : List Connection
  world : W
  trace : List (Event W A)
  isRunning : Bool

namespace Server

def snapshot (s : Server W A) : Snapshot W A := ⟨s.shared, s.conns, s.world⟩

def ctx (s : Server W A) (conn : Connection) : Ctx W A := ⟨s.shared, conn, s.world, s.trace⟩

def put (s : Server W A) (i : Nat) (t : Ctx W A) : Server W A :=
  { s with shared := t.shared, conns := s.conns.set i t.conn, world := t.world, trace := t.trace }

def onConn (s : Server W A) (i : Nat) (m : ConnM W A Unit) : Server W A :=
  match s.conns[i]? with
  | none => s
  | some conn => s.put i (m.run (s.ctx conn)).2

def record (s : Server W A) (e : Event W A) : Server W A := { s with trace := e :: s.trace }

def call {α : Type} (s : Server W A) (m : StateM W α) : α × Server W A :=
  match m.run s.world with
  | (a, w) => (a, { s with world := w })

end Server

def Connection.empty (slot : Nat) : Connection where
  clientHandle := none
  rx := []
  lastActivityMs := 0
  tcp := .init
  channel := .init
  id := ⟨slot, 0⟩
  openingCert := none

def connectionSlots (b : Build) : Nat := if b.multipleConnections then b.maxConnections else 1

def Server.init (b : Build) (a : A) (w : W) : Server W A where
  shared := ⟨[], List.replicate b.maxSessions .init, .init b, a⟩
  conns := (List.range (connectionSlots b)).map .empty
  world := w
  trace := []
  isRunning := true

section Poll

variable (b : Build) (c : Config W) (app : Application W A)

def rxLimit : Nat := if b.multipleConnections then b.connectionRxBufferSize else c.receiveBufferSize

def acceptInto (h : Handle) (nowMs : UInt64) (conn : Connection) : Connection where
  clientHandle := some h
  rx := []
  lastActivityMs := nowMs
  tcp := .init
  channel := .init
  id := ⟨conn.id.slot, conn.id.epoch + 1⟩
  openingCert := none

def acceptConnection (h : Handle) : ConnM W A Unit := do
  let nowMs ← onWorld c.platform.getTickMs
  modify fun s =>
    let conn := acceptInto h nowMs s.conn
    { (s.record (.accepted conn.id)) with conn := conn }

/-- In a build for one connection a new connection also resets the sessions and subscriptions. -/
def resetShared (s : Server W A) : Server W A :=
  if b.multipleConnections then s
  else { s with shared := { s.shared with
    sessions := s.shared.sessions.map (fun _ => .init)
    subs := if b.subscriptions then .init b else s.shared.subs } }

def refuse (h : Handle) : StateM W Unit := do
  match createErrorMessage Fault.tcpNotEnoughResources.code (utf8 "Server full") 256 with
  | .ok bytes => discard (c.platform.write (some h) bytes)
  | .error _ => pure ()
  c.platform.closeConnection (some h)

/-- The single-connection build answers a second connection only after it read a Hello from it. -/
def refuseAfterHello (h : Handle) : StateM W Unit := do
  match ← (c.platform.read h 256).run with
  | .ok bs =>
    if bs.1.length ≥ 8 ∧ bs.1.take 3 = utf8 "HEL" then
      refuse c h else c.platform.closeConnection (some h)
  | .error _ => c.platform.closeConnection (some h)

def dropConnection : ConnM W A Unit := do
  closeConnection c
  modify fun s => { s with conn := { s.conn with rx := [] } }

def connectTimeoutMs : UInt64 := 30000

def timedOut (conn : Connection) (nowMs : UInt64) : Bool :=
  let limit := if conn.channel.isOpen then conn.channel.revisedLifetime.toUInt64 else connectTimeoutMs
  nowMs > conn.lastActivityMs && nowMs - conn.lastActivityMs > limit

def checkTimeout : ConnM W A Unit := do
  let nowMs ← onWorld c.platform.getTickMs
  if timedOut (← get).conn nowMs then dropConnection c

def receive : ConnM W A Unit := do
  let conn := (← get).conn
  match conn.clientHandle with
  | none => return ()
  | some h =>
    if conn.rx.length < rxLimit b c then
      match ← onWorld (c.platform.read h (rxLimit b c - conn.rx.length)).run with
      | .error _ => dropConnection c
      | .ok bs =>
        if bs.1.length > 0 then
          let nowMs ← onWorld c.platform.getTickMs
          modify fun s =>
            { s with conn := { s.conn with rx := conn.rx ++ bs.1, lastActivityMs := nowMs } }

inductive NextMessage where
  | wait
  | malformed
  | complete (message rest : Bytes)

def nextMessage (rx : Bytes) : NextMessage :=
  if rx.length < 8 then .wait
  else
    let size := (u32At rx 4).toNat
    if size < 8 ∨ size > rxLimit b c then .malformed
    else if size > rx.length then .wait
    else .complete (rx.take size) (rx.drop size)

def processOne (message rest : Bytes) : ConnM W A Unit := do
  processMessage b c app message
  modify fun s =>
    { s with conn := { s.conn with rx := if s.conn.clientHandle.isNone then [] else rest } }

def processBuffer (i : Nat) : (fuel : Nat) → Server W A → Server W A
  | 0, s => s
  | n + 1, s =>
    match s.conns[i]? with
    | none => s
    | some conn =>
      if conn.clientHandle.isNone then s
      else match nextMessage b c conn.rx with
        | .wait => s
        | .malformed => s.onConn i (dropConnection c)
        | .complete message rest =>
          processBuffer i n ((s.record (.message conn.id message s.snapshot)).onConn i
            (processOne b c app message rest))

def Server.connected (s : Server W A) (i : Nat) : Bool :=
  s.conns[i]?.any (fun conn => conn.clientHandle.isSome)

/-- One connection's share of a poll; every message takes eight bytes or more of the buffer. -/
def serveConnection (i : Nat) (s : Server W A) : Server W A :=
  if !s.connected i then s
  else
    let s := s.onConn i (receive b c)
    processBuffer b c app i (((s.conns[i]?.map (·.rx)).getD []).length) s

def pollConnection (i : Nat) (s : Server W A) : Server W A :=
  if !s.connected i then s else serveConnection b c app i (s.onConn i (checkTimeout c))

def sampleAll (nowMs : UInt64) (s : Server W A) : Server W A :=
  let t := s.shared.subs.items
  match s.call (sampleItems b nowMs t.activeMonitoredItemsCount.toNat t.monitoredItems) with
  | (items, s) => { s with shared := { s.shared with subs := setItemList items s.shared.subs } }

/-- The connection `publish_due` resolves for a subscription: the first connected one whose channel
id is that of the subscription's session. -/
def publishConnection (s : Snapshot W A) (sub : Subscription) : Option Nat :=
  if b.multipleConnections then
    match s.shared.sessions.find? (fun ss => ss.open && ss.sessionId = sub.sessionId) with
    | none => none
    | some session =>
      s.conns.findIdx? (fun conn =>
        conn.clientHandle.isSome && conn.channel.channelId = session.secureChannelId)
  else some 0

def publishOne (nowMs : UInt64) (s : Server W A) (i : Nat) : Server W A :=
  match s.shared.subs.subscriptions[i]? with
  | none => s
  | some sub =>
    if !sub.inUse || sub.nextPublishMs > nowMs then s
    else match publishConnection b s.snapshot sub with
      | none => s
      | some k => (s.record (.turn i s.snapshot)).onConn k (publishTurn b c i nowMs)

def publishDue (nowMs : UInt64) (s : Server W A) : Server W A :=
  (List.range s.shared.subs.subscriptions.length).foldl (publishOne b c nowMs) s

def subscriptionsTick (s : Server W A) : Server W A :=
  match s.call c.platform.getTickMs with
  | (nowMs, s) => publishDue b c nowMs (sampleAll b nowMs s)

def pollBackground (s : Server W A) : Server W A :=
  match app.pubsubPoll.run (s.shared.app, s.world) with
  | (r, a, w) =>
    let s := { s with shared := { s.shared with app := a }, world := w }
    match r with
    | .error _ => s
    | .ok () => if b.subscriptions then subscriptionsTick b c s else s

def pollMultiple (s : Server W A) : Server W A :=
  let free := s.conns.findIdx? (fun conn => conn.clientHandle.isNone)
  match s.call c.platform.accept with
  | (some h, s) =>
    match free with
    | some i => s.onConn i (acceptConnection c h)
    | none => (s.call (refuse c h)).2
  | (none, s) => (List.range s.conns.length).foldl (fun s i => pollConnection b c app i s) s

def pollSingle (s : Server W A) : Server W A :=
  if s.connected 0 then
    let s := s.onConn 0 (checkTimeout c)
    if !s.connected 0 then s
    else match s.call c.platform.accept with
      | (some h, s) => serveConnection b c app 0 (s.call (refuseAfterHello c h)).2
      | (none, s) => serveConnection b c app 0 s
  else
    match s.call c.platform.accept with
    | (some h, s) => (resetShared b s).onConn 0 (acceptConnection c h)
    | (none, s) => s

def poll (s : Server W A) : Server W A :=
  if s.isRunning then
    pollBackground b c app (if b.multipleConnections then
      pollMultiple b c app s else pollSingle b c app s)
  else s

def serverClose (s : Server W A) : Server W A :=
  let s := { s with isRunning := false }
  if b.multipleConnections then
    (List.range s.conns.length).foldl
      (fun s i => if s.connected i then s.onConn i (do
        closeConnection c
        closeChannel c) else s) s
  else s.onConn 0 (closeChannel c)

def serverTriggerEvent (e : EventNotification) (s : Server W A) : Server W A :=
  { s with shared := { s.shared with subs := triggerEvent s.shared.subs e } }

end Poll

end MicroOpcua
