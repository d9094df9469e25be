import MicroOpcua.Services.MonitoredItemService

namespace MicroOpcua

inductive Service where
  | findServers | getEndpoints
  | openSecureChannel | closeSecureChannel
  | createSession | activateSession | closeSession
  | read | registerNodes | unregisterNodes
  | translateBrowsePaths | browse | browseNext
  | queryFirst | queryNext
  | write | historyRead | historyUpdate | call
  | addNodes | addReferences | deleteNodes | deleteReferences
  | createMonitoredItems | modifyMonitoredItems | setMonitoringMode | setTriggering
  | deleteMonitoredItems
  | createSubscription | modifySubscription | setPublishingMode | deleteSubscriptions | publish
  | republish
deriving DecidableEq

structure ServiceRow where
  service : Service
  requestId : UInt32
  requiresSession : Bool
  enabled : Bool

def supportedServices (b : Build) : List ServiceRow :=
  [⟨.findServers, 422, false, b.serviceDiscovery⟩,
   ⟨.getEndpoints, 428, false, b.serviceDiscovery⟩,
   ⟨.openSecureChannel, 446, false, true⟩,
   ⟨.closeSecureChannel, 452, false, true⟩,
   ⟨.createSession, 461, false, true⟩,
   ⟨.activateSession, 467, false, true⟩,
   ⟨.closeSession, 473, true, true⟩,
   ⟨.read, 631, true, b.serviceRead⟩,
   ⟨.registerNodes, 560, true, b.serviceRegisterNodes⟩,
   ⟨.unregisterNodes, 566, true, b.serviceRegisterNodes⟩,
   ⟨.translateBrowsePaths, 554, true, b.serviceBrowse⟩,
   ⟨.browse, 527, true, b.serviceBrowse⟩,
   ⟨.browseNext, 533, true, b.serviceBrowse⟩,
   ⟨.queryFirst, 615, true, b.serviceQuery⟩,
   ⟨.queryNext, 621, true, b.serviceQuery⟩,
   ⟨.write, 673, true, b.serviceWrite⟩,
   ⟨.historyRead, 664, true, b.serviceHistory⟩,
   ⟨.historyUpdate, 700, true, b.serviceHistory⟩,
   ⟨.call, 712, true, b.callEnabled⟩,
   ⟨.addNodes, 488, true, b.serviceNodeManagement⟩,
   ⟨.addReferences, 494, true, b.serviceNodeManagement⟩,
   ⟨.deleteNodes, 500, true, b.serviceNodeManagement⟩,
   ⟨.deleteReferences, 506, true, b.serviceNodeManagement⟩,
   ⟨.createMonitoredItems, 751, true, b.subscriptions⟩,
   ⟨.modifyMonitoredItems, 763, true, b.subscriptions⟩,
   ⟨.setMonitoringMode, 767, true, b.subscriptions⟩,
   ⟨.setTriggering, 773, true, b.subscriptions && b.subscriptionsStandard⟩,
   ⟨.deleteMonitoredItems, 781, true, b.subscriptions⟩,
   ⟨.createSubscription, 787, true, b.subscriptions⟩,
   ⟨.modifySubscription, 793, true, b.subscriptions⟩,
   ⟨.setPublishingMode, 799, true, b.subscriptions⟩,
   ⟨.deleteSubscriptions, 847, true, b.subscriptions⟩,
   ⟨.publish, 826, true, b.subscriptions⟩,
   ⟨.republish, 832, true, b.subscriptions⟩]

def findServiceDescriptor (b : Build) (requestId : UInt32) : Option ServiceRow :=
  ((supportedServices b).filter (·.enabled)).find? (fun row => row.requestId = requestId)

/-- A response of at most `cap` bytes; every handler that answers has written a response header. -/
abbrev Response (cap : Nat) := { bs : Bytes // bs ≠ [] ∧ bs.length ≤ cap }

structure ServerView (W : Type) where
  sessions : List Session
  subs : Subscriptions W
  activeSession : Option UInt32

/-- The services on the address space and the application behind them, with their own state `A`
(address space, continuation points, conditions, writer groups, registered methods). They read the
rest of the server but change only `A` and the world. -/
structure Application (W A : Type) where
  serve : Service → ServerView W → Bytes → (cap : Nat) → StateM (A × W) (Except Fault (Response cap))
  resolveNode : A → NodeId → Option (Node W)
  callMethod : (objectId methodId : NodeId) → List Scalar → StateM (A × W) (StatusCode × List Variant)
  pubsubPoll : StateM (A × W) (Except Fault Unit)

def maxCallMethods : Nat := 8
def maxCallInputArguments : Nat := 4

def serverObjectId : UInt32 := 2253
def serverGetMonitoredItemsId : UInt32 := 11492
def serverResendDataId : UInt32 := 12873

section Call

variable {W A : Type} {cap : Nat}

open HandlerM

structure MethodResult where
  status : StatusCode
  inputArgumentResults : List StatusCode
  outputs : List Variant

def MethodResult.fault (e : Fault) : MethodResult := ⟨e.code, [], []⟩

def writeCallMethodResult (r : MethodResult) : WriteM cap Unit := do
  writeUInt32 r.status
  writeInt32 r.inputArgumentResults.length
  writeEach writeUInt32 r.inputArgumentResults
  writeInt32 0
  writeInt32 r.outputs.length
  writeEach writeVariant r.outputs

def readCallInputArguments : ReadM (List Scalar) := do
  let count ← readInt32
  if count < -1 then throw .decodingError
  if count > maxCallInputArguments then throw .tooManyOperations
  readEach readVariant count.toNat

abbrev CallM (W A : Type) (cap : Nat) := HandlerM (Subscriptions W × A) W cap

def uint32Array (vs : List UInt32) : Variant := .array 7 vs.length (some (vs.map .uint32))

def requestResendData (sessionId subscriptionId : UInt32) (s : Subscriptions W) :
    Except Fault Unit × Subscriptions W :=
  match subscriptionUpdate s.subscriptions sessionId subscriptionId
      (fun sub => { sub with resendDataPending := true }) with
  | (r, subs) => (r, { s with subscriptions := subs })

def callServerMethod (b : Build) (sessionId methodId subscriptionId : UInt32) (s : Subscriptions W) :
    MethodResult × Subscriptions W :=
  if methodId = serverGetMonitoredItemsId then
    match subscriptionGetMonitoredItems s.subscriptions s.items.monitoredItems sessionId subscriptionId
        b.maxMonitoredItems with
    | .error e => (.fault e, s)
    | .ok handles =>
      (⟨good, [], [uint32Array (handles.map Prod.fst), uint32Array (handles.map Prod.snd)]⟩, s)
  else
    match requestResendData sessionId subscriptionId s with
    | (r, s) => (⟨statusOf r, [], []⟩, s)

def checkServerMethod (objectId : NodeId) (args : List Scalar) : Except MethodResult UInt32 :=
  if objectId.ns0Numeric? ≠ some serverObjectId then .error (.fault .nodeIdInvalid)
  else match args with
    | [] => .error (.fault .argumentsMissing)
    | [.uint32 id] => .ok id
    | [_] => .error ⟨Fault.invalidArgument.code, [Fault.invalidArgument.code], []⟩
    | _ => .error (.fault .tooManyArguments)

def callApplicationMethod (app : Application W A) (objectId methodId : NodeId) (args : List Scalar) :
    CallM W A cap MethodResult := ExceptT.mk fun s =>
  match (app.callMethod objectId methodId args).run (s.state.2, s.world) with
  | ((status, outputs), a, w) =>
    (.ok ⟨status, [], outputs⟩, { s with state := (s.state.1, a), world := w })

def callMethod (b : Build) (app : Application W A) (caller : Caller) (objectId methodId : NodeId)
    (args : List Scalar) : CallM W A cap MethodResult := do
  match methodId.ns0Numeric? with
  | some id =>
    if id = serverGetMonitoredItemsId ∨ id = serverResendDataId then
      match checkServerMethod objectId args with
      | .error r => return r
      | .ok subscriptionId =>
        update fun s =>
          match callServerMethod b caller.sessionId id subscriptionId s.1 with
          | (r, subs) => (r, (subs, s.2))
    else callApplicationMethod app objectId methodId args
  | none => callApplicationMethod app objectId methodId args

def handleCall (b : Build) (app : Application W A) (caller : Caller) : CallM W A cap Unit := do
  let req ← decode requestHeaderDecode
  let count ← decode readInt32
  if count < -1 then throw .decodingError
  if count ≤ 0 then throw .nothingToDo
  if count > maxCallMethods then throw .tooManyOperations
  encode do
    writeResponsePrefix 715 req.requestHandle good
    writeInt32 count
  repeatM (do
    let objectId ← decode readNodeId
    let methodId ← decode readNodeId
    let args ← decode readCallInputArguments
    let result ← callMethod b app caller objectId methodId args
    encode (writeCallMethodResult result)) count.toNat
  encode (writeInt32 0)

end Call

end MicroOpcua
