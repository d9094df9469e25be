import MicroOpcua.Core.Application
import MicroOpcua.Services.SecureChannelService

namespace MicroOpcua

open HandlerM

structure Shared (W A : Type) where
  channelClientCert : Bytes
  sessions : List Session
  subs : Subscriptions W
  app : A

/-- What a request can change: the shared part and the channel it came in on. -/
structure Scope (W A : Type) where
  shared : Shared W A
  channel : SecureChannel

/-- A request as `server.c` hands it to `mu_service_dispatch`, with the OPN fields it sets around
the call (null unless the chunk is an OPN chunk). -/
structure Request where
  connection : ConnId
  typeId : UInt32
  body : Bytes
  requestId : UInt32
  opnPolicy : MuString
  opnClientCert : MuString

inductive Answer where
  | response
  | activated (slot : Nat)
  | parked

variable {W A : Type} {cap : Nat}

abbrev ScopeM (W A : Type) (cap : Nat) := HandlerM (Scope W A) W cap

namespace Scope

def setSessions (ss : List Session) (s : Scope W A) : Scope W A :=
  { s with shared := { s.shared with sessions := ss } }

def setSubs (subs : Subscriptions W) (s : Scope W A) : Scope W A :=
  { s with shared := { s.shared with subs := subs } }

def setItems (items : ItemTable W) (s : Scope W A) : Scope W A :=
  s.setSubs { s.shared.subs with items := items }

def setApp (app : A) (s : Scope W A) : Scope W A := { s with shared := { s.shared with app := app } }

def setChannel (ch : SecureChannel) (s : Scope W A) : Scope W A := { s with channel := ch }

end Scope

def onSessions {α : Type} (m : SessionM W cap α) : ScopeM W A cap α :=
  zoom (·.shared.sessions) Scope.setSessions m

def onSubs (m : SubscriptionM W cap Unit) : ScopeM W A cap Unit :=
  zoom (·.shared.subs) Scope.setSubs m

def onItems (m : ItemM W cap Unit) : ScopeM W A cap Unit :=
  zoom (·.shared.subs.items) Scope.setItems m

def onCall (m : CallM W A cap Unit) : ScopeM W A cap Unit :=
  zoom (fun s => (s.shared.subs, s.shared.app)) (fun t s => (s.setSubs t.1).setApp t.2) m

def onChannel (m : ChannelM W cap Unit) : ScopeM W A cap Unit :=
  zoom (·.channel) Scope.setChannel m

def onClose (m : HandlerM (List Session × Subscriptions W) W cap Unit) : ScopeM W A cap Unit :=
  zoom (fun s => (s.shared.sessions, s.shared.subs)) (fun t s => (s.setSessions t.1).setSubs t.2) m

def onApplication (app : Application W A) (service : Service) (session : Option UInt32) :
    ScopeM W A cap Unit :=
  ExceptT.mk fun s =>
    let view : ServerView W := ⟨s.state.shared.sessions, s.state.shared.subs, session⟩
    match (app.serve service view s.reader.buffer cap).run (s.state.shared.app, s.world) with
    | (.error e, a, w) => (.error e, { s with state := s.state.setApp a, world := w })
    | (.ok r, a, w) =>
      (.ok (), { s with writer := ⟨r.1, none, r.2.2⟩, state := s.state.setApp a, world := w })

section

variable (b : Build) (c : Config W) (app : Application W A) (req : Request)

def Request.caller (sessionId : UInt32) : Caller := ⟨sessionId, req.requestId, req.connection⟩

def handler (service : Service) (active : Option (Nat × Session)) : ScopeM W A cap Answer := do
  let s ← state
  let conn : ConnView := ⟨req.connection, s.channel, s.shared.channelClientCert⟩
  let slot := (active.map Prod.fst).getD 0
  let caller := req.caller ((active.map (·.2.sessionId)).getD 0)
  let subs := s.shared.subs.subscriptions
  match service with
  | .openSecureChannel =>
    onChannel (handleOpenSecureChannel b c req.opnPolicy req.opnClientCert)
    return .response
  | .createSession => onSessions (handleCreateSession b c conn); return .response
  | .activateSession =>
    match ← onSessions (handleActivateSession b c conn) with
    | some i => return .activated i
    | none => return .response
  | .closeSession => onClose (handleCloseSession b slot); return .response
  | .createSubscription => onSubs (handleCreateSubscription b c.platform caller); return .response
  | .modifySubscription => onSubs (handleModifySubscription b caller); return .response
  | .setPublishingMode => onSubs (handleSetPublishingMode caller); return .response
  | .deleteSubscriptions => onSubs (handleDeleteSubscriptions b caller); return .response
  | .publish => onSubs (handlePublish b c.platform caller); return .parked
  | .republish => onSubs (handleRepublish caller); return .response
  | .createMonitoredItems =>
    onItems (handleCreateMonitoredItems b c.platform (app.resolveNode s.shared.app) subs caller)
    return .response
  | .modifyMonitoredItems => onItems (handleModifyMonitoredItems b subs caller); return .response
  | .setMonitoringMode => onSubs (handleSetMonitoringMode caller); return .response
  | .setTriggering => onItems (handleSetTriggering b subs caller); return .response
  | .deleteMonitoredItems => onSubs (handleDeleteMonitoredItems b caller); return .response
  | .call => onCall (handleCall b app caller); return .response
  | .closeSecureChannel => return .parked
  | _ => onApplication app service (active.map (·.2.sessionId)); return .response

def openSecureChannelRequestId : UInt32 := 446

/-- The checks of `mu_service_dispatch` before the handler: the service and, for a session-bound
one, the slot and content of the session the request names. -/
def dispatchGate (s : Scope W A) : Except Fault (Service × Option (Nat × Session)) := do
  let some row := findServiceDescriptor b req.typeId | throw .serviceUnsupported
  if req.typeId ≠ openSecureChannelRequestId ∧ ¬ s.channel.isOpen then throw .secureChannelIdInvalid
  if row.requiresSession then
    let token := readAuthTokenFromRequest req.body
    if token = 0 then throw .sessionIdInvalid
    let some i := sessionFindByToken s.shared.sessions token | throw .sessionIdInvalid
    let session := s.shared.sessions.getD i .init
    sessionValidateSecureChannel b session s.channel.channelId
    if session.state ≠ .activated then throw .sessionNotActivated
    return (row.service, some (i, session))
  return (row.service, none)

/-- That a handler ran, for the specification: the service, the policy of the channel, the certificate
the server compares client certificates with, and the session it succeeded for. -/
structure HandlerRun where
  service : Service
  policy : SecurityPolicyId
  clientCert : Bytes
  session : Option Session

def Answer.session (sessions : List Session) (active : Option (Nat × Session)) : Answer → Option Session
  | .activated i => sessions[i]?
  | _ => active.map Prod.snd

def Answer.response? : Answer → Encoded cap → Encoded cap
  | .parked, _ => ⟨[], Nat.zero_le cap⟩
  | _, bs => bs

structure Dispatched (W A : Type) (cap : Nat) where
  result : Except Fault (Encoded cap)
  run : Option HandlerRun
  scope : Scope W A
  world : W

/-- `mu_service_dispatch`. CloseSecureChannel has no handler, so nothing runs for it. -/
def serviceDispatch (s : Scope W A) (world : W) : Dispatched W A cap :=
  match dispatchGate b req s with
  | .error e => ⟨.error e, none, s, world⟩
  | .ok (.closeSecureChannel, _) => ⟨.ok ⟨[], Nat.zero_le cap⟩, none, s, world⟩
  | .ok (service, active) =>
    let run : HandlerRun := ⟨service, s.channel.policy, s.shared.channelClientCert, none⟩
    match (handler b c app req service active).execute req.body s world with
    | (.error e, s', w') => ⟨.error e, some run, s', w'⟩
    | (.ok (answer, bs), s', w') =>
      ⟨.ok (answer.response? bs), some { run with session := answer.session s.shared.sessions active },
        s', w'⟩

end

end MicroOpcua
