import MicroOpcua.Core.Server
import MicroOpcua.Services.SecureChannelLaws
import MicroOpcua.Services.SubscriptionLaws

namespace MicroOpcua

variable {W A : Type}

def opnPolicy (b : Build) (message : Bytes) : Option SecurityPolicyId :=
  (readOpnPolicyUri message).map (requestedPolicyId b.security)

def opnCertificate (message : Bytes) : MuString :=
  match readOpnHeader.decode message with
  | .ok (_, _, senderCert, _, _) => senderCert
  | .error _ => none

def secureTransport (b : Build) (c : Config W) : Bool := b.security && c.cryptoAdapter.isSome

def Unwrapped (c : Config W) (ch : SecureChannel) (message : Bytes) (chunk : Inbound) : Prop :=
  ∃ cr w m, c.cryptoAdapter = some cr ∧ ch.keysValid = true ∧
    ((symChunkUnwrap cr ch.mode ch.clientKeys message).run.run w).1 = .ok m ∧
    m.secureChannelId = chunk.channelId ∧ m.tokenId = chunk.tokenId ∧
      m.sequenceNumber = chunk.sequenceNumber ∧
    m.requestId = chunk.requestId ∧ readRequestType m.body = some (chunk.typeId, chunk.body)

def FramesMsg (b : Build) (c : Config W) (ch : SecureChannel) (requestId : UInt32)
    (bytes : Bytes) : Prop :=
  if b.security && ch.mode ≠ .none then
    ∃ cr w body, c.cryptoAdapter = some cr ∧
      ((symChunkWrap cr ch.mode ch.serverKeys (utf8 "MSG") ch.channelId ch.tokenId
        ch.outSequenceNumber requestId body c.sendBufferSize).run.run w).1 = .ok bytes
  else
    ∃ body, finalizeSymmetric ch.channelId ch.tokenId ch.outSequenceNumber requestId
      body c.sendBufferSize = .ok bytes

structure Arrival (W A : Type) where
  start : Ctx W A
  bytes : Bytes
  conns : List Connection
  past : List (Event W A)
  trace : start.trace = .message start.conn.id bytes ⟨start.shared, conns, start.world⟩ :: past
  mem : start.conn ∈ conns
  connected : start.conn.clientHandle.isSome = true
  complete : (u32At bytes 4).toNat = bytes.length

structure Turn (b : Build) (W A : Type) where
  start : Ctx W A
  index : Nat
  sub : Subscription
  conns : List Connection
  past : List (Event W A)
  trace : start.trace = .turn index ⟨start.shared, conns, start.world⟩ :: past
  found : start.shared.subs.subscriptions[index]? = some sub
  mem : start.conn ∈ conns
  resolved : b.multipleConnections = true → start.conn.clientHandle.isSome = true ∧
    ∃ session ∈ start.shared.sessions, session.open = true ∧ session.sessionId = sub.sessionId ∧
      start.conn.channel.channelId = session.secureChannelId

inductive Cause (b : Build) (W A : Type) where
  | message (a : Arrival W A)
  | turn (t : Turn b W A)
  | housekeeping
  | stopping

def Cause.isTurn {b : Build} : Cause b W A → Bool
  | .turn _ => true
  | _ => false

/-- Changes outside the connection: the world and, in a turn, the bookkeeping of the subscription
engine. -/
structure Quiet {b : Build} (k : Cause b W A) (s t : Ctx W A) : Prop where
  trace : t.trace = s.trace
  cert : t.shared.channelClientCert = s.shared.channelClientCert
  sessions : t.shared.sessions = s.shared.sessions
  subs : k.isTurn = false → t.shared.subs = s.shared.subs
  tables : SameTables s.shared.subs t.shared.subs
  conn : t.conn = s.conn

section

variable (b : Build) (c : Config W) (app : Application W A)

/-- Chunk `chunk` of the message is about to be dispatched in state `s`: what the checks before the
dispatch guarantee, against the state the message found. -/
structure Arrived (a : Arrival W A) (s : Ctx W A) (chunk : Inbound) : Prop where
  type : parseMessageHeader a.bytes = .ok (if chunk.isOpn then .openChannel else .message)
  trace : s.trace = a.start.trace
  shared : s.shared = a.start.shared
  conn : s.conn = { a.start.conn with channel := s.conn.channel }
  channel : s.conn.channel =
    { a.start.conn.channel with policy := s.conn.channel.policy, sequence := s.conn.channel.sequence }
  accepted :
    sequenceValidate a.start.conn.channel.sequence chunk.sequenceNumber = .ok s.conn.channel.sequence
  bound : chunk.isOpn = false →
    chunk.channelId = a.start.conn.channel.channelId ∧ chunk.tokenId = a.start.conn.channel.tokenId
  policy : if chunk.isOpn && secureTransport b c then opnPolicy b a.bytes = some s.conn.channel.policy
    else s.conn.channel.policy = a.start.conn.channel.policy
  unwrapped : chunk.isOpn = false → secureTransport b c = true → a.start.conn.channel.policy ≠ .none →
    Unwrapped c a.start.conn.channel a.bytes chunk
  uri : chunk.isOpn = true → readOpnPolicyUri a.bytes = some chunk.policyUri
  cert : chunk.isOpn = true → chunk.senderCert.getD [] = (opnCertificate a.bytes).getD []

structure Emitted (t : Turn b W A) (s : Ctx W A) (r : PublishRequest) : Prop where
  trace : s.trace = t.start.trace
  parked : r ∈ t.start.shared.subs.publishQueue
  inUse : r.inUse = true
  session : r.sessionId = t.sub.sessionId
  conn : s.conn = { t.start.conn with channel := s.conn.channel }
  channel : s.conn.channel =
    { t.start.conn.channel with outSequenceNumber := s.conn.channel.outSequenceNumber }

inductive WrapFailed : Cause b W A → Ctx W A → Prop where
  | symmetric {k s} (cr : CryptoAdapter W) (w : W) (requestId : UInt32) (body : Bytes) (e : Fault)
      (crypto : c.cryptoAdapter = some cr) (mode : s.conn.channel.mode ≠ .none)
      (secure : b.security = true)
      (size : body.length ≤ secureRespMax)
      (failed : ((symChunkWrap cr s.conn.channel.mode s.conn.channel.serverKeys (utf8 "MSG")
        s.conn.channel.channelId s.conn.channel.tokenId s.conn.channel.outSequenceNumber requestId body
        c.sendBufferSize).run.run w).1 = .error e) : WrapFailed k s
  | asymmetric {a s} (cr : CryptoAdapter W) (w : W) (requestId : UInt32) (cert body : Bytes) (e : Fault)
      (crypto : c.cryptoAdapter = some cr) (secure : b.security = true)
      (addressed : s.conn.channel.policy = .none ∨ s.conn.channel.policy ≠ .invalid ∧ cr.Accepted cert)
      (size : body.length ≤ opnAnswerMax ∨ ∃ chunk run,
        s.trace = .dispatched a.start.conn.id a.start.conn.channel chunk run :: a.start.trace ∧
        chunk.isOpn = true ∧ chunk.typeId.ns0Numeric? ≠ some openSecureChannelRequestId)
      (failed : ((asymChunkWrap b.security cr s.conn.channel.policy s.conn.channel.channelId
        s.conn.channel.outSequenceNumber requestId cert body c.sendBufferSize).run.run w).1 = .error e) :
      WrapFailed (.message a) s

/-- One thing the server does to a connection, for a cause. -/
inductive Act : Cause b W A → Ctx W A → Ctx W A → Prop where
  | quiet {k s t} (h : Quiet k s t) : Act k s t
  | buffer {s} (rx : Bytes) (nowMs : UInt64) :
      Act .housekeeping s { s with conn := { s.conn with rx := rx, lastActivityMs := nowMs } }
  | close {k s} : Act k s s.closed
  | shut {k s} (opened : s.conn.channel.isOpen = true) : Act k s (s.setChannel .init).closed
  | reset {s} (opened : s.conn.channel.isOpen = true) : Act .stopping s (s.setChannel .init)
  | accept {s} (h : Handle) (nowMs : UInt64) (free : s.conn.clientHandle = none) :
      Act .housekeeping s
        { (s.record (.accepted (acceptInto h nowMs s.conn).id)) with conn := acceptInto h nowMs s.conn }
  | transport {k s} (bytes : Bytes) (size : bytes.length ≤ c.sendBufferSize) :
      Act k s (s.written .transport bytes)
  | hello {a : Arrival W A} (h : Hello) (tcp : TcpConnection)
    (decoded : processHello c a.bytes = .ok (h, tcp)) :
      Act (.message a) a.start
        { (a.start.record (.hello a.start.conn.id h.receiveBufferSize)) with
          conn := { a.start.conn with tcp := tcp } }
  | policy {a : Arrival W A} {s} (p : SecurityPolicyId) (secure : secureTransport b c = true)
      (trace : s.trace = a.start.trace)
      (conn : s.conn = a.start.conn) (type : parseMessageHeader a.bytes = .ok .openChannel)
      (named : opnPolicy b a.bytes = some p) :
      Act (.message a) s (s.setChannel { s.conn.channel with policy := p })
  | sequence {k s} (v : SequenceValidator) : Act k s (s.setChannel { s.conn.channel with sequence := v })
  | dispatch {a : Arrival W A} {s} (cap : Nat) (chunk : Inbound) (typeId : UInt32)
      (arrived : Arrived b c a s chunk) (type : chunk.typeId.ns0Numeric? = some typeId) :
      Act (.message a) s (dispatchInbound b c app cap a.start.conn.channel chunk typeId s).2
  | send {k s} (requestId : UInt32) (payload : Bytes) (publish : Option PublishRequest) (bytes : Bytes)
      (size : bytes.length ≤ c.sendBufferSize) (serving : k ≠ .stopping)
      (emitted : ∀ r, publish = some r → FramesMsg b c s.numbered.conn.channel requestId bytes ∧
        ∃ t, k = .turn t ∧ Emitted b t s r) :
      Act k s
        (s.numbered.written
          (.chunk s.numbered.conn.channel.outSequenceNumber requestId payload publish) bytes)
  | lost {k s} (why : WrapFailed b c k s.numbered) : Act k s s.numbered

end

end MicroOpcua
