import MicroOpcua.Core.Dispatch
import MicroOpcua.Core.Message

namespace MicroOpcua

/-- `mu_connection_t`, or the server's own fields in a build for one connection. The last two fields
are not in the source and only the specification reads them: which accepted connection this is, and
the certificate of the OPN chunk that opened its channel. -/
structure Connection where
  clientHandle : Option Handle
  rx : Bytes
  lastActivityMs : UInt64
  tcp : TcpConnection
  channel : SecureChannel
  id : ConnId
  openingCert : MuString
deriving DecidableEq

structure Inbound where
  isOpn : Bool
  channelId : UInt32
  tokenId : UInt32
  sequenceNumber : UInt32
  requestId : UInt32
  policyUri : MuString
  senderCert : MuString
  typeId : NodeId
  body : Bytes

/-- What a written buffer holds: an ACK or ERR message, or a numbered chunk whose payload answers a
request, which is a parked Publish request for a publish message. -/
inductive Content where
  | transport
  | chunk (sequenceNumber requestId : UInt32) (payload : Bytes) (publish : Option PublishRequest)

structure Written where
  conn : ConnId
  handle : Handle
  channel : SecureChannel
  content : Content
  bytes : Bytes

structure Snapshot (W A : Type) where
  shared : Shared W A
  conns : List Connection
  world : W

/-- The history of a run, for the specification only. -/
inductive Event (W A : Type) where
  | accepted (conn : ConnId)
  | hello (conn : ConnId) (receiveBufferSize : UInt32)
  | message (conn : ConnId) (bytes : Bytes) (before : Snapshot W A)
  | dispatched (conn : ConnId) (before : SecureChannel) (chunk : Inbound) (run : Option HandlerRun)
  | turn (subscription : Nat) (before : Snapshot W A)
  | wrote (w : Written)
  | closed (conn : ConnId)

/-- What the code for one connection works on: the shared part, this connection, the world and the
history, newest event first. Other connections are out of reach. -/
structure Ctx (W A : Type) where
  shared : Shared W A
  conn : Connection
  world : W
  trace : List (Event W A)

variable {W A : Type}

abbrev ConnM (W A : Type) := StateM (Ctx W A)

namespace Ctx

def record (e : Event W A) (s : Ctx W A) : Ctx W A := { s with trace := e :: s.trace }

def setChannel (ch : SecureChannel) (s : Ctx W A) : Ctx W A :=
  { s with conn := { s.conn with channel := ch } }

def scope (s : Ctx W A) : Scope W A := ⟨s.shared, s.conn.channel⟩

def numbered (s : Ctx W A) : Ctx W A :=
  s.setChannel { s.conn.channel with outSequenceNumber := s.conn.channel.outSequenceNumber + 1 }

def closed (s : Ctx W A) : Ctx W A :=
  { (s.record (.closed s.conn.id)) with conn := { s.conn with clientHandle := none } }

def written (content : Content) (bytes : Bytes) (s : Ctx W A) : Ctx W A :=
  match s.conn.clientHandle with
  | some h => s.record (.wrote ⟨s.conn.id, h, s.conn.channel, content, bytes⟩)
  | none => s

end Ctx

def onWorld {α : Type} (m : StateM W α) : ConnM W A α := fun s =>
  match m.run s.world with
  | (a, w) => (a, { s with world := w })

section

variable (b : Build) (c : Config W) (app : Application W A)

def closeConnection : ConnM W A Unit := do
  let s ← get
  onWorld (c.platform.closeConnection s.conn.clientHandle)
  modify Ctx.closed

def sendBufferChunk (content : Content) (bytes : Bytes) : ConnM W A Unit := do
  modify (Ctx.written content bytes)
  let (status, written) ← onWorld (c.platform.write (← get).conn.clientHandle bytes)
  if status ≠ good ∨ written ≠ bytes.length then closeConnection c

def sendTcpErrorChunk (code : StatusCode) : ConnM W A Unit :=
  match createErrorMessage code [] c.sendBufferSize with
  | .ok bytes => sendBufferChunk c .transport bytes
  | .error _ => pure ()

def acceptInboundChunk (ch : SecureChannel) (isOpn : Bool) (channelId tokenId sequenceNumber : UInt32) :
    Option SecureChannel :=
  if !isOpn && (channelId ≠ ch.channelId || tokenId ≠ ch.tokenId) then none
  else match sequenceValidate ch.sequence sequenceNumber with
    | .ok v => some { ch with sequence := v }
    | .error _ => none

def storedClientCert (cert : MuString) : Bytes :=
  if cert.size > 0 ∧ cert.size ≤ b.maxClientCertSize then cert.getD [] else []

structure ChunkFields where
  channelId : UInt32
  tokenId : UInt32
  sequenceNumber : UInt32
  requestId : UInt32
  policyUri : MuString
  senderCert : MuString
  payload : Bytes

abbrev ChunkFields.inbound (f : ChunkFields) (isOpn : Bool) (typeId : NodeId) (body : Bytes) : Inbound :=
  ⟨isOpn, f.channelId, f.tokenId, f.sequenceNumber, f.requestId, f.policyUri, f.senderCert, typeId, body⟩

abbrev ChunkFields.accept (f : ChunkFields) (isOpn : Bool) (ch : SecureChannel) : Option SecureChannel :=
  acceptInboundChunk ch isOpn f.channelId f.tokenId f.sequenceNumber

def readRequestType (payload : Bytes) : Option (NodeId × Bytes) :=
  let m : ReadM (NodeId × Bytes) := do
    let typeId ← readNodeId
    return (typeId, (← get).remaining)
  (m.decode payload).toOption

def dispatchCert (chunk : Inbound) (stored : Bytes) : Bytes :=
  if chunk.isOpn && b.security then storedClientCert b chunk.senderCert else stored

def dispatchInbound (cap : Nat) (before : SecureChannel) (chunk : Inbound) (typeId : UInt32) :
    ConnM W A (Except Fault (Encoded cap)) := fun s =>
  let shared := { s.shared with channelClientCert := dispatchCert b chunk s.shared.channelClientCert }
  let req : Request :=
    ⟨s.conn.id, typeId, chunk.body, chunk.requestId, chunk.policyUri, chunk.senderCert⟩
  let d : Dispatched W A cap := serviceDispatch b c app req ⟨shared, s.conn.channel⟩ s.world
  let opened := !s.conn.channel.isOpen && d.scope.channel.isOpen
  (d.result,
    { shared := d.scope.shared
      conn := { s.conn with
        channel := d.scope.channel
        openingCert := if opened then chunk.senderCert else s.conn.openingCert }
      world := d.world
      trace := .dispatched s.conn.id before chunk d.run :: s.trace })

def answerBytes {cap : Nat} : Except Fault (Encoded cap) → Bytes
  | .ok bs => bs.1
  | .error e =>
    match (writeServiceFault 0 e.code : WriteM cap Unit).encode with
    | .ok bs => bs.1
    | .error _ => []

def respond (cap : Nat) (before : SecureChannel) (chunk : Inbound) : ConnM W A Bytes := do
  match chunk.typeId.ns0Numeric? with
  | some typeId => return answerBytes (← dispatchInbound b c app cap before chunk typeId)
  | none => return answerBytes (.error .decodingError : Except Fault (Encoded cap))

/-- A chunk past its security checks: sequence check, request type, dispatch. The response body,
unless the chunk is dropped (also for want of any response space) or there is no response. -/
def acceptAndRespond (cap : Nat) (before : SecureChannel) (isOpn : Bool) (f : ChunkFields) :
    ConnM W A (Option Bytes) := do
  let s ← get
  match f.accept isOpn s.conn.channel with
  | none =>
    closeConnection c
    return none
  | some ch =>
    set (s.setChannel ch)
    match readRequestType f.payload with
    | none => return none
    | some (typeId, body) =>
      if cap = 0 then return none
      let chunk : Inbound := f.inbound isOpn typeId body
      let response ← respond b c app cap before chunk
      return if response = [] then none else some response

def readSecurityHeader : (isOpn : Bool) → ReadM (MuString × MuString × UInt32)
  | true => do
    let policyUri ← readString
    let senderCert ← readBytestring
    let _ ← readBytestring
    return (policyUri, senderCert, 0)
  | false => do
    let tokenId ← readUInt32
    return (none, none, tokenId)

def readPlaintextChunk (isOpn : Bool) : ReadM ChunkFields := do
  skipBytes 8
  let channelId ← readUInt32
  let (policyUri, senderCert, tokenId) ← readSecurityHeader isOpn
  let sequenceNumber ← readUInt32
  let requestId ← readUInt32
  return ⟨channelId, tokenId, sequenceNumber, requestId, policyUri, senderCert, (← get).remaining⟩

def framePlaintext (isOpn : Bool) (ch : SecureChannel) (requestId : UInt32) (body : Bytes) :
    Except Fault Bytes :=
  if isOpn then finalizeAsymmetricNone ch.channelId ch.outSequenceNumber requestId body c.sendBufferSize
  else finalizeSymmetric ch.channelId ch.tokenId ch.outSequenceNumber requestId body c.sendBufferSize

def handleDataChunkPlaintext (isOpn : Bool) (message : Bytes) : ConnM W A Unit := do
  let before := (← get).conn.channel
  match (readPlaintextChunk isOpn).decode message with
  | .error _ => return ()
  | .ok f =>
    let offset := if isOpn then asymmetricNoneHeaderSize else symmetricHeaderSize
    match ← acceptAndRespond b c app (c.sendBufferSize - offset) before isOpn f with
    | none => return ()
    | some response =>
      modify Ctx.numbered
      let ch := (← get).conn.channel
      match framePlaintext c isOpn ch f.requestId response with
      | .ok bytes => sendBufferChunk c (.chunk ch.outSequenceNumber f.requestId response none) bytes
      | .error _ => return ()

def secureRespMax : Nat := 11264
def secureOpnReqMax : Nat := 1024

def readOpnPolicyUri (message : Bytes) : Option MuString :=
  let m : ReadM MuString := do
    skipBytes 8
    let _ ← readUInt32
    readString
  (m.decode message).toOption

def unwrapOpn (cr : CryptoAdapter W) (message : Bytes) :
    StateM W (Option (ChunkFields × SecurityPolicyId)) := do
  match readOpnPolicyUri message with
  | none => return none
  | some policyUri =>
    match ← (asymChunkUnwrap b.security cr message secureOpnReqMax).attempt with
    | none => return none
    | some a =>
      return some (⟨a.secureChannelId, 0, a.sequenceNumber, a.requestId, policyUri,
        some a.senderCert, a.body⟩, a.policy)

def unwrapMsg (cr : CryptoAdapter W) (ch : SecureChannel) (message : Bytes) :
    StateM W (Option ChunkFields) := do
  if !ch.keysValid then return none
  match ← (symChunkUnwrap cr ch.mode ch.clientKeys message).attempt with
  | none => return none
  | some m =>
    return some ⟨m.secureChannelId, m.tokenId, m.sequenceNumber, m.requestId, none, none, m.body⟩

def wrapSecure (cr : CryptoAdapter W) (isOpn : Bool) (ch : SecureChannel)
    (f : ChunkFields) (body : Bytes) : AdapterM W Bytes :=
  if isOpn then
    asymChunkWrap b.security cr ch.policy ch.channelId ch.outSequenceNumber f.requestId
      (f.senderCert.getD []) body c.sendBufferSize
  else
    symChunkWrap cr ch.mode ch.serverKeys (utf8 "MSG") ch.channelId ch.tokenId
      ch.outSequenceNumber f.requestId body c.sendBufferSize

/-- The common tail of `handle_data_chunk_secure`. The number is taken before the chunk is wrapped,
and a chunk that cannot be wrapped is dropped. -/
def respondSecure (cr : CryptoAdapter W) (before : SecureChannel) (isOpn : Bool) (f : ChunkFields) :
    ConnM W A Unit := do
  match ← acceptAndRespond b c app secureRespMax before isOpn f with
  | none => return ()
  | some response =>
    modify Ctx.numbered
    let ch := (← get).conn.channel
    match ← onWorld (wrapSecure b c cr isOpn ch f response).attempt with
    | some bytes => sendBufferChunk c (.chunk ch.outSequenceNumber f.requestId response none) bytes
    | none => return ()

/-- `handle_data_chunk_secure`. The policy of an OPN chunk is stored before its checks. -/
def handleDataChunkSecure (cr : CryptoAdapter W) (isOpn : Bool) (message : Bytes) : ConnM W A Unit := do
  let before := (← get).conn.channel
  if isOpn then
    match ← onWorld (unwrapOpn b cr message) with
    | none => return ()
    | some (f, policy) =>
      modify fun s => s.setChannel { s.conn.channel with policy := policy }
      respondSecure b c app cr before true f
  else if before.policy = .none then
    handleDataChunkPlaintext b c app false message
  else
    match ← onWorld (unwrapMsg cr before message) with
    | none => return ()
    | some f => respondSecure b c app cr before false f

def handleDataChunk (isOpn : Bool) (message : Bytes) : ConnM W A Unit :=
  match b.security, c.cryptoAdapter with
  | true, some cr => handleDataChunkSecure b c app cr isOpn message
  | _, _ => handleDataChunkPlaintext b c app isOpn message

def processHelloMessage (message : Bytes) : ConnM W A Unit := do
  match processHello c message with
  | .ok (h, tcp) =>
    modify fun s =>
      { (s.record (.hello s.conn.id h.receiveBufferSize)) with conn := { s.conn with tcp := tcp } }
    sendBufferChunk c .transport (ackMessage tcp)
  | .error _ => closeConnection c

def closeChannel : ConnM W A Unit := do
  let ch ← onWorld (secureChannelClose c.cryptoAdapter (← get).conn.channel)
  modify (Ctx.setChannel ch)

def processClose : ConnM W A Unit := do
  closeChannel c
  closeConnection c

def processMessage (message : Bytes) : ConnM W A Unit := do
  if !(← get).conn.tcp.established then processHelloMessage c message
  else match parseMessageHeader message with
    | .error e => if chunkType message = 67 then sendTcpErrorChunk c e.code
    | .ok .closeChannel => processClose c
    | .ok .openChannel => handleDataChunk b c app true message
    | .ok .message => handleDataChunk b c app false message
    | .ok _ => return ()

end

end MicroOpcua
