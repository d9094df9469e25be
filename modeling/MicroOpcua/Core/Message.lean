import MicroOpcua.Core.Config

namespace MicroOpcua

open Lib.LittleEndian

structure TcpConnection where
  established : Bool
  receiveBufferSize : UInt32
  sendBufferSize : UInt32
  maxMessageSize : UInt32
  maxChunkCount : UInt32
  protocolVersion : UInt32
deriving DecidableEq

def TcpConnection.init : TcpConnection := ⟨false, 0, 0, 0, 0, 0⟩

structure Hello where
  messageSize : Int
  protocolVersion : UInt32
  receiveBufferSize : UInt32
  sendBufferSize : UInt32
  maxMessageSize : UInt32
  maxChunkCount : UInt32
  endpointUrl : MuString

def readHello (length : Nat) : ReadM Hello := do
  skipBytes 4
  let messageSize ← readInt32
  if messageSize > int32 (UInt32.ofNat length) then throw .tcpMessageTooLarge
  let protocolVersion ← readUInt32
  let receiveBufferSize ← readUInt32
  let sendBufferSize ← readUInt32
  let maxMessageSize ← readUInt32
  let maxChunkCount ← readUInt32
  let endpointUrl ← readString
  return ⟨messageSize, protocolVersion, receiveBufferSize, sendBufferSize, maxMessageSize, maxChunkCount,
    endpointUrl⟩

/-- A limit of the client capped by the server's; 0 means no limit of the client. -/
def negotiateLimit (client server : UInt32) : UInt32 :=
  let n := if client < server then client else server
  if n = 0 then server else n

def negotiate {W : Type} (c : Config W) (h : Hello) : TcpConnection where
  established := true
  receiveBufferSize := min h.receiveBufferSize (UInt32.ofNat c.sendBufferSize)
  sendBufferSize := min h.sendBufferSize (UInt32.ofNat c.receiveBufferSize)
  maxMessageSize := negotiateLimit h.maxMessageSize c.maxMessageSize
  maxChunkCount := negotiateLimit h.maxChunkCount c.maxChunkCount
  protocolVersion := h.protocolVersion

def ackMessage (t : TcpConnection) : Bytes :=
  utf8 "ACKF" ++ put 4 28 ++ put 4 0 ++ put 4 t.sendBufferSize.toNat ++
    put 4 t.receiveBufferSize.toNat ++ put 4 t.maxMessageSize.toNat ++ put 4 t.maxChunkCount.toNat

def processHello {W : Type} (c : Config W) (message : Bytes) : Except Fault (Hello × TcpConnection) := do
  if message.length < 8 then throw .tcpMessageTooLarge
  if message.take 4 ≠ utf8 "HELF" then throw .tcpMessageTypeInvalid
  let h ← (readHello message.length).decode message
  if h.endpointUrl.size ≥ 4096 then throw .tcpEndpointUrlInvalid
  if h.receiveBufferSize.toNat < minChunkSize ∨ h.sendBufferSize.toNat < minChunkSize then
    throw .tcpNotEnoughResources
  if c.sendBufferSize < 28 then throw .internalError
  return (h, negotiate c h)

def createErrorMessage (code : StatusCode) (reason : Bytes) (cap : Nat) : Except Fault Bytes :=
  if cap < 16 + reason.length then .error .internalError
  else .ok (utf8 "ERRF" ++ put 4 (16 + reason.length) ++ put 4 code.toNat ++
    put 4 reason.length ++ reason)

inductive MessageType where
  | hello | acknowledge | error | openChannel | closeChannel | message
deriving DecidableEq

def MessageType.ofBytes (bs : Bytes) : Option MessageType :=
  if bs = utf8 "HEL" then some .hello
  else if bs = utf8 "ACK" then some .acknowledge
  else if bs = utf8 "ERR" then some .error
  else if bs = utf8 "OPN" then some .openChannel
  else if bs = utf8 "CLO" then some .closeChannel
  else if bs = utf8 "MSG" then some .message
  else none

def symmetricHeaderSize : Nat := 24
def asymmetricNoneHeaderSize : Nat := 79

def chunkType (message : Bytes) : UInt8 := message.getD 3 0

def parseAbort (message : Bytes) (type : MessageType) (size : Nat) : Except Fault MessageType := do
  if type = .openChannel then throw .tcpInternalError
  if size < symmetricHeaderSize + 4 then throw .tcpInternalError
  let m : ReadM UInt32 := do
    skipBytes symmetricHeaderSize
    readUInt32
  check (← m.decode message)
  throw .tcpInternalError

def parseMessageHeader (message : Bytes) : Except Fault MessageType := do
  if message.length < 8 then throw .tcpInternalError
  let some type := MessageType.ofBytes (message.take 3) | throw .tcpMessageTypeInvalid
  let chunk := chunkType message
  -- 'C', 'F' and 'A'
  if chunk ≠ 67 ∧ chunk ≠ 70 ∧ chunk ≠ 65 then throw .tcpMessageTypeInvalid
  let size := (u32At message 4).toNat
  if size < 8 then throw .tcpInternalError
  if size > message.length then throw .tcpMessageTooLarge
  if chunk = 67 then throw .tcpInternalError
  if type = .hello ∨ type = .acknowledge ∨ type = .error then return type
  if message.length < 12 ∨ size < 12 then throw .tcpInternalError
  if chunk = 65 then parseAbort message type size else return type

def finalizeSymmetric (channelId tokenId sequenceNumber requestId : UInt32) (body : Bytes) (cap : Nat) :
    Except Fault Bytes :=
  let total := symmetricHeaderSize + body.length
  if total > cap then .error .responseTooLarge
  else .ok (utf8 "MSGF" ++ put 4 total ++ put 4 channelId.toNat ++ put 4 tokenId.toNat ++
    put 4 sequenceNumber.toNat ++ put 4 requestId.toNat ++ body)

def finalizeAsymmetricNone (channelId sequenceNumber requestId : UInt32) (body : Bytes) (cap : Nat) :
    Except Fault Bytes :=
  let total := asymmetricNoneHeaderSize + body.length
  if total > cap then .error .responseTooLarge
  else .ok (utf8 "OPNF" ++ put 4 total ++ put 4 channelId.toNat ++
    put 4 SecurityPolicyId.noneUri.length ++ SecurityPolicyId.noneUri ++ put 4 0xFFFFFFFF ++
    put 4 0xFFFFFFFF ++ put 4 sequenceNumber.toNat ++
    put 4 requestId.toNat ++ body)

end MicroOpcua
