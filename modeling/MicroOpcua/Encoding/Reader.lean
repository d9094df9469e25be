import MicroOpcua.Encoding.Types
import MicroOpcua.Lib.StateRun

namespace MicroOpcua

open Lib.LittleEndian Lib.StateRun

/-- `mu_binary_reader_t`: the memory from the buffer pointer on, how much of it is the buffer, the
read position and the sticky first failure. -/
structure Reader where
  buffer : Bytes
  length : Nat
  position : Nat
  status : Option Fault

namespace Reader

def init (buffer : Bytes) : Reader := ⟨buffer, buffer.length, 0, none⟩

def here (r : Reader) : Bytes := r.buffer.drop r.position

def remaining (r : Reader) : Bytes := r.here.take (r.length - r.position)

end Reader

abbrev ReadM := ExceptT Fault (StateM Reader)

def ReadM.decode {α : Type} (m : ReadM α) (buffer : Bytes) : Except Fault α :=
  (m.run.run (Reader.init buffer)).1

theorem ReadM.decode_eq_ok {α : Type} {m : ReadM α} {buffer : Bytes} {a : α} :
    m.decode buffer = .ok a ↔ ∃ r, m.run.run (.init buffer) = (.ok a, r) :=
  ⟨fun h => ⟨_, returns_of_fst h⟩, fun ⟨_, h⟩ => by rw [ReadM.decode, h]⟩

def readerFail {α : Type} (e : Fault) : ReadM α := do
  modify (fun r => { r with status := some e })
  throw e

def readBytes (count : Nat) : ReadM Bytes := do
  let r ← get
  match r.status with
  | some e => throw e
  | none =>
    if r.position ≤ r.length ∧ count ≤ r.length - r.position then
      set { r with position := r.position + count }
      return r.here.take count
    else
      readerFail .decodingError

def readByte : ReadM UInt8 := do
  return UInt8.ofNat (Lib.LittleEndian.get (← readBytes 1))

def readBoolean : ReadM Bool := do
  return (← readByte) ≠ 0

def readUInt16 : ReadM UInt16 := do
  return UInt16.ofNat (Lib.LittleEndian.get (← readBytes 2))

def readUInt32 : ReadM UInt32 := do
  return UInt32.ofNat (Lib.LittleEndian.get (← readBytes 4))

def readUInt64 : ReadM UInt64 := do
  return UInt64.ofNat (Lib.LittleEndian.get (← readBytes 8))

def int32 (u : UInt32) : Int := u.toBitVec.toInt

def readInt32 : ReadM Int := do
  return int32 (← readUInt32)

def readArrayLength : ReadM Int := do
  let n ← readInt32
  if n < -1 then readerFail .decodingError
  return n

def maxEncodedStringLength : Nat := 4096

/-- `mu_binary_read_string`. A bad length is returned without tripping the sticky status. -/
def readString : ReadM MuString := do
  let n ← readInt32
  if n = -1 then return none
  if n < 0 then throw .decodingError
  if n > maxEncodedStringLength then throw .encodingLimitsExceeded
  let r ← get
  if n.toNat > r.length - r.position then readerFail .decodingError
  set { r with position := r.position + n.toNat }
  return some (r.here.take n.toNat)

def readBytestring : ReadM MuString := readString

def readNodeId : ReadM NodeId := do
  let mask ← readByte
  if mask &&& 0x0F = 0 then
    return ⟨0, .numeric (← readByte).toUInt32⟩
  else if mask &&& 0x0F = 1 then
    let ns ← readByte
    return ⟨ns.toUInt16, .numeric (← readUInt16).toUInt32⟩
  else if mask &&& 0x0F = 2 then
    let ns ← readUInt16
    return ⟨ns, .numeric (← readUInt32)⟩
  else if mask &&& 0x0F = 3 then
    let ns ← readUInt16
    return ⟨ns, .string (← readString)⟩
  else
    throw .decodingError

structure ExpandedNodeId where
  nodeId : NodeId
  namespaceUri : MuString
  serverIndex : UInt32

def readExpandedNodeId : ReadM ExpandedNodeId := do
  let r ← get
  if r.position ≥ r.length then throw .decodingError
  let mask := r.here.headD 0
  let nodeId ← readNodeId
  let namespaceUri ← if mask &&& 0x80 ≠ 0 then readString else pure none
  let serverIndex ← if mask &&& 0x40 ≠ 0 then readUInt32 else pure 0
  return ⟨nodeId, namespaceUri, serverIndex⟩

def readQualifiedName : ReadM (UInt16 × MuString) := do
  let ns ← readUInt16
  return (ns, ← readString)

def readExtensionObjectHeader : ReadM (NodeId × Nat) := do
  let typeId ← readNodeId
  let mask ← readByte
  if mask = 0 then return (typeId, 0)
  if mask = 1 ∨ mask = 2 then
    let len ← readInt32
    if len < 0 then throw .decodingError
    return (typeId, len.toNat)
  throw .decodingError

def ensureBytesRemaining (count : Nat) : ReadM Unit := do
  let r ← get
  if count > 0 ∧ (r.position > r.length ∨ count > r.length - r.position) then throw .decodingError

def skipBytes (count : Nat) : ReadM Unit :=
  modify (fun r => { r with position := r.position + count })

def skipExtensionObjectBody (len : Nat) : ReadM Unit := do
  ensureBytesRemaining len
  skipBytes len

def endExtensionObjectBody {α : Type} (length : Nat) : Except Fault α × Reader → ReadM α
  | (.error e, _) => readerFail e
  | (.ok a, body) =>
    match body.status with
    | some e => readerFail e
    | none => do
      if body.position ≠ length then readerFail .decodingError
      skipBytes length
      return a

def readExtensionObjectBody {α : Type} (length : Nat) (decoder : ReadM α) : ReadM α := do
  let r ← get
  match r.status with
  | some e => throw e
  | none =>
    if r.position > r.length ∨ length > r.length - r.position then readerFail .decodingError
    else endExtensionObjectBody length (decoder.run.run ⟨r.here, length, 0, none⟩)

def skipExtensionObject : ReadM Unit := do
  let (_, len) ← readExtensionObjectHeader
  let r ← get
  if r.position > r.length ∨ len > r.length - r.position then readerFail .decodingError
  skipBytes len

def readWithin {α : Type} (len : Nat) (m : ReadM α) : ReadM α := do
  let r ← get
  match m.decode (r.remaining.take len) with
  | .error e => throw e
  | .ok a => skipBytes len; return a

/-- A read whose returned status the caller ignores: it goes on with the initial value and
finds the failure, if it was recorded, in the reader's sticky status. -/
def unchecked {α : Type} (initial : α) (m : ReadM α) : ReadM α :=
  tryCatch m (fun _ => return initial)

def checkReader : ReadM Unit := do
  match (← get).status with
  | some e => throw e
  | none => return

def ensureArrayItemsMinRemaining (count : Int) (minItemSize : Nat) : ReadM Unit := do
  if count < -1 then throw .decodingError
  if count > 0 then
    let r ← get
    if r.position > r.length then throw .decodingError
    if count.toNat > (r.length - r.position) / minItemSize then throw .decodingError

def readEach {α : Type} (m : ReadM α) : Nat → ReadM (List α)
  | 0 => return []
  | n + 1 => do
    let a ← m
    return a :: (← readEach m n)

structure RequestHeader where
  authenticationToken : NodeId
  timestamp : UInt64
  requestHandle : UInt32
  returnDiagnostics : UInt32
  auditEntryId : MuString
  timeoutHint : UInt32

def requestHeaderDecode : ReadM RequestHeader := do
  let authenticationToken ← readNodeId
  let timestamp ← readUInt64
  let requestHandle ← readUInt32
  let returnDiagnostics ← readUInt32
  let auditEntryId ← readString
  let timeoutHint ← readUInt32
  skipExtensionObject
  return ⟨authenticationToken, timestamp, requestHandle, returnDiagnostics, auditEntryId, timeoutHint⟩

def readAuthTokenFromRequest (requestBody : Bytes) : UInt32 :=
  match readNodeId.decode requestBody with
  | .ok token => token.ns0Numeric?.getD 0
  | .error _ => 0

end MicroOpcua
