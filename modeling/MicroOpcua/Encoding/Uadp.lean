import MicroOpcua.Encoding.Variant

namespace MicroOpcua

open Lib.LittleEndian

/-- `mu_pubsub_field_t`: a Variant. Besides those of `Variant`, a caller can hand over scalars with a
string of a length below -1. -/
inductive PubSubField where
  | variant (v : Variant)
  /-- A String or ByteString of such a length. -/
  | negativeString (type : UInt8)
  /-- A NodeId with such a string for its identifier. -/
  | negativeNodeId (namespaceIndex : UInt16)
  | negativeQualifiedName (namespaceIndex : UInt16)
  /-- A LocalizedText; `none` is a member of such a length. -/
  | negativeLocalizedText (locale text : Option MuString)
deriving DecidableEq

def PubSubField.isArray : PubSubField → Bool
  | .variant (.array ..) => true
  | _ => false

structure PubSubConnection where
  publisherId : UInt32

structure DataSetWriter where
  dataSetWriterId : UInt16
  fields : List PubSubField

section Encode

variable {cap : Nat}

def PubSubField.write : PubSubField → WriteM cap Unit
  | .variant v => writeVariant v
  | .negativeString type => do
    writeByte type
    throw .encodingError
  | .negativeNodeId ns => do
    writeByte 17
    writeByte 3
    writeUInt16 ns
    throw .encodingError
  | .negativeQualifiedName ns => do
    writeByte 20
    writeUInt16 ns
    throw .encodingError
  | .negativeLocalizedText locale text =>
    writeVariant (.scalar (.localizedText (locale.getD none) (text.getD none)))

def patchU16 (offset : Nat) (value : UInt16) : WriteM cap Unit :=
  modify fun w => ⟨overwrite w.bytes offset (put 2 value.toNat), w.status, by simpa using w.fits⟩

def uadpNetworkFlags : UInt8 := 0xD1

def uadpPublisherIdUInt32 : UInt8 := 0x02

def uadpDataSetFlags : UInt8 := 0x01

def writeUadpHeader (publisherId : UInt32) (dataSetWriterId : UInt16) : WriteM cap Unit := do
  uncheckedWrite (writeByte uadpNetworkFlags)
  uncheckedWrite (writeByte uadpPublisherIdUInt32)
  uncheckedWrite (writeUInt32 publisherId)
  uncheckedWrite (writeByte 1)
  uncheckedWrite (writeUInt16 dataSetWriterId)

/-- The part of `mu_encode_uadp_network_message` that writes. The results of the field encoders are not
looked at either: only the sticky status decides. -/
def writeUadpNetworkMessage (conn : PubSubConnection) (writer : DataSetWriter) : WriteM cap Unit := do
  writeUadpHeader conn.publisherId writer.dataSetWriterId
  let messageSizeOffset := (← get).position
  uncheckedWrite (writeUInt16 0)
  let messageStart := (← get).position
  uncheckedWrite (writeByte uadpDataSetFlags)
  writeEach (fun f => uncheckedWrite f.write) writer.fields
  checkWriter
  let messageSize := (← get).position - messageStart
  if messageSize > 0xFFFF then throw .encodingLimitsExceeded
  patchU16 messageSizeOffset (UInt16.ofNat messageSize)

end Encode

def encodeUadpNetworkMessage (maxFields : Nat) (conn : PubSubConnection) (writer : DataSetWriter)
    (bufferSize : Nat) : Except Fault (Encoded bufferSize) := do
  if writer.fields.length > maxFields then throw .tooManyOperations
  if writer.fields.any PubSubField.isArray then throw .notSupported
  (writeUadpNetworkMessage conn writer).encode

structure ReceivedMessage where
  publisherId : UInt32
  dataSetWriterId : UInt16
  fields : List Scalar
deriving DecidableEq

def uadpVariantEncodingIsUnsupported (mask : UInt8) : Bool :=
  mask &&& 0xC0 ≠ 0 ∨ mask &&& 0x3F ∈ [14, 16, 18, 22, 23, 24, 25]

def orDecodingError {α : Type} (m : ReadM α) : ReadM α := tryCatch m (fun _ => throw .decodingError)

def readUadpFields : (room : Nat) → ReadM (List Scalar)
  | 0 => do
    let r ← get
    if r.position < r.length then throw .tooManyOperations
    return []
  | room + 1 => do
    let r ← get
    if r.position < r.length then
      if uadpVariantEncodingIsUnsupported (r.here.headD 0) then throw .notSupported
      let v ← orDecodingError readVariant
      return v :: (← readUadpFields room)
    else return []

def readDataSetMessage (room : Nat) : ReadM (List Scalar) := do
  let flags ← orDecodingError readByte
  if flags ≠ uadpDataSetFlags then throw .notSupported
  let fields ← readUadpFields room
  let r ← get
  if r.position ≠ r.length then throw .decodingError
  return fields

def readUadpNetworkMessage (maxFields capacity : Nat) : ReadM ReceivedMessage := do
  let flags ← orDecodingError readByte
  if flags ≠ uadpNetworkFlags then throw .notSupported
  let extendedFlags1 ← orDecodingError readByte
  if extendedFlags1 &&& 0x10 ≠ 0 then throw .notSupported
  if extendedFlags1 ≠ uadpPublisherIdUInt32 then throw .notSupported
  let publisherId ← orDecodingError readUInt32
  let payloadCount ← orDecodingError readByte
  if payloadCount ≠ 1 then throw .notSupported
  let dataSetWriterId ← orDecodingError readUInt16
  let messageSize ← orDecodingError readUInt16
  let r ← get
  if messageSize.toNat ≠ r.length - r.position then throw .decodingError
  skipBytes messageSize.toNat
  match (readDataSetMessage (min capacity maxFields)).run.run ⟨r.here, messageSize.toNat, 0, none⟩ with
  | (.error e, _) => throw e
  | (.ok fields, _) =>
    let r ← get
    if r.position ≠ r.length then throw .decodingError
    return ⟨publisherId, dataSetWriterId, fields⟩

def decodeUadpNetworkMessage (maxFields capacity : Nat) (buffer : Bytes) :
    Except Fault ReceivedMessage :=
  (readUadpNetworkMessage maxFields capacity).decode buffer

end MicroOpcua
