import MicroOpcua.Encoding.Writer

namespace MicroOpcua

/-- A built-in value with its type tag. Signed integers and floating-point numbers are kept as
their bit patterns; the tags no codec supports carry no value. -/
inductive Scalar where
  | null
  | boolean (v : Bool)
  | sbyte (v : UInt8)
  | byte (v : UInt8)
  | int16 (v : UInt16)
  | uint16 (v : UInt16)
  | int32 (v : UInt32)
  | uint32 (v : UInt32)
  | int64 (v : UInt64)
  | uint64 (v : UInt64)
  | float (v : UInt32)
  | double (v : UInt64)
  | string (v : MuString)
  | dateTime (v : UInt64)
  | byteString (v : MuString)
  | nodeId (v : NodeId)
  | statusCode (v : StatusCode)
  | qualifiedName (namespaceIndex : UInt16) (name : MuString)
  | localizedText (locale text : MuString)
  | unsupported (tag : UInt8)
deriving DecidableEq

def Scalar.type : Scalar → UInt8
  | .null => 0
  | .boolean _ => 1
  | .sbyte _ => 2
  | .byte _ => 3
  | .int16 _ => 4
  | .uint16 _ => 5
  | .int32 _ => 6
  | .uint32 _ => 7
  | .int64 _ => 8
  | .uint64 _ => 9
  | .float _ => 10
  | .double _ => 11
  | .string _ => 12
  | .dateTime _ => 13
  | .byteString _ => 15
  | .nodeId _ => 17
  | .statusCode _ => 19
  | .qualifiedName _ _ => 20
  | .localizedText _ _ => 21
  | .unsupported tag => tag

/-- `mu_variant_t`: a scalar, or an array with its declared length and, unless the element pointer
is NULL, its elements. -/
inductive Variant where
  | scalar (v : Scalar)
  | array (type : UInt8) (length : Int) (elements : Option (List Scalar))
deriving DecidableEq

def Variant.null : Variant := .scalar .null

structure DataValue where
  value : Option Variant
  status : Option StatusCode
  sourceTimestamp : Option UInt64
  serverTimestamp : Option UInt64
deriving DecidableEq

section Write

variable {cap : Nat}

def writeScalarValue : Scalar → WriteM cap Unit
  | .boolean v => writeBoolean v
  | .sbyte v | .byte v => writeByte v
  | .int16 v | .uint16 v => writeUInt16 v
  | .int32 v | .uint32 v | .float v => writeUInt32 v
  | .int64 v | .uint64 v | .double v | .dateTime v => writeUInt64 v
  | .string v | .byteString v => writeString v
  | .nodeId v => writeNodeId v
  | .statusCode v => writeUInt32 v
  | .qualifiedName ns name => do
    writeUInt16 ns
    writeString name
  | .localizedText locale text => do
    writeByte ((if locale.isSome then 1 else 0) ||| (if text.isSome then 2 else 0))
    if locale.isSome then writeString locale
    if text.isSome then writeString text
  | .null | .unsupported _ => throw .encodingError

def arrayElementType (type : UInt8) : Bool :=
  type ∈ [1, 2, 3, 4, 5, 6, 7, 8, 9, 10, 11, 12, 13, 15, 17, 19, 20, 21]

def writeVariant : Variant → WriteM cap Unit
  | .scalar v => do
    writeByte v.type
    if v.type ≠ 0 then writeScalarValue v
  | .array type length elements => do
    writeByte (type ||| 0x80)
    if type ≠ 0 then
      writeInt32 length
      match elements with
      | none => pure ()
      | some es =>
        if length ≥ 0 then
          if ¬ arrayElementType type then throw .encodingError
          writeEach writeScalarValue (es.take length.toNat)

def DataValue.mask (v : DataValue) : UInt8 :=
  (if v.value.isSome then 1 else 0) ||| (if v.status.isSome then 2 else 0) |||
    (if v.sourceTimestamp.isSome then 4 else 0) ||| (if v.serverTimestamp.isSome then 8 else 0)

def writeOptional {α : Type} (write : α → WriteM cap Unit) : Option α → WriteM cap Unit
  | none => return ()
  | some a => write a

def DataValue.write (v : DataValue) : WriteM cap Unit := do
  writeByte v.mask
  writeOptional writeVariant v.value
  writeOptional writeUInt32 v.status
  writeOptional writeUInt64 v.sourceTimestamp
  writeOptional writeUInt64 v.serverTimestamp

def writeDataValue (value : Variant) (status : StatusCode) : WriteM cap Unit := do
  writeByte (if status = good then 1 else 3)
  writeVariant value
  if status ≠ good then writeUInt32 status

end Write

def readScalarValue (type : UInt8) : ReadM Scalar := do
  match type.toNat with
  | 0 => return .null
  | 1 => return .boolean (← readBoolean)
  | 2 => return .sbyte (← readByte)
  | 3 => return .byte (← readByte)
  | 4 => return .int16 (← readUInt16)
  | 5 => return .uint16 (← readUInt16)
  | 6 => return .int32 (← readUInt32)
  | 7 => return .uint32 (← readUInt32)
  | 8 => return .int64 (← readUInt64)
  | 9 => return .uint64 (← readUInt64)
  | 10 => return .float (← readUInt32)
  | 11 => return .double (← readUInt64)
  | 12 => return .string (← readString)
  | 13 => return .dateTime (← readUInt64)
  | 15 => return .byteString (← readBytestring)
  | 17 => return .nodeId (← readNodeId)
  | 19 => return .statusCode (← readUInt32)
  | 20 =>
    let ns ← readUInt16
    return .qualifiedName ns (← readString)
  | 21 =>
    let mask ← readByte
    let locale ← if mask &&& 1 ≠ 0 then readString else pure none
    let text ← if mask &&& 2 ≠ 0 then readString else pure none
    return .localizedText locale text
  | _ => throw .decodingError

/-- `mu_binary_read_variant` into an output whose `is_array` flag is clear. -/
def readVariant : ReadM Scalar := do
  let mask ← readByte
  if mask &&& 0xC0 ≠ 0 then throw .decodingError
  readScalarValue (mask &&& 0x3F)

def readOptional {α : Type} (present : Bool) (read : ReadM α) : ReadM (Option α) := do
  if present then return some (← read) else return none

def readDataValue : ReadM DataValue := do
  let mask ← readByte
  let value ← readOptional (mask &&& 0x01 ≠ 0) readVariant
  let status ← readOptional (mask &&& 0x02 ≠ 0) readUInt32
  let sourceTimestamp ← readOptional (mask &&& 0x04 ≠ 0) readUInt64
  let _ ← readOptional (mask &&& 0x10 ≠ 0) readUInt16
  let serverTimestamp ← readOptional (mask &&& 0x08 ≠ 0) readUInt64
  let _ ← readOptional (mask &&& 0x20 ≠ 0) readUInt16
  return ⟨value.map .scalar, status, sourceTimestamp, serverTimestamp⟩

end MicroOpcua
