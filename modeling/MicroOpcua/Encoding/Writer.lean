import MicroOpcua.Encoding.Reader

namespace MicroOpcua

open Lib.LittleEndian

/-- `mu_binary_writer_t` over a buffer of `cap` bytes. The bytes written never exceed the buffer,
so a response that exists fits by construction. -/
structure Writer (cap : Nat) where
  bytes : Bytes
  status : Option Fault
  fits : bytes.length ≤ cap

namespace Writer

variable {cap : Nat}

def init : Writer cap := ⟨[], none, by simp⟩

def position (w : Writer cap) : Nat := w.bytes.length

end Writer

abbrev WriteM (cap : Nat) := ExceptT Fault (StateM (Writer cap))

abbrev Encoded (cap : Nat) := { bs : Bytes // bs.length ≤ cap }

section

variable {cap : Nat}

def WriteM.encode (m : WriteM cap Unit) : Except Fault (Encoded cap) :=
  match m.run.run Writer.init with
  | (.ok (), w) => .ok ⟨w.bytes, w.fits⟩
  | (.error e, _) => .error e

def writerFail {α : Type} (e : Fault) : WriteM cap α := do
  modify (fun w => { w with status := some e })
  throw e

def writeBytes (bs : Bytes) : WriteM cap Unit := do
  let w ← get
  match w.status with
  | some e => throw e
  | none =>
    if h : w.bytes.length + bs.length ≤ cap then
      set (⟨w.bytes ++ bs, w.status, by simpa using h⟩ : Writer cap)
    else
      writerFail .encodingError

def writeByte (v : UInt8) : WriteM cap Unit := writeBytes [v]

def writeBoolean (v : Bool) : WriteM cap Unit := writeByte (if v then 1 else 0)

def writeUInt16 (v : UInt16) : WriteM cap Unit := writeBytes (put 2 v.toNat)

def writeUInt32 (v : UInt32) : WriteM cap Unit := writeBytes (put 4 v.toNat)

def writeUInt64 (v : UInt64) : WriteM cap Unit := writeBytes (put 8 v.toNat)

def writeInt32 (v : Int) : WriteM cap Unit := writeUInt32 (UInt32.ofInt v)

/-- `memcpy` into the buffer after a test that the bytes fit; the sticky status plays no part. -/
def writeRaw (tooLarge : Fault) (bs : Bytes) : WriteM cap Unit := do
  let w ← get
  if h : w.bytes.length + bs.length ≤ cap then
    set (⟨w.bytes ++ bs, w.status, by simpa using h⟩ : Writer cap)
  else
    throw tooLarge

/-- `mu_binary_write_string`. Its own failures are returned without tripping the sticky status,
and the space for the characters is checked only after the length field is written. -/
def writeString (s : MuString) : WriteM cap Unit := do
  match s with
  | none => writeInt32 (-1)
  | some bs =>
    if bs.length > maxEncodedStringLength then throw .encodingLimitsExceeded
    writeInt32 bs.length
    writeRaw .encodingError bs

def writeBytestring (s : MuString) : WriteM cap Unit := writeString s

def writeNodeId (n : NodeId) : WriteM cap Unit := do
  match n.identifier with
  | .numeric id =>
    if n.namespaceIndex = 0 ∧ id ≤ 255 then
      writeByte 0
      writeByte id.toUInt8
    else if n.namespaceIndex ≤ 255 ∧ id ≤ 65535 then
      writeByte 1
      writeByte n.namespaceIndex.toUInt8
      writeUInt16 id.toUInt16
    else
      writeByte 2
      writeUInt16 n.namespaceIndex
      writeUInt32 id
  | .string s =>
    writeByte 3
    writeUInt16 n.namespaceIndex
    writeString s

def writeExtensionObjectHeader (typeId : NodeId) (length : Nat) : WriteM cap Unit := do
  writeNodeId typeId
  if length = 0 then
    writeByte 0
  else
    writeByte 1
    writeInt32 length

def uncheckedWrite (m : WriteM cap Unit) : WriteM cap Unit :=
  tryCatch m (fun _ => return ())

def checkWriter : WriteM cap Unit := do
  match (← get).status with
  | some e => throw e
  | none => return

def overwrite (bytes : Bytes) (position : Nat) : Bytes → Bytes
  | [] => bytes
  | b :: bs => overwrite (bytes.set position b) (position + 1) bs

@[simp] theorem overwrite_length (bytes : Bytes) (position : Nat) (bs : Bytes) :
    (overwrite bytes position bs).length = bytes.length := by
  induction bs generalizing bytes position with
  | nil => rfl
  | cons b bs ih => rw [overwrite, ih, List.length_set]

def backpatchInt32 (position : Nat) (value : Int) : WriteM cap Unit :=
  modify fun w =>
    ⟨overwrite w.bytes position (put 4 (UInt32.ofInt value).toNat), w.status, by simpa using w.fits⟩

def writeEach {α : Type} (f : α → WriteM cap Unit) : List α → WriteM cap Unit
  | [] => return ()
  | a :: as => do
    f a
    writeEach f as

def responseHeaderEncode (requestHandle : UInt32) (serviceResult : StatusCode) : WriteM cap Unit := do
  writeUInt64 0
  writeUInt32 requestHandle
  writeUInt32 serviceResult
  writeByte 0
  writeInt32 (-1)
  writeExtensionObjectHeader (.ns0 0) 0

def writeResponsePrefix (responseTypeId requestHandle : UInt32) (serviceResult : StatusCode) :
    WriteM cap Unit := do
  writeNodeId (.ns0 responseTypeId)
  responseHeaderEncode requestHandle serviceResult

def serviceFaultId : UInt32 := 397

def writeServiceFault (requestHandle : UInt32) (serviceResult : StatusCode) : WriteM cap Unit :=
  writeResponsePrefix serviceFaultId requestHandle serviceResult

end

end MicroOpcua
