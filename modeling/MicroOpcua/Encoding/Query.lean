import MicroOpcua.Encoding.Variant

namespace MicroOpcua

inductive FilterOperand where
  | element (index : UInt32)
  | literal (value : Scalar)

structure ContentFilterElement where
  filterOperator : UInt32
  filterOperands : List FilterOperand

/-- `identifier.numeric` of a NodeId: for a string identifier the union holds the string's length
there. -/
def NodeId.numericMember (n : NodeId) : UInt32 :=
  match n.identifier with
  | .numeric id => id
  | .string none => 0xFFFFFFFF
  | .string (some bs) => UInt32.ofNat bs.length

def queryRequireMinCountedBytes (count : UInt32) (minElementBytes : Nat) : ReadM Unit := do
  let r ← get
  match r.status with
  | some e => throw e
  | none =>
    if r.position > r.length then readerFail .decodingError
    if minElementBytes ≠ 0 ∧ count.toNat > (r.length - r.position) / minElementBytes then
      readerFail .decodingError

def elementOperandId : UInt32 := 594
def literalOperandId : UInt32 := 597

def readFilterOperand : ReadM FilterOperand := do
  let (typeId, len) ← readExtensionObjectHeader
  if typeId.numericMember = elementOperandId then
    return .element (← readUInt32)
  else if typeId.numericMember = literalOperandId then
    return .literal (← readVariant)
  else if len > 0 then
    let r ← get
    if len > r.length - r.position then throw .decodingError
    skipBytes len
    return .element 0
  else throw .notSupported

def readFilterOperands (maxOperands operandIndex : Nat) : ReadM (List FilterOperand) := do
  let count ← readUInt32
  if count = 0 ∨ count = 0xFFFFFFFF then return []
  queryRequireMinCountedBytes count 3
  if operandIndex + count.toNat > maxOperands then readerFail .tooManyOperations
  readEach readFilterOperand count.toNat

def readFilterElements (maxOperands : Nat) :
    (count operandIndex : Nat) → ReadM (List ContentFilterElement)
  | 0, _ => return []
  | n + 1, operandIndex => do
    let filterOperator ← readUInt32
    let operands ← readFilterOperands maxOperands operandIndex
    return ⟨filterOperator, operands⟩ ::
      (← readFilterElements maxOperands n (operandIndex + operands.length))

def contentFilterDecode (maxElements maxOperands : Nat) : ReadM (List ContentFilterElement) := do
  let count ← readUInt32
  if count = 0 ∨ count = 0xFFFFFFFF then return []
  queryRequireMinCountedBytes count 8
  if count.toNat > maxElements then readerFail .tooManyOperations
  readFilterElements maxOperands count.toNat 0

end MicroOpcua
