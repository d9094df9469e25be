import MicroOpcua.Lib.LittleEndian

namespace MicroOpcua

export Lib.LittleEndian (Bytes)

abbrev StatusCode := UInt32

def good : StatusCode := 0

/-- A status a function returns instead of a result: any code but `MU_STATUS_GOOD`. -/
structure Fault where
  code : StatusCode
  bad : code ≠ good
deriving DecidableEq

def check (s : StatusCode) : Except Fault Unit :=
  if h : s = good then .ok () else .error ⟨s, h⟩

namespace Fault

def internalError : Fault := ⟨0x80020000, by decide⟩
def outOfMemory : Fault := ⟨0x80030000, by decide⟩
def encodingError : Fault := ⟨0x80060000, by decide⟩
def decodingError : Fault := ⟨0x80070000, by decide⟩
def encodingLimitsExceeded : Fault := ⟨0x80080000, by decide⟩
def serviceUnsupported : Fault := ⟨0x800B0000, by decide⟩
def nothingToDo : Fault := ⟨0x800F0000, by decide⟩
def tooManyOperations : Fault := ⟨0x80100000, by decide⟩
def certificateInvalid : Fault := ⟨0x80120000, by decide⟩
def securityChecksFailed : Fault := ⟨0x80130000, by decide⟩
def identityTokenInvalid : Fault := ⟨0x80200000, by decide⟩
def identityTokenRejected : Fault := ⟨0x80210000, by decide⟩
def secureChannelIdInvalid : Fault := ⟨0x80220000, by decide⟩
def sessionIdInvalid : Fault := ⟨0x80250000, by decide⟩
def sessionNotActivated : Fault := ⟨0x80270000, by decide⟩
def subscriptionIdInvalid : Fault := ⟨0x80280000, by decide⟩
def timestampsToReturnInvalid : Fault := ⟨0x802A0000, by decide⟩
def nodeIdInvalid : Fault := ⟨0x80330000, by decide⟩
def nodeIdUnknown : Fault := ⟨0x80340000, by decide⟩
def attributeIdInvalid : Fault := ⟨0x80350000, by decide⟩
def notReadable : Fault := ⟨0x803A0000, by decide⟩
def notSupported : Fault := ⟨0x803D0000, by decide⟩
def monitoredItemIdInvalid : Fault := ⟨0x80420000, by decide⟩
def monitoredItemFilterInvalid : Fault := ⟨0x80430000, by decide⟩
def monitoredItemFilterUnsupported : Fault := ⟨0x80440000, by decide⟩
def filterNotAllowed : Fault := ⟨0x80450000, by decide⟩
def securityModeRejected : Fault := ⟨0x80540000, by decide⟩
def securityPolicyRejected : Fault := ⟨0x80550000, by decide⟩
def tooManySessions : Fault := ⟨0x80560000, by decide⟩
def argumentsMissing : Fault := ⟨0x80760000, by decide⟩
def tooManySubscriptions : Fault := ⟨0x80770000, by decide⟩
def tooManyPublishRequests : Fault := ⟨0x80780000, by decide⟩
def sequenceNumberUnknown : Fault := ⟨0x807A0000, by decide⟩
def messageNotAvailable : Fault := ⟨0x807B0000, by decide⟩
def tcpMessageTypeInvalid : Fault := ⟨0x807E0000, by decide⟩
def tcpMessageTooLarge : Fault := ⟨0x80800000, by decide⟩
def tcpNotEnoughResources : Fault := ⟨0x80810000, by decide⟩
def tcpInternalError : Fault := ⟨0x80820000, by decide⟩
def tcpEndpointUrlInvalid : Fault := ⟨0x80830000, by decide⟩
def noData : Fault := ⟨0x809B0000, by decide⟩
def invalidArgument : Fault := ⟨0x80AB0000, by decide⟩
def requestTooLarge : Fault := ⟨0x80B80000, by decide⟩
def responseTooLarge : Fault := ⟨0x80B90000, by decide⟩
def tooManyMonitoredItems : Fault := ⟨0x80DB0000, by decide⟩
def tooManyArguments : Fault := ⟨0x80E50000, by decide⟩

end Fault

def statusOf {α : Type} : Except Fault α → StatusCode
  | .ok _ => good
  | .error e => e.code

/-- `mu_string_t` and `mu_bytestring_t`; `none` is the null string (length -1). -/
abbrev MuString := Option Bytes

def MuString.size (s : MuString) : Nat := (s.getD []).length

inductive Identifier where
  | numeric (id : UInt32)
  | string (id : MuString)
deriving DecidableEq

/-- `mu_nodeid_t`. GUID and opaque identifiers are rejected by the decoder and never stored. -/
structure NodeId where
  namespaceIndex : UInt16
  identifier : Identifier
deriving DecidableEq

def NodeId.ns0 (id : UInt32) : NodeId := ⟨0, .numeric id⟩

def NodeId.ns0Numeric? : NodeId → Option UInt32
  | ⟨0, .numeric id⟩ => some id
  | _ => none

def utf8 (s : String) : Bytes := s.toList.map (fun c => UInt8.ofNat c.toNat)

end MicroOpcua
