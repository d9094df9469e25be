import MicroOpcua.Core.Config

namespace MicroOpcua

abbrev SequenceValidator := Option UInt32

def sequenceValidate (v : SequenceValidator) (n : UInt32) : Except Fault SequenceValidator :=
  match v with
  | none => .ok (some n)
  | some last =>
    if n = last + 1 then .ok (some n)
    else if last > 4294966271 ∧ n < 1024 then .ok (some n)
    else .error .securityChecksFailed

structure SecureChannel where
  channelId : UInt32
  tokenId : UInt32
  revisedLifetime : UInt32
  sequence : SequenceValidator
  outSequenceNumber : UInt32
  isOpen : Bool
  policy : SecurityPolicyId
  mode : MessageSecurityMode
  clientKeys : SymKeys
  serverKeys : SymKeys
  keysValid : Bool
deriving DecidableEq

def SecureChannel.init : SecureChannel where
  channelId := 0
  tokenId := 0
  revisedLifetime := 0
  sequence := none
  outSequenceNumber := 0
  isOpen := false
  policy := .none
  mode := .none
  clientKeys := .zero
  serverKeys := .zero
  keysValid := false

def requestedPolicyId (security : Bool) (securityPolicy : MuString) : SecurityPolicyId :=
  SecurityPolicyId.fromUri security (securityPolicy.getD [])

def secureChannelOpenCheck (security : Bool) (policy : SecurityPolicyId) (securityPolicy : MuString)
    (mode : MessageSecurityMode) : Except Fault Unit := do
  let requested := requestedPolicyId security securityPolicy
  if requested = .invalid then throw .securityPolicyRejected
  if mode = .invalid then throw .securityModeRejected
  if policy = .none then
    if requested ≠ .none then throw .securityPolicyRejected
    if mode ≠ .none then throw .securityModeRejected
  else if security ∧ policy ≠ .invalid then
    if requested ≠ policy then throw .securityPolicyRejected
    if mode = .none then throw .securityModeRejected
  else
    throw .securityPolicyRejected

def clampLifetime (requested : UInt32) : UInt32 :=
  if requested < 10000 then 10000 else if requested > 3600000 then 3600000 else requested

/-- The update of `mu_secure_channel_open` once its checks passed: issue or renew. Every channel
that is issued gets channel id 1. -/
def SecureChannel.opened (ch : SecureChannel) (mode : MessageSecurityMode) (requestedLifetime : UInt32) :
    SecureChannel :=
  { ch with
    channelId := if ch.isOpen then ch.channelId else 1
    tokenId := if ch.isOpen then ch.tokenId + 1 else 1
    isOpen := true
    revisedLifetime := clampLifetime requestedLifetime
    mode := mode }

def secureChannelOpen (security : Bool) (ch : SecureChannel) (securityPolicy : MuString)
    (mode : MessageSecurityMode) (requestedLifetime : UInt32) : Except Fault SecureChannel := do
  secureChannelOpenCheck security ch.policy securityPolicy mode
  return ch.opened mode requestedLifetime

variable {W : Type}

def releaseCipher (crypto : Option (CryptoAdapter W)) (keys : SymKeys) : StateM W Unit :=
  match crypto with
  | some cr => discard (symKeysReleaseCipher cr keys)
  | none => pure ()

def secureChannelClose (crypto : Option (CryptoAdapter W)) (ch : SecureChannel) :
    StateM W SecureChannel := do
  if ch.isOpen then
    releaseCipher crypto ch.clientKeys
    releaseCipher crypto ch.serverKeys
    return .init
  else
    return ch

end MicroOpcua
