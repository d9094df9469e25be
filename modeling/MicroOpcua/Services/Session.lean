import MicroOpcua.Services.SecureChannel

namespace MicroOpcua

open Lib.LittleEndian

inductive SessionState where
  | closed
  | created
  | activated
deriving DecidableEq

/-- An accepted TCP connection: its slot and how many connections the slot had before it. -/
@[ext] structure ConnId where
  slot : Nat
  epoch : Nat
deriving DecidableEq

/-- `mu_session_t`. The last field is not in the source: it records, for the specification only,
the connection whose channel created the session; no function of the model reads it. -/
structure Session where
  state : SessionState
  sessionId : UInt32
  authToken : UInt32
  revisedSessionTimeoutMs : UInt32
  serverNonce : Bytes
  secureChannelId : UInt32
  creator : Option ConnId
deriving DecidableEq

def Session.init : Session where
  state := .closed
  sessionId := 0
  authToken := 0
  revisedSessionTimeoutMs := 0
  serverNonce := List.replicate 32 0
  secureChannelId := 0
  creator := none

def Session.open (s : Session) : Bool := s.state ≠ .closed

def sessionFindByToken (sessions : List Session) (token : UInt32) : Option Nat :=
  sessions.findIdx? (fun s => s.open && s.authToken = token)

def sessionFindFree (sessions : List Session) : Option Nat :=
  sessions.findIdx? (fun s => !s.open)

def sessionIdActive (sessions : List Session) (id : UInt32) : Bool :=
  sessions.any (fun s => s.open && s.sessionId = id)

def authenticationTokenActive (sessions : List Session) (token : UInt32) : Bool :=
  sessions.any (fun s => s.open && s.authToken = token)

def sessionTimeoutMinBits : UInt64 := 0x40c3880000000000
def sessionTimeoutMaxBits : UInt64 := 0x414b774000000000

def clampTimeoutBits (bits : UInt64) : UInt64 :=
  if bits &&& 0x8000000000000000 ≠ 0 then sessionTimeoutMinBits
  else if bits < sessionTimeoutMinBits then sessionTimeoutMinBits
  else if bits > sessionTimeoutMaxBits then sessionTimeoutMaxBits
  else bits

/-- `duration_bits_to_ms`, with the unbiased exponent in 32-bit arithmetic. -/
def durationBitsToMs (bits : UInt64) : UInt32 :=
  let exponent := ((bits >>> 52) &&& 0x7FF).toUInt32
  let mantissa := ((1 : UInt64) <<< (52 : UInt64)) ||| (bits &&& 0x000FFFFFFFFFFFFF)
  let unbiased := exponent - 1023
  if unbiased ≥ 52 then (mantissa <<< (unbiased - 52).toUInt64).toUInt32
  else (mantissa >>> (52 - unbiased).toUInt64).toUInt32

def firstCandidate (candidate : UInt32 → UInt32) (active : UInt32 → Bool) (count : Nat) :
    Option UInt32 :=
  ((List.range (count + 1)).map (fun salt => candidate (UInt32.ofNat salt))).find? (fun c => !active c)

def sessionIdCandidate (base salt : UInt32) : UInt32 :=
  let c := base ^^^ (0x9E3779B9 * salt)
  if c = 0 then 0x85EBCA6B ^^^ salt else c

def authTokenCandidate (base salt : UInt32) : UInt32 :=
  let c := (base ^^^ 0xA5A5A5A5) + 0x9E3779B9 * salt
  if c = 0 then 0xC2B2AE35 ^^^ salt else c

variable {W : Type}

def generateIdentifier (p : Platform W) (candidate : UInt32 → UInt32 → UInt32) (active : UInt32 → Bool)
    (count : Nat) : AdapterM W UInt32 := do
  let random ← (p.generateRandom 4).orElseFail .securityChecksFailed
  match firstCandidate (candidate (UInt32.ofNat (Lib.LittleEndian.get random.1))) active count with
  | some c => return c
  | none => throw .securityChecksFailed

def generateSessionId (p : Platform W) (sessions : List Session) : AdapterM W UInt32 :=
  generateIdentifier p sessionIdCandidate (sessionIdActive sessions) sessions.length

def generateAuthenticationToken (p : Platform W) (sessions : List Session) : AdapterM W UInt32 :=
  generateIdentifier p authTokenCandidate (authenticationTokenActive sessions) sessions.length

def serverNonceLength : Nat := 32

def generateServerNonce (p : Platform W) : AdapterM W (Block serverNonceLength) :=
  (p.generateRandom serverNonceLength).orElseFail .securityChecksFailed

/-- `mu_session_create_with_identifiers`. The channel id is kept only in a MULTIPLE_CONNECTIONS
build. -/
def sessionCreateWithIdentifiers (b : Build) (s : Session) (timeoutBits : UInt64)
    (sessionId authToken channelId : UInt32) (creator : ConnId) : Except Fault Session := do
  if s.state ≠ .closed then throw .internalError
  return { s with
    state := .created
    sessionId := sessionId
    authToken := authToken
    revisedSessionTimeoutMs := durationBitsToMs (clampTimeoutBits timeoutBits)
    secureChannelId := if b.multipleConnections then channelId else s.secureChannelId
    creator := some creator }

def sessionValidateSecureChannel (b : Build) (s : Session) (channelId : UInt32) : Except Fault Unit :=
  if b.multipleConnections ∧ s.secureChannelId ≠ channelId then
    .error .secureChannelIdInvalid else .ok ()

def identityAnonymous : UInt32 := 321
def identityUserName : UInt32 := 324
def identityCertificate : UInt32 := 327

def sessionActivate (s : Session) (token identity : UInt32) : Except Fault Session := do
  if s.state ≠ .created ∧ s.state ≠ .activated then throw .sessionIdInvalid
  if s.authToken ≠ token then throw .sessionIdInvalid
  if identity ≠ identityAnonymous ∧ identity ≠ identityUserName ∧ identity ≠ identityCertificate then
    throw .identityTokenInvalid
  return { s with state := .activated }

def sessionClose (s : Session) (token : UInt32) : Except Fault Session := do
  if s.state = .closed then throw .sessionIdInvalid
  if s.authToken ≠ token then throw .sessionIdInvalid
  return .init

end MicroOpcua
