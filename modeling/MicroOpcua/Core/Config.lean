import MicroOpcua.Security.AsymChunk

namespace MicroOpcua

/-- IEEE double arithmetic of the target, on bit patterns; a build without STANDARD subscriptions
never uses it. -/
structure DoubleOps where
  ofInt : Int → UInt64
  ofFloat : UInt32 → UInt64
  add : UInt64 → UInt64 → UInt64
  sub : UInt64 → UInt64 → UInt64
  div : UInt64 → UInt64 → UInt64
  abs : UInt64 → UInt64
  lt : UInt64 → UInt64 → Bool
  le : UInt64 → UInt64 → Bool

def minChunkSize : Nat := 8192

/-- The compile-time options and capacities of a build (`config.h`, `features.h`). The tables of
sessions, subscriptions and monitored items, the last with a queue in each entry, are objects of a 32-bit
target whose entries take more than two bytes, and the queue array is not empty; `config.h` rejects a
smaller receive buffer of a connection. -/
structure Build where
  multipleConnections : Bool
  security : Bool
  userAuth : Bool
  subscriptions : Bool
  subscriptionsStandard : Bool
  events : Bool
  serviceDiscovery : Bool
  serviceRead : Bool
  serviceRegisterNodes : Bool
  serviceBrowse : Bool
  serviceQuery : Bool
  serviceWrite : Bool
  serviceHistory : Bool
  callEnabled : Bool
  serviceNodeManagement : Bool
  maxConnections : Nat
  maxSessions : Nat
  connectionRxBufferSize : Nat
  maxClientCertSize : Nat
  maxSubscriptions : Nat
  maxMonitoredItems : Nat
  maxPublishRequests : Nat
  maxPublishAcks : Nat
  maxMonitoredString : Nat
  maxTriggerLinks : Nat
  monitoredQueueDepth : Nat
  retransmitBytes : Nat
  minPublishingIntervalMs : UInt32
  maxPublishingIntervalMs : UInt32
  double : DoubleOps
  maxSessions_lt : maxSessions < 2 ^ 31
  maxSubscriptions_lt : maxSubscriptions < 2 ^ 31
  maxMonitoredItems_lt : maxMonitoredItems * (monitoredQueueDepth + 1) < 2 ^ 31
  monitoredQueueDepth_pos : 0 < monitoredQueueDepth
  connectionRxBufferSize_ge : minChunkSize ≤ connectionRxBufferSize

abbrev Handle := Nat

/-- The TCP, time and entropy adapters. `accept` yields a handle when it returns GOOD with a
non-NULL handle; `read` never fills more than the buffer it is given. `uninitialised` is not an
adapter: it stands for the bytes an uninitialised local of the source happens to hold. -/
structure Platform (W : Type) where
  accept : StateM W (Option Handle)
  read : Handle → (size : Nat) → AdapterM W (Encoded size)
  write : Option Handle → Bytes → StateM W (StatusCode × Nat)
  closeConnection : Option Handle → StateM W Unit
  getTime : StateM W UInt64
  getTickMs : StateM W UInt64
  generateRandom : (length : Nat) → AdapterM W (Block length)
  uninitialised : (length : Nat) → StateM W (Block length)

abbrev UserAuthHandler (W : Type) := MuString → MuString → MuString → StateM W StatusCode

/-- `mu_server_config_t`, without the adapters only the application services use. -/
structure Config (W : Type) where
  endpointUrl : Bytes
  applicationUri : MuString
  productUri : MuString
  applicationName : MuString
  receiveBufferSize : Nat
  sendBufferSize : Nat
  maxChunkCount : UInt32
  maxMessageSize : UInt32
  maxSessions : UInt32
  maxSecureChannels : UInt32
  platform : Platform W
  cryptoAdapter : Option (CryptoAdapter W)
  userAuthHandler : Option (UserAuthHandler W)
  trustList : Option (List Bytes)
  allowUntrustedClients : Bool

/-- `mu_server_config_validate`, up to the address space and the NULL checks of the adapters. -/
def configValidate {W : Type} (b : Build) (c : Config W) : Except Fault Unit := do
  if c.endpointUrl.take 10 ≠ utf8 "opc.tcp://" then throw .tcpEndpointUrlInvalid
  if c.receiveBufferSize < minChunkSize then throw .internalError
  if c.sendBufferSize < minChunkSize then throw .internalError
  if c.maxSessions = 0 ∨ c.maxSessions.toNat > b.maxSessions then throw .internalError
  if c.maxSecureChannels = 0 ∨ c.maxSecureChannels.toNat > b.maxConnections then throw .internalError
  if c.maxChunkCount = 0 ∨ c.maxMessageSize.toNat < minChunkSize then throw .internalError

end MicroOpcua
