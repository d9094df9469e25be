import MicroOpcua.Core.WellFormed

namespace MicroOpcua

open Lib.LittleEndian Relation

structure Script where
  accept : Option Handle
  inbound : List (Handle × Bytes)
  nowMs : UInt64
  random : Bytes

namespace Script

def idle : Script := ⟨none, [], 0, []⟩

def connect (h : Handle) : Script := { idle with accept := some h }

def deliver (h : Handle) (message : Bytes) : Script := { idle with inbound := [(h, message)] }

def platform : Platform Script where
  accept := fun w => (w.accept, { w with accept := none })
  read := fun h size w =>
    match w.inbound.find? (fun p => p.1 = h) with
    | none => (.ok ⟨[], Nat.zero_le _⟩, w)
    | some p => (.ok ⟨p.2.take size, List.length_take_le _ _⟩, { w with inbound := w.inbound.erase p })
  write := fun _ bytes w => ((good, bytes.length), w)
  closeConnection := fun _ w => ((), w)
  getTime := fun w => (0, w)
  getTickMs := fun w => (w.nowMs, w)
  generateRandom := fun n w => (.ok ⟨(w.random ++ List.replicate n 7).take n, by simp⟩, w)
  uninitialised := fun n w => (⟨List.replicate n 0, by simp⟩, w)

section Plain

variable {W : Type}

def keySize : Nat := 256

def fill (n : Nat) (bytes : Bytes) : Block n := ⟨(bytes ++ List.replicate n 0).take n, by simp⟩

def filled (n : Nat) (bytes : Bytes) (cap : Nat) : Encoded cap :=
  ⟨(fill n bytes).1.take cap, List.length_take_le _ _⟩

/-- Cryptography that hides nothing: MACs and signatures are zero, ciphers copy whole blocks. It has no
AES-128 and reads no key from an empty certificate. -/
def plainCrypto : CryptoAdapter W where
  hmacSha256 := fun _ _ => pure (fill _ [])
  aes256CbcEncrypt :=
    fun _ _ input => if aesBlockSize ∣ input.length then pure ⟨input, rfl⟩ else throw .internalError
  aes256CbcDecrypt :=
    fun _ _ input => if aesBlockSize ∣ input.length then pure ⟨input, rfl⟩ else throw .internalError
  aes128CbcEncrypt := none
  aes128CbcDecrypt := none
  cipherCtxInit := none
  aes256CbcEncryptCtx := none
  aes256CbcDecryptCtx := none
  cipherCtxFree := none
  rsaSha256Sign := fun _ cap => pure (filled keySize [] cap)
  rsaSha256Verify := fun _ _ _ => pure ()
  rsaOaepDecrypt := fun input cap => pure (filled input.length input cap)
  rsaOaepEncrypt := fun _ input cap => pure (filled keySize input cap)
  rsaPssSha256Sign := fun _ cap => pure (filled keySize [] cap)
  rsaPssSha256Verify := fun _ _ _ => pure ()
  rsaOaepSha256Decrypt := fun input cap => pure (filled input.length input cap)
  rsaOaepSha256Encrypt := fun _ input cap => pure (filled keySize input cap)
  getOwnCertificate := pure [83]
  getCertificateKeyBits := fun cert => if cert = [] then throw .certificateInvalid else pure 2048
  getCertificateThumbprint := fun _ => pure (fill _ [])
  verifyCertificateValidity := some (fun _ => pure ())

def url (n : Nat) : Bytes := utf8 "opc.tcp://" ++ List.replicate n 97

/-- A platform on which nothing arrives. -/
def quietPlatform : Platform W where
  accept := pure none
  read := fun _ _ => pure ⟨[], Nat.zero_le _⟩
  write := fun _ bytes => pure (good, bytes.length)
  closeConnection := fun _ => pure ()
  getTime := pure 0
  getTickMs := pure 0
  generateRandom := fun n => pure (fill n [])
  uninitialised := fun n => pure (fill n [])

def configOn (p : Platform W) (urlLength sendBufferSize : Nat) (cr : Option (CryptoAdapter W)) :
    Config W where
  endpointUrl := url urlLength
  applicationUri := none
  productUri := none
  applicationName := none
  receiveBufferSize := 8192
  sendBufferSize := sendBufferSize
  maxChunkCount := 1
  maxMessageSize := 8192
  maxSessions := 2
  maxSecureChannels := 2
  platform := p
  cryptoAdapter := cr
  userAuthHandler := none
  trustList := none
  allowUntrustedClients := true

end Plain

def crypto : CryptoAdapter Script := plainCrypto

def config (urlLength sendBufferSize : Nat) (cr : Option (CryptoAdapter Script)) : Config Script :=
  configOn platform urlLength sendBufferSize cr

abbrev secured (urlLength : Nat) : Config Script := config urlLength 8192 (some crypto)

/-- The defaults of `config.h` with MULTIPLE_CONNECTIONS, SECURITY and basic subscriptions. -/
def build : Build where
  multipleConnections := true
  security := true
  userAuth := false
  subscriptions := true
  subscriptionsStandard := false
  events := false
  serviceDiscovery := false
  serviceRead := false
  serviceRegisterNodes := false
  serviceBrowse := false
  serviceQuery := false
  serviceWrite := false
  serviceHistory := false
  callEnabled := false
  serviceNodeManagement := false
  maxConnections := 4
  maxSessions := 2
  connectionRxBufferSize := 8192
  maxClientCertSize := 1600
  maxSubscriptions := 2
  maxMonitoredItems := 8
  maxPublishRequests := 4
  maxPublishAcks := 4
  maxMonitoredString := 32
  maxTriggerLinks := 4
  monitoredQueueDepth := 1
  retransmitBytes := 256
  minPublishingIntervalMs := 50
  maxPublishingIntervalMs := 60000
  double :=
    ⟨fun _ => 0, fun _ => 0, fun x _ => x, fun x _ => x, fun x _ => x, id, fun _ _ =>
      false, fun _ _ => true⟩
  maxSessions_lt := by decide
  maxSubscriptions_lt := by decide
  maxMonitoredItems_lt := by decide
  monitoredQueueDepth_pos := by decide
  connectionRxBufferSize_ge := by decide

def application : Application Script Unit where
  serve := fun _ _ _ _ s => (.error .serviceUnsupported, s)
  resolveNode := fun _ _ => none
  callMethod := fun _ _ _ s => ((good, []), s)
  pubsubPoll := fun s => (.ok (), s)

def dataApplication : Application Script Unit :=
  { application with resolveNode := fun _ _ => some ⟨some (.static (.scalar (.uint32 5)))⟩ }

/-- The server after one poll for each script, from its start on. -/
def play (c : Config Script) (scripts : List Script) : Server Script Unit :=
  scripts.foldl (fun s w => poll build c application { s with world := w }) (.init build () idle)

def playWith (app : Application Script Unit) (c : Config Script) (scripts : List Script) :
    Server Script Unit :=
  scripts.foldl (fun s w => poll build c app { s with world := w }) (.init build () idle)

theorem playWith_append (app : Application Script Unit) (c : Config Script)
    (scripts later : List Script) :
    Run build c app (playWith app c scripts) (playWith app c (scripts ++ later)) := by
  induction later using List.reverseRecOn with
  | nil =>
    rw [List.append_nil]
  | append_singleton later w ih =>
    have hlast : playWith app c (scripts ++ (later ++ [w])) =
        poll build c app { playWith app c (scripts ++ later) with world := w } := by
      rw [← List.append_assoc]
      exact List.foldl_concat ..
    rw [hlast]
    exact .trans ih (.head (.environment _ () w) (.single (.poll _)))

theorem playWith_reachable {app : Application Script Unit} {c : Config Script}
    (hvalid : configValidate build c = .ok ()) (scripts : List Script) :
    Reachable build c app (playWith app c scripts) :=
  ⟨hvalid, (), idle, playWith_append app c [] scripts⟩

theorem play_append (c : Config Script) (scripts later : List Script) :
    Run build c application (play c scripts) (play c (scripts ++ later)) :=
  playWith_append application c scripts later

theorem play_reachable {c : Config Script} (hvalid : configValidate build c = .ok ())
    (scripts : List Script) : Reachable build c application (play c scripts) :=
  playWith_reachable hvalid scripts

section Messages

def u32 (n : Nat) : Bytes := put 4 n

def nullString : Bytes := u32 0xFFFFFFFF

def string (bytes : Bytes) : Bytes := u32 bytes.length ++ bytes

def frame (kind : String) (rest : Bytes) : Bytes := utf8 kind ++ u32 (8 + rest.length) ++ rest

def hello (receiveBufferSize : Nat) : Bytes :=
  frame "HELF" (u32 0 ++ u32 receiveBufferSize ++ u32 65536 ++ u32 0 ++ u32 0 ++ nullString)

def request (typeId token : Nat) : Bytes :=
  [1, 0] ++ put 2 typeId ++ [2, 0, 0] ++ u32 token ++ put 8 0 ++ u32 1 ++ u32 0 ++ nullString ++
    u32 0 ++ [0, 0, 0]

def openRequest (mode : Nat) (nonce : Bytes) : Bytes :=
  request 446 0 ++ u32 0 ++ u32 0 ++ u32 mode ++ string nonce ++ u32 60000

def createRequest (certificate : Bytes) : Bytes :=
  request 461 0 ++ nullString ++ nullString ++ [0] ++ u32 1 ++ nullString ++ nullString ++
    u32 0 ++ nullString ++ nullString ++ nullString ++ nullString ++ string certificate ++
    put 8 0x40ed4c0000000000 ++ u32 0

def sessionToken : Nat := 2728567458

def activateRequest (token : Nat) : Bytes :=
  request 467 token ++ nullString ++ nullString ++ u32 0 ++ u32 0 ++ [1, 0] ++ put 2 321 ++ [0]

def subscribeRequest (token : Nat) : Bytes :=
  request 787 token ++ put 8 0 ++ u32 100 ++ u32 1 ++ u32 0 ++ [1, 0]

def monitorRequest (token : Nat) : Bytes :=
  request 751 token ++ u32 1 ++ u32 0 ++ u32 1 ++ [0, 1] ++ u32 13 ++ nullString ++ put 2 0 ++
    nullString ++ u32 2 ++ u32 7 ++ put 8 0 ++ [0, 0, 0] ++ u32 1 ++ [1]

def publishRequest (token : Nat) : Bytes := request 826 token ++ u32 0

def openNone (sequenceNumber : Nat) (body : Bytes) : Bytes :=
  frame "OPNF" (u32 0 ++ string SecurityPolicyId.noneUri ++ nullString ++ nullString ++
    u32 sequenceNumber ++ u32 sequenceNumber ++ body)

def msg (sequenceNumber : Nat) (body : Bytes) : Bytes :=
  frame "MSGF" (u32 1 ++ u32 1 ++ u32 sequenceNumber ++ u32 sequenceNumber ++ body)

def openSealed (certificate : Bytes) (sequenceNumber : Nat) (body : Bytes) : Bytes :=
  let pad := (keySize - (9 + body.length) % keySize) % keySize
  frame "OPNF" (u32 0 ++ string (utf8 "http://opcfoundation.org/UA/SecurityPolicy#Basic256Sha256") ++
    string certificate ++ string (fill thumbprintLength []).1 ++ u32 sequenceNumber ++
    u32 sequenceNumber ++ body ++
    List.replicate (pad + 1) (UInt8.ofNat pad) ++ List.replicate keySize 0)

def msgSigned (sequenceNumber : Nat) (body : Bytes) : Bytes :=
  frame "MSGF" (u32 1 ++ u32 1 ++ u32 sequenceNumber ++ u32 sequenceNumber ++ body ++
    List.replicate symSigLen 0)

def signedChannel (h : Handle) (certificate : Bytes) : List Script :=
  [connect h, deliver h (hello 8192),
    deliver h (openSealed certificate 1 (openRequest 2 (List.replicate 32 5)))]

def oneChannel (h : Handle) : List Script :=
  [connect h, deliver h (hello 8192), deliver h (openNone 1 (openRequest 1 []))]

end Messages

end Script

namespace EngineScript

def build : Build := { Script.build with subscriptionsStandard := true, events := true }

def subscribe (limit : UInt32) : EngineOp Unit := .createSubscription 1 ⟨50, 100, 1, limit, 0⟩ true 0

def monitorNode (mode clientHandle : UInt32) (node : Node Unit) : EngineOp Unit :=
  .createItem 1
    { nodeId := .ns0 2258
      attributeId := 13
      monitoringMode := mode
      clientHandle := clientHandle
      samplingIntervalBits := 0
      filter := FilterBody.default
      selectClauses := noClauses
      queueSize := 1
      discardOldest := true }
    node 0 ()

def monitor (mode clientHandle value : UInt32) : EngineOp Unit :=
  monitorNode mode clientHandle ⟨some (.static (.scalar (.uint32 value)))⟩

def park (requestId : UInt32) : EngineOp Unit := .park ⟨true, 1, 0, requestId, 0, [], none⟩

def firstTurn : TurnInput Unit := ⟨0, 100, (), 0, true⟩

abbrev after (ops : List (EngineOp Unit)) : Subscriptions Unit := runOps build ops (.init build)

def first (s : Subscriptions Unit) : Subscription := s.subscriptions.getD 0 .zero

def tick (nowMs : UInt64) : EngineOp Unit := .turn ⟨0, nowMs, (), 0, true⟩

end EngineScript

end MicroOpcua
