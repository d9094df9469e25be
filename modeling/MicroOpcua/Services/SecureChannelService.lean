import MicroOpcua.Services.SessionService

namespace MicroOpcua

open HandlerM

variable {W : Type} {cap : Nat}

structure OpenSecureChannelRequest where
  requestHandle : UInt32
  securityMode : MessageSecurityMode
  clientNonce : MuString
  requestedLifetime : UInt32

/-- The decoding part of `handle_open_secure_channel`; Issue and Renew are not told apart. -/
def readOpenSecureChannel : ReadM OpenSecureChannelRequest := do
  let req ← requestHeaderDecode
  let _ ← unchecked 0 readUInt32
  let _ ← unchecked 0 readUInt32
  let securityMode ← unchecked 0 readUInt32
  checkReader
  let clientNonce ← readBytestring
  let requestedLifetime ← unchecked 0 readUInt32
  checkReader
  return ⟨req.requestHandle, .ofUInt32 securityMode, clientNonce, requestedLifetime⟩

def opnTrustCheck (b : Build) (c : Config W) (policy : SecurityPolicyId) (clientCert : MuString) :
    Except Fault Unit := do
  if b.security ∧ policy.secured ∧ ¬ c.allowUntrustedClients then
    match c.trustList with
    | none => throw .securityChecksFailed
    | some list =>
      if clientCert.size = 0 ∨ ¬ trustListMatch list (clientCert.getD []) then
        throw .securityChecksFailed

def openSecureChannelResponseId : UInt32 := 449

def writeSecurityToken (ch : SecureChannel) (now : UInt64) (nonce : Bytes) : WriteM cap Unit := do
  uncheckedWrite (writeUInt32 0)
  uncheckedWrite (writeUInt32 ch.channelId)
  uncheckedWrite (writeUInt32 ch.tokenId)
  uncheckedWrite (writeUInt64 now)
  uncheckedWrite (writeUInt32 ch.revisedLifetime)
  checkWriter
  writeBytestring (some nonce)

abbrev ChannelM (W : Type) (cap : Nat) := HandlerM SecureChannel W cap

def deriveInto (b : Build) (cr : CryptoAdapter W) (secret seed : Bytes)
    (store : SymKeys → SecureChannel → SecureChannel) : ChannelM W cap Unit := do
  let ch ← state
  let (r, keys) ← adapter (symKeysDerive b.security cr ch.policy secret seed)
  update (fun ch => ((), store keys ch))
  checked r

/-- Key derivation on a secured channel; the inbound keys use the server nonce as secret. -/
def deriveChannelKeys (b : Build) (cr : CryptoAdapter W) (clientNonce serverNonce : Bytes) :
    ChannelM W cap Unit := do
  if clientNonce = [] then throw .securityChecksFailed
  deriveInto b cr serverNonce clientNonce (fun keys ch => { ch with clientKeys := keys })
  deriveInto b cr clientNonce serverNonce (fun keys ch => { ch with serverKeys := keys })
  update (fun ch => ((), { ch with keysValid := true }))
  let ch ← state
  let clientKeys ← adapter (symKeysPrepareCipher cr ch.clientKeys)
  let serverKeys ← adapter (symKeysPrepareCipher cr ch.serverKeys)
  update (fun ch => ((), { ch with clientKeys := clientKeys, serverKeys := serverKeys }))

def completeOpen (b : Build) (c : Config W) (clientCert : MuString) (req : OpenSecureChannelRequest)
    (nonce : Bytes) (ch : SecureChannel) : ChannelM W cap Unit := do
  checked (opnTrustCheck b c ch.policy clientCert)
  encode (writeResponsePrefix openSecureChannelResponseId req.requestHandle good)
  let now ← adapter c.platform.getTime
  encode (writeSecurityToken ch now nonce)
  update (fun ch => ((), { ch with mode := req.securityMode }))
  match b.security && ch.policy.secured, c.cryptoAdapter with
  | true, some cr => deriveChannelKeys b cr (req.clientNonce.getD []) nonce
  | _, _ => pure ()

/-- `handle_open_secure_channel`. `policy` and `clientCert` are the fields `server.c` sets around
the dispatch of an OPN chunk. -/
def handleOpenSecureChannel (b : Build) (c : Config W) (policy clientCert : MuString) :
    ChannelM W cap Unit := do
  let req ← decode readOpenSecureChannel
  let nonce ← adapterChecked
    ((c.platform.generateRandom serverNonceLength).orElseFail .securityChecksFailed)
  let ch ← state
  let ch ← checked (secureChannelOpen b.security ch policy req.securityMode req.requestedLifetime)
  update (fun _ => ((), ch))
  completeOpen b c clientCert req nonce.1 ch

end MicroOpcua
