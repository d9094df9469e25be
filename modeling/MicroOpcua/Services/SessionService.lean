import MicroOpcua.Core.Handler
import MicroOpcua.Services.Subscription

namespace MicroOpcua

open HandlerM

variable {W : Type} {cap : Nat}

section Discovery

def applicationDescriptionEncode (c : Config W) : WriteM cap Unit := do
  writeString c.applicationUri
  writeString c.productUri
  match c.applicationName with
  | none => writeByte 0
  | some name =>
    writeByte 2
    writeString (some name)
  writeUInt32 0
  writeString none
  writeString none
  writeInt32 1
  writeString (some c.endpointUrl)

structure EndpointDescription where
  mode : UInt32
  policy : SecurityPolicyId
  certificate : MuString
  level : UInt8

def userTokenPolicies (b : Build) (policy : SecurityPolicyId) : List (Bytes × UInt32) :=
  (utf8 "anonymous", 0) ::
    if b.userAuth && policy.allowsUsernamePasswordTokens b.security then [(utf8 "username", 1)] else []

def writeUserTokenPolicy (t : Bytes × UInt32) : WriteM cap Unit := do
  writeString (some t.1)
  writeUInt32 t.2
  writeString none
  writeString none
  writeString none

def transportProfileUri : Bytes :=
  utf8 "http://opcfoundation.org/UA-Profile/Transport/uatcp-uasc-uabinary"

def endpointDescriptionEncode (b : Build) (c : Config W) (d : EndpointDescription) :
    WriteM cap Unit := do
  writeString (some c.endpointUrl)
  applicationDescriptionEncode c
  writeBytestring d.certificate
  writeUInt32 d.mode
  writeString (d.policy.uri b.security)
  let tokens := userTokenPolicies b d.policy
  writeInt32 tokens.length
  writeEach writeUserTokenPolicy tokens
  writeString (some transportProfileUri)
  writeByte d.level

def ownCertificate (c : Config W) : StateM W MuString :=
  match c.cryptoAdapter with
  | none => return none
  | some cr => cr.getOwnCertificate.attempt

def discoveryGetEndpoints (b : Build) (certificate : MuString) : List EndpointDescription :=
  ⟨1, .none, certificate, 0⟩ ::
    if b.security && certificate.isSome then
      [⟨2, .basic256Sha256, certificate, 1⟩, ⟨3, .basic256Sha256, certificate, 2⟩,
       ⟨2, .aes128Sha256RsaOaep, certificate, 3⟩, ⟨3, .aes128Sha256RsaOaep, certificate, 4⟩]
    else []

end Discovery

structure ConnView where
  id : ConnId
  channel : SecureChannel
  clientCert : Bytes

section CreateSession

structure CreateSessionRequest where
  clientNonce : MuString
  clientCert : MuString
  timeoutBits : UInt64

def readCreateSessionRequest : ReadM CreateSessionRequest := do
  let _ ← readString
  let _ ← readString
  let mask ← readByte
  if mask &&& 1 ≠ 0 then discard readString
  if mask &&& 2 ≠ 0 then discard readString
  let _ ← readUInt32
  let _ ← readString
  let _ ← readString
  let n ← readInt32
  if n < -1 then throw .decodingError
  let _ ← readEach readString n.toNat
  let _ ← readString
  let _ ← readString
  let _ ← readString
  let clientNonce ← readBytestring
  let clientCert ← readBytestring
  let timeoutBits ← readUInt64
  let _ ← readUInt32
  return ⟨clientNonce, clientCert, timeoutBits⟩

def readCreateSession : ReadM (RequestHeader × CreateSessionRequest) := do
  let req ← requestHeaderDecode
  let body ← readCreateSessionRequest
  let r ← get
  if r.position ≠ r.length then throw .decodingError
  return (req, body)

/-- On a secured channel the certificate must be the one the server stored at OpenSecureChannel. -/
def createSessionCertCheck (b : Build) (conn : ConnView) (clientCert : MuString) :
    Except Fault Unit := do
  if b.security ∧ conn.channel.policy.secured then
    if clientCert.size = 0 ∨ clientCert.getD [] ≠ conn.clientCert ∨ conn.clientCert = [] then
      throw .securityChecksFailed

def serverSignature (b : Build) (c : Config W) (channel : SecureChannel) (req : CreateSessionRequest) :
    StateM W (MuString × MuString) := do
  match b.security && channel.policy.secured, c.cryptoAdapter,
      channel.policy.asymSignatureUri b.security with
  | true, some cr, some uri =>
    let toSign := req.clientCert.getD [] ++ req.clientNonce.getD []
    if req.clientCert.size > 0 ∧ toSign.length ≤ 1536 then
      match ← (asymSignatureSign b.security cr channel.policy toSign 512).attempt with
      | some sig => return (some uri, some sig.1)
      | none => return (none, none)
    else return (none, none)
  | _, _, _ => return (none, none)

def allocateSession (p : Platform W) (sessions : List Session) :
    AdapterM W (Block serverNonceLength × Nat × UInt32 × UInt32) := do
  let nonce ← generateServerNonce p
  match sessionFindFree sessions with
  | none => throw .tooManySessions
  | some slot =>
    let sessionId ← generateSessionId p sessions
    let token ← generateAuthenticationToken p sessions
    return (nonce, slot, sessionId, token)

def createInSlot (b : Build) (slot : Nat) (timeoutBits : UInt64) (sessionId token : UInt32)
    (conn : ConnView) (sessions : List Session) : Except Fault Unit × List Session :=
  match sessionCreateWithIdentifiers b (sessions.getD slot .init) timeoutBits sessionId token
      conn.channel.channelId conn.id with
  | .ok s => (.ok (), sessions.set slot s)
  | .error e => (.error e, sessions)

def createSessionResponseId : UInt32 := 464

abbrev SessionM (W : Type) (cap : Nat) := HandlerM (List Session) W cap

def respondCertificates (b : Build) (c : Config W) (conn : ConnView) (req : CreateSessionRequest) :
    SessionM W cap Unit := do
  let certificate ← adapter (ownCertificate c)
  encode (writeBytestring certificate)
  let certificate ← adapter (ownCertificate c)
  let endpoints := discoveryGetEndpoints b certificate
  encode do
    writeInt32 endpoints.length
    writeEach (endpointDescriptionEncode b c) endpoints
    writeInt32 0
  let (algorithm, signature) ← adapter (serverSignature b c conn.channel req)
  encode do
    writeString algorithm
    writeBytestring signature
    writeUInt32 0

def respondCreated (b : Build) (c : Config W) (conn : ConnView)
    (req : RequestHeader × CreateSessionRequest) (nonce : Block serverNonceLength) (slot : Nat)
    (sessionId token : UInt32) : SessionM W cap Unit := do
  encode (writeResponsePrefix createSessionResponseId req.1.requestHandle good)
  update (fun sessions => ((), sessions.modify slot (fun s => { s with serverNonce := nonce.1 })))
  encode do
    writeNodeId (.ns0 sessionId)
    writeNodeId (.ns0 token)
    writeUInt64 (clampTimeoutBits req.2.timeoutBits)
    writeBytestring (some nonce.1)
  respondCertificates b c conn req.2

def handleCreateSession (b : Build) (c : Config W) (conn : ConnView) : SessionM W cap Unit := do
  let req ← decode readCreateSession
  checked (createSessionCertCheck b conn req.2.clientCert)
  let sessions ← state
  let (nonce, slot, sessionId, token) ← adapterChecked (allocateSession c.platform sessions)
  updateChecked (createInSlot b slot req.2.timeoutBits sessionId token conn)
  respondCreated b c conn req nonce slot sessionId token

end CreateSession

section ActivateSession

inductive IdentityToken where
  | anonymous (policyId : MuString)
  | userName (policyId userName password encryptionAlgorithm : MuString)
  | certificate (policyId certificateData : MuString)
  | other

def readTokenBody (length : Nat) (null : IdentityToken) (m : ReadM IdentityToken) :
    ReadM IdentityToken := do
  ensureBytesRemaining length
  if length > 0 then readWithin length m else return null

def readIdentityToken (b : Build) (type : NodeId) (length : Nat) : ReadM IdentityToken := do
  if type.ns0Numeric? = some identityAnonymous then
    readTokenBody length (.anonymous none) (do return .anonymous (← readString))
  else if b.userAuth ∧ type.ns0Numeric? = some identityUserName then
    readTokenBody length (.userName none none none none) do
      let policyId ← readString
      let userName ← readString
      let password ← readBytestring
      return .userName policyId userName password (← readString)
  else if b.security ∧ type.ns0Numeric? = some identityCertificate then
    readTokenBody length (.certificate none none) do
      let policyId ← readString
      return .certificate policyId (← readBytestring)
  else
    skipExtensionObjectBody length
    return .other

structure ActivateSessionRequest where
  header : RequestHeader
  algorithm : MuString
  signature : MuString
  tokenType : NodeId
  token : IdentityToken
  userTokenSignature : MuString

def readActivateSession (b : Build) : ReadM ActivateSessionRequest := do
  let header ← requestHeaderDecode
  let algorithm ← readString
  let signature ← readBytestring
  let certCount ← readInt32
  ensureArrayItemsMinRemaining certCount 8
  let _ ← readEach (do
    let _ ← readBytestring
    readBytestring) certCount.toNat
  let localeCount ← readInt32
  ensureArrayItemsMinRemaining localeCount 4
  let _ ← readEach readString localeCount.toNat
  let (tokenType, length) ← readExtensionObjectHeader
  let token ← readIdentityToken b tokenType length
  let r ← get
  let userTokenSignature ←
    if r.position < r.length then do
      let _ ← readString
      readBytestring
    else pure none
  return ⟨header, algorithm, signature, tokenType, token, userTokenSignature⟩

def verifyActivateClientSignature (b : Build) (c : Config W) (conn : ConnView) (slot : Session)
    (algorithm signature : MuString) : AdapterM W Unit := do
  if conn.channel.policy.secured then
    match c.cryptoAdapter with
    | none => throw .securityChecksFailed
    | some cr =>
      if signature.size = 0 then throw .securityChecksFailed
      let uri := conn.channel.policy.asymSignatureUri b.security
      if uri.isNone ∨ algorithm ≠ uri then throw .securityChecksFailed
      if conn.clientCert = [] then throw .securityChecksFailed
      let own ← cr.getOwnCertificate.orElseFail .securityChecksFailed
      if own.length + serverNonceLength > 1536 then throw .securityChecksFailed
      (asymSignatureVerify b.security cr conn.channel.policy conn.clientCert (own ++ slot.serverNonce)
        (signature.getD [])).orElseFail .securityChecksFailed

def authenticate (c : Config W) (userName password policyId : MuString) (absent : Except Fault Unit) :
    AdapterM W Unit :=
  match c.userAuthHandler with
  | some handler => ExceptT.mk do return check (← handler userName password policyId)
  | none => ExceptT.mk (pure absent)

/-- The password inside a decrypted secret, if it ends with the server nonce. -/
def passwordOfSecret (secret serverNonce : Bytes) : Option MuString :=
  let length := int32 (UInt32.ofNat (Lib.LittleEndian.get (secret.take 4)))
  if secret.length < 4 ∨ length < -1 ∨ length > (secret.length - 4 : Nat) then none
  else
    let password := (secret.drop 4).take length.toNat
    if (secret.drop (4 + length.toNat)) ≠ serverNonce ∨
      (secret.drop (4 + length.toNat)).length ≠ 32 then none
    else some (if length = -1 then none else some password)

def tokenPassword (c : Config W) (slot : Session) (password algorithm : MuString) :
    AdapterM W MuString := do
  if algorithm.size > 0 ∧ password.size > 0 then
    match c.cryptoAdapter with
    | none => throw .identityTokenRejected
    | some cr =>
      let secret ← (cr.rsaOaepDecrypt (password.getD []) 256).orElseFail .identityTokenRejected
      match passwordOfSecret secret.1 slot.serverNonce with
      | some pw => return pw
      | none => throw .identityTokenRejected
  else return password

/-- The certificate token check. The verify primitive gets the signed data where it expects the
certificate. -/
def verifyCertificateToken (c : Config W) (slot : Session) (certificate signature : Bytes) :
    AdapterM W Unit := do
  match c.cryptoAdapter with
  | none => throw .identityTokenRejected
  | some cr =>
    let own ← cr.getOwnCertificate.orElseFail .identityTokenRejected
    if own.length + 32 > 1536 then throw .internalError
    (cr.rsaSha256Verify (own ++ slot.serverNonce) signature certificate).orElseFail
      .identityTokenRejected

def identityCheck (b : Build) (c : Config W) (conn : ConnView) (slot : Session) (type : UInt32)
    (req : ActivateSessionRequest) : AdapterM W Unit := do
  match req.token with
  | .anonymous policyId => authenticate c none none policyId (.ok ())
  | .userName policyId userName password algorithm =>
    if ¬ conn.channel.policy.allowsUsernamePasswordTokens b.security then throw .identityTokenRejected
    let password ← tokenPassword c slot password algorithm
    authenticate c userName password policyId (.error .identityTokenRejected)
  | .certificate policyId certificate =>
    if certificate.size = 0 ∨ req.userTokenSignature.size = 0 then throw .identityTokenRejected
    verifyCertificateToken c slot (certificate.getD []) (req.userTokenSignature.getD [])
    authenticate c none certificate policyId (.ok ())
  | .other =>
    -- a certificate token in a build without SECURITY is rejected, every other kind is invalid
    if type = identityCertificate then throw .identityTokenRejected else throw .identityTokenInvalid

def activateCheck (b : Build) (c : Config W) (conn : ConnView) (slot : Session) (token : UInt32)
    (req : ActivateSessionRequest) : AdapterM W Session := do
  ExceptT.mk (pure (sessionValidateSecureChannel b slot conn.channel.channelId))
  match req.tokenType.ns0Numeric? with
  | none => throw .identityTokenInvalid
  | some type =>
    if b.security then verifyActivateClientSignature b c conn slot req.algorithm req.signature
    identityCheck b c conn slot type req
    ExceptT.mk (pure (sessionActivate slot token type))

def activateSession (b : Build) (c : Config W) (conn : ConnView) (sessions : List Session)
    (req : ActivateSessionRequest) : AdapterM W (Nat × Session) := do
  match req.header.authenticationToken.ns0Numeric? with
  | none => throw .sessionIdInvalid
  | some token =>
    match sessionFindByToken sessions token with
    | none => throw .sessionIdInvalid
    | some i => return (i, ← activateCheck b c conn (sessions.getD i .init) token req)

def fillServerNonce (p : Platform W) : StateM W Bytes := do
  match ← (generateServerNonce p).attempt with
  | some nonce => return nonce.1
  | none => return List.replicate serverNonceLength 0

def activateSessionResponseId : UInt32 := 470

def writeActivateResponse (c : Config W) (requestHandle : UInt32) (status : StatusCode) :
    SessionM W cap Unit := do
  encode (writeResponsePrefix activateSessionResponseId requestHandle status)
  let nonce ← adapter (fillServerNonce c.platform)
  encode do
    writeBytestring (some nonce)
    uncheckedWrite (writeInt32 0)
    uncheckedWrite (writeInt32 0)
    checkWriter

def activateDecoded (b : Build) (c : Config W) (conn : ConnView) (req : ActivateSessionRequest) :
    SessionM W cap (Option Nat) := do
  let sessions ← state
  let result ← adapter (activateSession b c conn sessions req).run
  match result with
  | .ok (i, s) => update (fun sessions => ((), sessions.set i s))
  | .error _ => pure ()
  writeActivateResponse c req.header.requestHandle (statusOf result)
  return result.toOption.map Prod.fst

/-- `handle_activate_session`; the result is the slot it activated, if it did. A failed activation
is a response, not a fault. -/
def handleActivateSession (b : Build) (c : Config W) (conn : ConnView) :
    SessionM W cap (Option Nat) := do
  let req ← decode (readActivateSession b)
  activateDecoded b c conn req

end ActivateSession

section CloseSession

def closeSubscriptions (b : Build) (sessionId : UInt32) (s : Subscriptions W) : Subscriptions W :=
  (List.range s.subscriptions.length).foldl
    (fun s i =>
      match s.subscriptions[i]? with
      | some sub =>
        if sub.inUse && sub.sessionId = sessionId then
          (subscriptionDelete b s sessionId sub.subscriptionId).2 else s
      | none => s)
    s

/-- The effect of `handle_close_session` on the active session's slot and the subscriptions. The
session id is read from the slot after it was reset. -/
def closeSession (b : Build) (active : Nat) (token : NodeId) (st : List Session × Subscriptions W) :
    Except Fault Unit × List Session × Subscriptions W :=
  match token.identifier with
  | .string _ => (.error .sessionIdInvalid, st)
  | .numeric id =>
    match sessionClose (st.1.getD active .init) id with
    | .error e => (.error e, st)
    | .ok slot =>
      (.ok (), st.1.set active slot, if b.subscriptions then
        closeSubscriptions b slot.sessionId st.2 else st.2)

def closeSessionResponseId : UInt32 := 476

def handleCloseSession (b : Build) (active : Nat) :
    HandlerM (List Session × Subscriptions W) W cap Unit := do
  let req ← decode requestHeaderDecode
  let _ ← decode readBoolean
  let result ← update (closeSession b active req.authenticationToken)
  encode (writeResponsePrefix closeSessionResponseId req.requestHandle (statusOf result))

end CloseSession

end MicroOpcua
