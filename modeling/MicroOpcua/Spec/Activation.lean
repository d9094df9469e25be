import MicroOpcua.Core.Script

namespace MicroOpcua

open HandlerM Lib.StateRun

variable {W A : Type} {cap : Nat} {b : Build} {c : Config W} {conn : ConnView} {sessions : List Session}
  {req : ActivateSessionRequest} {w w' : W}

section Admission

/-- The part of `handle_activate_session` in front of the identity token: the slot, the authentication
token and the type of the identity token. -/
def activateAdmission (b : Build) (c : Config W) (conn : ConnView) (sessions : List Session)
    (req : ActivateSessionRequest) : AdapterM W (Nat × UInt32 × UInt32) := do
  match req.header.authenticationToken.ns0Numeric? with
  | none => throw .sessionIdInvalid
  | some token =>
    match sessionFindByToken sessions token with
    | none => throw .sessionIdInvalid
    | some i =>
      ExceptT.mk (pure (sessionValidateSecureChannel b (sessions.getD i .init) conn.channel.channelId))
      match req.tokenType.ns0Numeric? with
      | none => throw .identityTokenInvalid
      | some type =>
        if b.security then
          verifyActivateClientSignature b c conn (sessions.getD i .init) req.algorithm req.signature
        return (i, token, type)

theorem activateSession_eq :
    activateSession b c conn sessions req = (do
      let (i, token, type) ← activateAdmission b c conn sessions req
      identityCheck b c conn (sessions.getD i .init) type req
      let session ← ExceptT.mk (pure (sessionActivate (sessions.getD i .init) token type))
      return (i, session)) := by
  simp only [activateSession, activateAdmission]
  cases req.header.authenticationToken.ns0Numeric? with
  | none => rfl
  | some token =>
    dsimp only
    cases sessionFindByToken sessions token with
    | none => rfl
    | some i =>
      simp only [activateCheck, bind_assoc]
      congr 1
      funext _
      cases req.tokenType.ns0Numeric? with
      | none => rfl
      | some type =>
        dsimp only
        split
        · simp only [bind_assoc, pure_bind]
        · simp only [bind_assoc, pure_bind]

theorem activateSession_returns_iff {r : Nat × Session} :
    (activateSession b c conn sessions req).run.run w = (.ok r, w') ↔
      ∃ token type u, (activateAdmission b c conn sessions req).run.run w = (.ok (r.1, token, type), u) ∧
        (identityCheck b c conn (sessions.getD r.1 .init) type req).run.run u = (.ok (), w') ∧
        sessionActivate (sessions.getD r.1 .init) token type = .ok r.2 := by
  rw [activateSession_eq, bind_returns]
  constructor
  · rintro ⟨⟨i, token, type⟩, u, hadmit, hrest⟩
    obtain ⟨⟨⟩, v, hcheck, hrest⟩ := bind_returns.mp hrest
    obtain ⟨session, x, hactivate, hrest⟩ := bind_returns.mp hrest
    obtain ⟨hactive, rfl⟩ := mk_pure_returns.mp hactivate
    obtain ⟨rfl, rfl⟩ := pure_returns.mp hrest
    exact ⟨token, type, u, hadmit, hcheck, hactive⟩
  · rintro ⟨token, type, u, hadmit, hcheck, hactivate⟩
    refine ⟨_, u, hadmit, bind_returns.mpr ⟨(), w', hcheck, bind_returns.mpr ⟨r.2, w', ?_, rfl⟩⟩⟩
    exact mk_pure_returns.mpr ⟨hactivate, rfl⟩

end Admission

section Certificate

def ActivateSessionRequest.withCertificate (req : ActivateSessionRequest)
    (policyId certificate : MuString) : ActivateSessionRequest :=
  { req with token := .certificate policyId certificate }

/-- The activation from `w` on gets to the verification of the token's certificate: the adapter, the slot
and the tokens, the server's own certificate and the world the verification finds. -/
structure ReachesVerify (b : Build) (c : Config W) (conn : ConnView) (sessions : List Session)
    (req : ActivateSessionRequest) (certificate : MuString) (w : W) (cr : CryptoAdapter W) (i : Nat)
    (token type : UInt32)
    (own : Bytes) (v : W) : Prop where
  admitted : ∃ u, (activateAdmission b c conn sessions req).run.run w = (.ok (i, token, type), u) ∧
    cr.getOwnCertificate.run.run u = (.ok own, v)
  adapter : c.cryptoAdapter = some cr
  present : ¬ (certificate.size = 0 ∨ req.userTokenSignature.size = 0)
  size : ¬ own.length + 32 > 1536

variable {cr cr' : CryptoAdapter W} {i i' : Nat} {token token' type type' : UInt32}
    {own own' : Bytes} {v v' : W}
  {certificate : MuString}

theorem ReachesVerify.unique
    (h : ReachesVerify b c conn sessions req certificate w cr i token type own v)
    (h' : ReachesVerify b c conn sessions req certificate w cr' i' token' type' own' v') :
    cr' = cr ∧ i' = i ∧ own' = own ∧ v' = v := by
  obtain ⟨⟨u, hadmit, hown⟩, hadapter, -, -⟩ := h
  obtain ⟨⟨u', hadmit', hown'⟩, hadapter', -, -⟩ := h'
  obtain rfl := Option.some.inj (hadapter'.symm.trans hadapter)
  cases hadmit.symm.trans hadmit'
  cases hown.symm.trans hown'
  exact ⟨rfl, rfl, rfl, rfl⟩

theorem verifyCertificateToken_returns {slot : Session} {cert signature : Bytes} :
    (verifyCertificateToken c slot cert signature).run.run w = (.ok (), w') ↔
      ∃ cr own v, c.cryptoAdapter = some cr ∧ cr.getOwnCertificate.run.run w = (.ok own, v) ∧
        ¬ own.length + 32 > 1536 ∧
        (cr.rsaSha256Verify (own ++ slot.serverNonce) signature cert).run.run v = (.ok (), w') := by
  simp only [verifyCertificateToken]
  cases c.cryptoAdapter with
  | none => exact ⟨fun h => (throw_returns.mp h).elim, nofun⟩
  | some cr =>
    simp only [bind_returns, orElseFail_returns, guard_returns, Option.some.injEq]
    constructor
    · rintro ⟨own, v, hown, hsize, hverify⟩
      exact ⟨cr, own, v, rfl, hown, hsize, hverify⟩
    · rintro ⟨x, own, v, rfl, hown, hsize, hverify⟩
      exact ⟨own, v, hown, hsize, hverify⟩

theorem certificate_activation_returns {policyId : MuString} {r : Nat × Session} :
    (activateSession b c conn sessions (req.withCertificate policyId certificate)).run.run w =
      (.ok r, w') ↔ ∃ cr token type own v x,
        ReachesVerify b c conn sessions (req.withCertificate policyId certificate) certificate w cr
        r.1 token type own v ∧
        (cr.rsaSha256Verify (own ++ (sessions.getD r.1 .init).serverNonce)
          (req.userTokenSignature.getD []) (certificate.getD [])).run.run v = (.ok (), x) ∧
        (authenticate c none certificate policyId (.ok ())).run.run x = (.ok (), w') ∧
        sessionActivate (sessions.getD r.1 .init) token type = .ok r.2 := by
  rw [activateSession_returns_iff]
  have hcheck (slot : Session) (type : UInt32) (u : W) :
      (identityCheck b c conn slot type (req.withCertificate policyId certificate)).run.run u =
        (.ok (), w') ↔ ¬ (certificate.size = 0 ∨ req.userTokenSignature.size = 0) ∧
          ∃ x, (verifyCertificateToken c slot (certificate.getD [])
            (req.userTokenSignature.getD [])).run.run u = (.ok (), x) ∧
              (authenticate c none certificate policyId (.ok ())).run.run x = (.ok (), w') := by
    rw [identityCheck, ActivateSessionRequest.withCertificate]
    dsimp only
    rw [guard_returns, bind_returns]
    constructor
    · rintro ⟨hpresent, ⟨⟩, x, hverify, hauth⟩
      exact ⟨hpresent, x, hverify, hauth⟩
    · rintro ⟨hpresent, x, hverify, hauth⟩
      exact ⟨hpresent, (), x, hverify, hauth⟩
  constructor
  · rintro ⟨token, type, u, hadmit, hidentity, hactivate⟩
    obtain ⟨hpresent, x, hverify, hauth⟩ := (hcheck _ _ _).mp hidentity
    obtain ⟨cr, own, v, hadapter, hown, hsize, hverify⟩ := verifyCertificateToken_returns.mp hverify
    exact ⟨cr, token, type, own, v, x, ⟨⟨u, hadmit, hown⟩, hadapter, hpresent, hsize⟩,
      hverify, hauth, hactivate⟩
  · rintro ⟨cr, token, type, own, v, x, ⟨⟨u, hadmit, hown⟩, hadapter, hpresent, hsize⟩,
      hverify, hauth, hactivate⟩
    refine ⟨token, type, u, hadmit, (hcheck _ _ _).mpr ⟨hpresent, x, ?_, hauth⟩, hactivate⟩
    exact verifyCertificateToken_returns.mpr ⟨cr, own, v, hadapter, hown, hsize, hverify⟩

/-- The adapter accepts the user token signature, with its parameters in the order it declares them: the
certificate of the token, the server's certificate with the nonce of the session, the signature. -/
def CertificateVerified (b : Build) (c : Config W) (conn : ConnView) (sessions : List Session)
    (req : ActivateSessionRequest) (certificate : MuString) (w : W) : Prop :=
  ∃ cr i token type own v, ReachesVerify b c conn sessions req certificate w cr i token type own v ∧
    ((cr.rsaSha256Verify (certificate.getD []) (own ++ (sessions.getD i .init).serverNonce)
      (req.userTokenSignature.getD [])).run.run v).1 = .ok ()

def createdSession : Session :=
  { Session.init with
    state := .created, sessionId := 1, authToken := 5
    serverNonce := List.replicate 32 7, secureChannelId := 1 }

def createdView (policy : SecurityPolicyId) : ConnView :=
  ⟨⟨0, 1⟩, { SecureChannel.init with channelId := 1, tokenId := 1, isOpen := true, policy := policy },
    [65]⟩

def identityRequest (type : UInt32) (token : IdentityToken) (userTokenSignature : MuString) :
    ActivateSessionRequest where
  header := ⟨.ns0 5, 0, 1, 0, none, 0⟩
  algorithm := some (utf8 "http://www.w3.org/2001/04/xmldsig-more#rsa-sha256")
  signature := some [1]
  tokenType := .ns0 type
  token := token
  userTokenSignature := userTokenSignature

/-- The adapter accepts the signature of the token whenever it accepts the arguments in the order of the
call: the signed data for a certificate, the signature for the data, the certificate for a signature. -/
def AcceptsDeclared (cr : CryptoAdapter W) (nonce : Bytes) (certificate signature : MuString) : Prop :=
  certificate.size ≠ 0 → signature.size ≠ 0 → ∀ u own v, cr.getOwnCertificate.run.run u = (.ok own, v) →
    own.length + 32 ≤ 1536 →
    ((cr.rsaSha256Verify (own ++ nonce) (signature.getD []) (certificate.getD [])).run.run v).1 =
      .ok () →
      ((cr.rsaSha256Verify (certificate.getD []) (own ++ nonce) (signature.getD [])).run.run v).1 =
        .ok ()

def Config.withAdapters (c : Config W) (cr : CryptoAdapter W)
    (handler : Option (UserAuthHandler W)) : Config W :=
  { c with cryptoAdapter := some cr, userAuthHandler := handler }

/-- On a channel without security the admission of a created session asks no adapter. -/
theorem activateAdmission_created (b : Build) (c : Config W) (nonce : Bytes) (token : IdentityToken)
    (signature : MuString) (type : UInt32) (w : W) :
    (activateAdmission b c (createdView .none) [{ createdSession with serverNonce := nonce }]
      (identityRequest type token signature)).run.run w = (.ok (0, 5, type), w) := by
  have hchannel :
      sessionValidateSecureChannel b { createdSession with serverNonce := nonce } 1 = .ok () :=
    if_neg (fun h => h.2 rfl)
  have hreturns :
    (ExceptT.mk (pure (sessionValidateSecureChannel b { createdSession with serverNonce := nonce } 1)) :
      AdapterM W Unit).run.run w = (.ok (), w) := mk_pure_returns.mpr ⟨hchannel, rfl⟩
  refine bind_returns.mpr ⟨(), w, hreturns, ?_⟩
  change (if b.security = true then _ else _ : AdapterM W _).run.run w = _
  cases b.security <;> rfl

open Script

/-- An activation with a certificate token succeeds only if the adapter accepts the signature of the
token, for every build, handler, connection, session table and request around the token, exactly if the
adapter accepts it whenever it accepts the swapped call. -/
theorem certificate_activation_iff (c : Config W) (cr : CryptoAdapter W) (nonce : Block 32)
    (policyId certificate signature : MuString) :
    (∀ (b : Build) handler conn sessions (req : ActivateSessionRequest) w r w', b.security = true →
      req.userTokenSignature = signature →
      (activateSession b (c.withAdapters cr handler) conn sessions
        (req.withCertificate policyId certificate)).run.run w = (.ok r, w') →
          (sessions.getD r.1 .init).serverNonce = nonce.1 →
          CertificateVerified b (c.withAdapters cr handler) conn sessions
          (req.withCertificate policyId certificate)
            certificate w) ↔ AcceptsDeclared cr nonce.1 certificate signature := by
  constructor
  · intro h hcertificate hsignature u own v hown hsize hswapped
    let session := { createdSession with serverNonce := nonce.1 }
    let req := identityRequest identityCertificate .other signature
    have hadmit :=
      activateAdmission_created build (c.withAdapters cr none) nonce.1
        (.certificate policyId certificate) signature identityCertificate u
    have hreach : ReachesVerify build (c.withAdapters cr none) (createdView .none) [session]
        (req.withCertificate policyId certificate) certificate u cr 0 5 identityCertificate own v :=
      ⟨⟨u, hadmit, hown⟩, rfl, not_or.mpr ⟨hcertificate, hsignature⟩, not_lt.mpr hsize⟩
    obtain ⟨x, hx⟩ :
      ∃ x, (cr.rsaSha256Verify (own ++ nonce.1) (signature.getD []) (certificate.getD [])).run.run v =
        (.ok (), x) := ⟨_, returns_of_fst hswapped⟩
    have hsuccess : (activateSession build (c.withAdapters cr none) (createdView .none) [session]
        (req.withCertificate policyId certificate)).run.run u =
          (.ok (0, { session with state := .activated }), x) :=
      certificate_activation_returns.mpr ⟨cr, 5, identityCertificate, own, v, x, hreach, hx, rfl, rfl⟩
    obtain ⟨cr', i, token, type, own', v', hreach', hverified⟩ :=
      h build none (createdView .none) [session] req u _ x rfl rfl hsuccess rfl
    obtain ⟨rfl, rfl, rfl, rfl⟩ := hreach.unique hreach'
    exact hverified
  · rintro h b handler conn sessions req w r w' - rfl hsuccess hnonce
    obtain ⟨cr', token, type, own, v, x, hreach, hswapped, -, -⟩ :=
      certificate_activation_returns.mp hsuccess
    obtain rfl : cr' = cr := Option.some.inj hreach.adapter.symm
    obtain ⟨u, -, hown⟩ := hreach.admitted
    obtain ⟨hcertificate, hsignature⟩ := not_or.mp hreach.present
    refine ⟨cr', r.1, token, type, own, v, hreach, ?_⟩
    rw [hnonce] at hswapped ⊢
    exact h hcertificate hsignature u own v hown (not_lt.mp hreach.size) (congrArg Prod.fst hswapped)

def echoCrypto : CryptoAdapter Script :=
  { crypto with
    rsaSha256Verify :=
      fun _ data signature => if data = signature then pure () else throw .securityChecksFailed }

/-- Two equal byte strings are taken for a certificate and a signature made with it. -/
theorem certificate_activation_unverified :
    let c := config 6 8192 (some echoCrypto)
    let req := (identityRequest 327 .other (some [1])).withCertificate none (some [1])
    ((activateSession build c (createdView .none) [createdSession] req).run.run idle).1 =
        .ok (0, { createdSession with state := .activated }) ∧
      ¬ CertificateVerified build c (createdView .none) [createdSession] req (some [1]) idle := by
  refine ⟨by decide, ?_⟩
  rintro ⟨cr, i, token, type, own, v, ⟨⟨u, -, hown⟩, hadapter, -, -⟩, hverified⟩
  obtain rfl := Option.some.inj hadapter
  obtain ⟨rfl, -⟩ := pure_returns.mp hown
  have hne : ([83] ++ (List.getD [createdSession] i .init).serverNonce : Bytes) ≠ [1] := by simp
  have hdeclared :
    (echoCrypto.rsaSha256Verify [1] ([83] ++ (List.getD [createdSession] i .init).serverNonce)
      [1]).run.run v = (.error .securityChecksFailed, v) := by
    simp only [echoCrypto, if_neg hne]
    rfl
  cases hverified.symm.trans (congrArg Prod.fst hdeclared)

end Certificate

section UserName

open Lib.LittleEndian

def ActivateSessionRequest.withUserName (req : ActivateSessionRequest)
    (policyId userName password algorithm : MuString) : ActivateSessionRequest :=
  { req with token := .userName policyId userName password algorithm }

theorem ofInt_int32 (u : UInt32) : UInt32.ofInt (int32 u) = u := by
  apply UInt32.toNat_inj.mp
  have hlt := u.toNat_lt
  have hnat : (UInt32.ofInt (int32 u)).toNat = (int32 u % 4294967296).toNat := by
    simp only [UInt32.ofInt, UInt32.toNat_ofNat']
    omega
  rw [hnat, int32, BitVec.toInt_eq_toNat_cond, UInt32.toNat_toBitVec]
  split <;> omega

/-- A secret that passes is the password with its length, and behind it the nonce and nothing else. -/
theorem passwordOfSecret_eq_some {secret nonce : Bytes} {password : MuString}
    (h : passwordOfSecret secret nonce = some password) :
    secret = stringBytes password ++ nonce ∧ nonce.length = 32 := by
  simp only [passwordOfSecret] at h
  generalize hlength : int32 (UInt32.ofNat (Lib.LittleEndian.get (secret.take 4))) = length at h
  by_cases hshort : secret.length < 4 ∨ length < -1 ∨ length > (secret.length - 4 : Nat)
  · rw [if_pos hshort] at h
    cases h
  · rw [if_neg hshort] at h
    by_cases hnonce :
      secret.drop (4 + length.toNat) ≠ nonce ∨ (secret.drop (4 + length.toNat)).length ≠ 32
    · rw [if_pos hnonce] at h
      cases h
    · rw [if_neg hnonce] at h
      simp only [not_or, not_not, not_lt] at hshort hnonce
      obtain ⟨hmin, hneg, hmax⟩ := hshort
      obtain ⟨hdrop, hsize⟩ := hnonce
      have hheader : secret.take 4 = put 4 (UInt32.ofInt length).toNat := by
        have hfour : (secret.take 4).length = 4 := by rw [List.length_take]; omega
        have hbound : Lib.LittleEndian.get (secret.take 4) < 2 ^ 32 := by
          have := get_lt (secret.take 4)
          rwa [hfour] at this
        rw [← hlength, ofInt_int32, UInt32.toNat_ofNat_of_lt' hbound]
        have hback := put_get (secret.take 4)
        rw [hfour] at hback
        exact hback.symm
      have hcut :
          secret =
            secret.take 4 ++ ((secret.drop 4).take length.toNat ++ secret.drop (4 + length.toNat)) := by
        rw [← List.drop_drop, List.take_append_drop, List.take_append_drop]
      refine ⟨?_, hdrop ▸ hsize⟩
      by_cases hnull : length = -1
      · rw [if_pos hnull] at h
        cases h
        rw [hcut, hheader, hdrop, hnull]
        rfl
      · rw [if_neg hnull] at h
        cases h
        have hlen : (((secret.drop 4).take length.toNat).length : Int) = length := by
          rw [List.length_take, List.length_drop]
          omega
        rw [stringBytes, hlen, ← hheader, List.append_assoc, ← hdrop]
        exact hcut

variable {policyId userName password algorithm : MuString}

/-- The token names an encryption algorithm and has a password. -/
def SealedPassword (password algorithm : MuString) : Prop := algorithm.size > 0 ∧ password.size > 0

/-- The password field, decrypted, is a password with its length and the nonce of the session, and the
handler accepts the user with this password. -/
def SecretAccepted (b : Build) (c : Config W) (conn : ConnView) (sessions : List Session)
    (req : ActivateSessionRequest) (policyId userName password : MuString) (w : W) : Prop :=
  ∃ i token type u cr secret v x plain,
    (activateAdmission b c conn sessions req).run.run w = (.ok (i, token, type), u) ∧
    c.cryptoAdapter = some cr ∧
    (cr.rsaOaepDecrypt (password.getD []) 256).run.run u = (.ok secret, v) ∧
    secret.1 = stringBytes plain ++ (sessions.getD i .init).serverNonce ∧
      (sessions.getD i .init).serverNonce.length = 32 ∧
    (authenticate c userName plain policyId (.error .identityTokenRejected)).run.run v = (.ok (), x)

variable {slot : Session}

theorem identityCheck_userName {type : UInt32} {u x : W} :
    (identityCheck b c conn slot type (req.withUserName policyId userName password algorithm)).run.run
      u = (.ok (), x) ↔ conn.channel.policy.allowsUsernamePasswordTokens b.security = true ∧
        ∃ plain v, (tokenPassword c slot password algorithm).run.run u = (.ok plain, v) ∧
          (authenticate c userName plain policyId (.error .identityTokenRejected)).run.run v =
            (.ok (), x) := by
  rw [identityCheck, ActivateSessionRequest.withUserName]
  dsimp only
  rw [guard_returns, bind_returns, not_not]

theorem tokenPassword_sealed {u v : W} {plain : MuString} (hsealed : SealedPassword password algorithm)
    (h : (tokenPassword c slot password algorithm).run.run u = (.ok plain, v)) :
    ∃ cr secret, c.cryptoAdapter = some cr ∧ (cr.rsaOaepDecrypt (password.getD []) 256).run.run u =
      (.ok secret, v) ∧ secret.1 = stringBytes plain ++ slot.serverNonce ∧
      slot.serverNonce.length = 32 := by
  simp only [tokenPassword, if_pos (show algorithm.size > 0 ∧ password.size > 0 from hsealed)] at h
  split at h
  · exact (throw_returns.mp h).elim
  · rename_i cr hadapter
    obtain ⟨secret, v', hdecrypt, hrest⟩ := bind_returns.mp h
    split at hrest
    · rename_i pw hpassword
      obtain ⟨rfl, rfl⟩ := pure_returns.mp hrest
      exact ⟨cr, secret, hadapter, orElseFail_returns.mp hdecrypt, passwordOfSecret_eq_some hpassword⟩
    · exact (throw_returns.mp hrest).elim

theorem tokenPassword_plain {u : W} (hplain : ¬ SealedPassword password algorithm) :
    (tokenPassword c slot password algorithm).run.run u = (.ok password, u) := by
  simp only [tokenPassword, if_neg (show ¬ (algorithm.size > 0 ∧ password.size > 0) from hplain)]
  rfl

open Script

def userBuild : Build := { build with userAuth := true }

def openHouse : Config Script :=
  { config 6 8192 (some { crypto with rsaOaepDecrypt := fun _ _ => throw .decodingError }) with
    userAuthHandler := some (fun _ _ _ => pure good) }

/-- Without an encryption algorithm, or without a password, the token gets in as it is. -/
theorem openHouse_activates (policyId userName : MuString)
    (hplain : ¬ SealedPassword password algorithm) :
    (activateSession userBuild openHouse (createdView .basic256Sha256) [createdSession]
      ((identityRequest identityUserName .other none).withUserName policyId userName password
        algorithm)).run.run idle = (.ok (0, { createdSession with state := .activated }), idle) := by
  refine activateSession_returns_iff.mpr ⟨5, identityUserName, idle, ?_, ?_, rfl⟩
  · rfl
  · exact identityCheck_userName.mpr ⟨rfl, password, idle, tokenPassword_plain hplain, rfl⟩

/-- An activation with a user name succeeds only if the decrypted password field holds an accepted
password and the nonce of the session, for every build, configuration, connection, session table and
request around the token, exactly if the token names an encryption algorithm and has a password. -/
theorem user_name_activation_iff (policyId userName password algorithm : MuString) :
    (∀ (b : Build) (W : Type) (c : Config W) conn sessions (req : ActivateSessionRequest) w r w',
      b.userAuth = true →
      (activateSession b c conn sessions (req.withUserName policyId userName password algorithm)).run.run
      w =
        (.ok r, w') →
      SecretAccepted b c conn sessions (req.withUserName policyId userName password algorithm)
        policyId userName password w) ↔ SealedPassword password algorithm := by
  constructor
  · intro h
    by_contra hplain
    obtain ⟨i, token, type, u, cr, secret, v, x, plain, -, hadapter, hdecrypt, -, -, -⟩ :=
      h userBuild Script openHouse _ _ _ idle _ _ rfl (openHouse_activates policyId userName hplain)
    obtain rfl := Option.some.inj hadapter
    exact throw_returns.mp hdecrypt
  · intro hsealed b W c conn sessions req w r w' _ hsuccess
    obtain ⟨token, type, u, hadmit, hidentity, -⟩ := activateSession_returns_iff.mp hsuccess
    obtain ⟨-, plain, v, hpassword, hauth⟩ := identityCheck_userName.mp hidentity
    obtain ⟨cr, secret, hadapter, hdecrypt, hsecret, hnonce⟩ := tokenPassword_sealed hsealed hpassword
    exact ⟨r.1, token, type, u, cr, secret, v, w', plain, hadmit, hadapter, hdecrypt,
      hsecret, hnonce, hauth⟩

/-- A password of two bytes without encryption activates a session on a secured channel. -/
theorem user_name_activation_plain :
    let c := { config 6 8192 (some crypto) with userAuthHandler := some (fun _ _ _ => pure good) }
    let req := (identityRequest 324 .other none).withUserName none (some [117]) (some [112, 119]) none
    ((activateSession userBuild c (createdView .basic256Sha256) [createdSession] req).run.run idle).1 =
        .ok (0, { createdSession with state := .activated }) ∧
      ¬ SecretAccepted userBuild c (createdView .basic256Sha256) [createdSession] req none
        (some [117]) (some [112, 119]) idle := by
  refine ⟨by decide, ?_⟩
  rintro ⟨i, token, type, u, cr, secret, v, x, plain, -, hadapter, hdecrypt, hsecret, -, -⟩
  obtain rfl := Option.some.inj hadapter
  obtain ⟨rfl, -⟩ := pure_returns.mp hdecrypt
  have hsize : (stringBytes plain ++ (List.getD [createdSession] i .init).serverNonce).length = 2 :=
    (congrArg List.length hsecret).symm.trans (by decide)
  rw [List.length_append, stringBytes_length] at hsize
  omega

end UserName

end MicroOpcua
