import MicroOpcua.Core.Message
import MicroOpcua.Encoding.WriterLaws

namespace MicroOpcua

open Lib.LittleEndian Lib.StateRun

variable {W : Type} {cr : CryptoAdapter W} {cap : Nat} {body bytes : Bytes} {w w' : W}
variable {channelId tokenId number requestId : UInt32}

theorem createErrorMessage_length {code : StatusCode} {reason : Bytes}
    (h : createErrorMessage code reason cap = .ok bytes) : bytes.length ≤ cap := by
  unfold createErrorMessage at h
  split at h
  · cases h
  · obtain rfl := (Except.ok.inj h).symm
    simp [utf8]
    omega

theorem ackMessage_length (t : TcpConnection) : (ackMessage t).length = 28 := by
  simp [ackMessage, utf8]

section Plaintext

theorem finalizeSymmetric_length
    (h : finalizeSymmetric channelId tokenId number requestId body cap = .ok bytes) :
    bytes.length ≤ cap := by
  simp only [finalizeSymmetric] at h
  split at h
  · cases h
  · rename_i hfits
    obtain rfl := (Except.ok.inj h).symm
    simp only [symmetricHeaderSize, gt_iff_lt, Nat.not_lt] at hfits
    simp [utf8]
    omega

theorem noneUri_length : SecurityPolicyId.noneUri.length = 47 := by decide

theorem finalizeAsymmetricNone_length
    (h : finalizeAsymmetricNone channelId number requestId body cap = .ok bytes) :
    bytes.length ≤ cap := by
  simp only [finalizeAsymmetricNone] at h
  split at h
  · cases h
  · rename_i hfits
    obtain rfl := (Except.ok.inj h).symm
    simp only [asymmetricNoneHeaderSize, gt_iff_lt, Nat.not_lt] at hfits
    simp [utf8, noneUri_length]
    omega

end Plaintext

section Symmetric

variable {mode : MessageSecurityMode} {keys : SymKeys} {messageType : Bytes}

theorem symHeader_length (h : messageType.length = 3) (total : Nat) :
    (symHeader messageType channelId tokenId total).length = symHeaderSize := by
  simp [symHeader, h, utf8, symHeaderSize]

theorem symChunkWrap_length (htype : messageType.length = 3)
    (h : (symChunkWrap cr mode keys messageType channelId tokenId number requestId body cap).run.run w =
      (.ok bytes, w')) : bytes.length = symChunkTotal mode body.length ∧ bytes.length ≤ cap := by
  unfold symChunkWrap at h
  split at h
  · rename_i hmode
    simp only [guard_returns, bind_returns, pure_returns] at h
    obtain ⟨-, hfits, mac, u, -, rfl, -⟩ := h
    have hlen : (symHeader messageType channelId tokenId (symChunkTotal mode body.length) ++
        (put 4 number.toNat ++ put 4 requestId.toNat ++ body) ++ mac.1).length =
        symChunkTotal mode body.length := by
      simp [symHeader_length htype, hmode, symChunkTotal, mac.2, sha256Length, symSigLen]
      omega
    exact ⟨hlen, by omega⟩
  · rename_i hmode
    simp only [guard_returns, bind_returns, pure_returns] at h
    obtain ⟨hmodes, hfits, mac, u, -, cipher, v, -, rfl, -⟩ := h
    have hmode : mode = .signAndEncrypt := by
      by_contra hne
      exact hmodes ⟨hmode, hne⟩
    have hlen :
      (symHeader messageType channelId tokenId (symChunkTotal mode body.length) ++ cipher.1).length =
        symChunkTotal mode body.length := by
      simp [symHeader_length htype, hmode, symChunkTotal, cipher.2, mac.2, sha256Length, symSigLen]
      omega
    exact ⟨hlen, by omega⟩

end Symmetric

section Asymmetric

theorem patchMessageSize_length {chunk : Bytes} (h : 8 ≤ chunk.length) (total : Nat) :
    (patchMessageSize chunk total).length = chunk.length := by
  simp [patchMessageSize]
  omega

def opnHeaderBytes (uri : Bytes) (channelId : UInt32)
    (senderCert receiverThumbprint : MuString) : Bytes :=
  utf8 "OPNF" ++
    (put 4 0 ++
      (put 4 channelId.toNat ++
        (stringBytes (some uri) ++ (stringBytes senderCert ++ stringBytes receiverThumbprint))))

theorem writeOpnHeader_emits (uri : Bytes) (channelId : UInt32) (cert thumb : MuString) :
    Emits (writeOpnHeader uri channelId cert thumb : WriteM cap Unit)
      (opnHeaderBytes uri channelId cert thumb) :=
  .bind (writeBytes_encodes _).emits
    (.bind (writeBytes_encodes _).emits
      (.bind (writeBytes_encodes _).emits
        (.bind (writeString_emits _) (.bind (writeString_emits _) (writeString_emits _)))))

theorem opnHeaderBytes_length (uri : Bytes) (channelId : UInt32) (cert thumb : MuString) :
    (opnHeaderBytes uri channelId cert thumb).length = 24 + uri.length + cert.size + thumb.size := by
  simp [opnHeaderBytes, utf8, MuString.size]
  omega

theorem wrapNone_length (h : wrapNone channelId number requestId body cap = .ok bytes) :
    bytes.length ≤ cap := by
  simp only [wrapNone, bind_eq_ok, guard_eq_ok, pure_eq_ok] at h
  obtain ⟨framed, hframed, hfits, rfl⟩ := h
  have hbytes := (Emits.bind (writeOpnHeader_emits _ _ _ _) (.bind (writeUInt32_encodes _).emits
    (writeUInt32_encodes _).emits)).encode hframed
  have hlen : 8 ≤ framed.1.length := by
    rw [hbytes, List.length_append, opnHeaderBytes_length]
    omega
  rw [patchMessageSize_length (by rw [List.length_append]; omega), List.length_append]
  omega

section

variable {policy : SecurityPolicyId} {cert : Bytes}

theorem encryptBlocks_length {plainBlock cipherBlock n : Nat}
    {plain : Bytes}
    (h : (encryptBlocks cr policy cert plainBlock cipherBlock n plain).run.run w = (.ok bytes, w')) :
    bytes.length = n * cipherBlock := by
  induction n generalizing plain bytes w w' with
  | zero =>
    obtain ⟨rfl, -⟩ := pure_returns.mp h
    simp
  | succ n ih =>
    simp only [encryptBlocks, guard_returns, bind_returns, pure_returns] at h
    obtain ⟨out, u, -, hlen, rest, v, hrest, rfl, -⟩ := h
    rw [List.length_append, ih hrest, not_not.mp hlen]
    ring

theorem asymSeal_length {header : Bytes} {z : AsymSizes} (hheader : 8 ≤ header.length)
    (h : (asymSeal cr policy cert header z number requestId body cap).run.run w = (.ok bytes, w')) :
    bytes.length ≤ cap := by
  simp only [asymSeal, bind_returns, guard_returns, pure_returns, lift_returns] at h
  obtain ⟨⟨⟩, u, ⟨hsizes, -⟩, sig, v, -, -, cipher, x, hcipher, rfl, -⟩ := h
  simp only [asymSizeCheck, guard_eq_ok] at hsizes
  rw [List.length_append, patchMessageSize_length hheader, encryptBlocks_length hcipher]
  omega

theorem asymHeader_length {security : Bool} {thumb : Bytes} {header : Encoded cap}
    (h : asymHeader security policy channelId cert thumb cap = .ok header) :
    ∃ uri, policy.uri security = some uri ∧
      header.1.length = 24 + uri.length + cert.length + thumb.length := by
  unfold asymHeader at h
  split at h
  · cases h
  · rename_i uri huri
    refine ⟨uri, huri, ?_⟩
    rw [(writeOpnHeader_emits _ _ _ _).encode h, opnHeaderBytes_length]
    rfl

theorem asymChunkWrap_length {security : Bool}
    (h : (asymChunkWrap security cr policy channelId number requestId cert body cap).run.run w =
      (.ok bytes, w')) : bytes.length ≤ cap := by
  unfold asymChunkWrap at h
  split at h
  · exact wrapNone_length (lift_returns.mp h).1
  · simp only [guard_returns, bind_returns, lift_returns] at h
    obtain ⟨-, -, own, u₁, -, sigLen, u₂, -, recv, u₃, -, thumb, u₄, -, header, u₅,
      ⟨hheader, -⟩, hseal⟩ := h
    obtain ⟨uri, -, hlen⟩ := asymHeader_length hheader
    exact asymSeal_length (by omega) hseal

end

end Asymmetric

section Protection

variable {mode : MessageSecurityMode}

/-- What the symmetric chunk protection asks of the adapter, within its documented contract: keys and
vectors of their sizes, contexts the adapter filled, and whole cipher blocks. -/
structure CryptoAdapter.ProtectsMsg (cr : CryptoAdapter W) : Prop where
  hmac : ∀ key data, key.length = 32 → Yields (fun _ => True) (cr.hmacSha256 key data)
  aes256 : ∀ key iv input, key.length = 32 → iv.length = 16 → aesBlockSize ∣ input.length →
    Yields (fun _ => True) (cr.aes256CbcEncrypt key iv input)
  aes256Ctx : ∀ encrypt, cr.aes256CbcEncryptCtx = some encrypt → ∀ ctx iv input, cr.Fills ctx →
    iv.length = 16 → aesBlockSize ∣ input.length → Yields (fun _ => True) (encrypt ctx iv input)
  aes128 : ∀ encrypt, cr.aes128CbcEncrypt = some encrypt → ∀ key iv input, key.length = 16 →
    iv.length = 16 → aesBlockSize ∣ input.length → Yields (fun _ => True) (encrypt key iv input)

/-- What the OPN chunk protection asks of the adapter, for its own certificate and for accepted ones: the
key size is read again as before, signatures and encrypted blocks have the size of their key, the own key
has 2048 to 4096 bits, and the own certificate leaves room in the signed part. -/
structure CryptoAdapter.ProtectsOpn (cr : CryptoAdapter W) (own : Bytes)
    (keySize : Bytes → Nat) : Prop where
  certificate : Yields (fun cert => cert = own) cr.getOwnCertificate
  keyBits : ∀ cert, cert = own ∨ cr.Accepted cert →
    Yields (fun bits => bits / 8 = keySize cert) (cr.getCertificateKeyBits cert)
  thumbprint : ∀ cert, cr.Accepted cert → Yields (fun _ => True) (cr.getCertificateThumbprint cert)
  sign : ∀ data cap, keySize own ≤ cap →
    Yields (fun sig => sig.1.length = keySize own) (cr.rsaSha256Sign data cap)
  signPss : ∀ data cap, keySize own ≤ cap →
    Yields (fun sig => sig.1.length = keySize own) (cr.rsaPssSha256Sign data cap)
  encrypt : ∀ cert input, cr.Accepted cert → input.length + oaepSha1Overhead ≤ keySize cert →
    Yields (fun out => out.1.length = keySize cert) (cr.rsaOaepEncrypt cert input (keySize cert))
  encryptSha256 : ∀ cert input, cr.Accepted cert → input.length + oaepSha256Overhead ≤ keySize cert →
    Yields (fun out => out.1.length = keySize cert) (cr.rsaOaepSha256Encrypt cert input (keySize cert))
  ownKey : 256 ≤ keySize own ∧ keySize own ≤ 512
  room : own.length ≤ 3000

theorem symEncrypt_yields (h : cr.ProtectsMsg) {keys : SymKeys} (hkeys : keys.Ready cr) {input : Bytes}
    (hinput : aesBlockSize ∣ input.length) : Yields (fun _ => True) (symEncrypt cr keys input) := by
  unfold symEncrypt
  split
  · rename_i hpolicy
    obtain ⟨encrypt, hsome⟩ := Option.isSome_iff_exists.mp (hkeys.cipher hpolicy)
    have hkey : (keys.encryptingKey.take 16).length = 16 := by
      rw [List.length_take, hkeys.encryptingKey]
      rfl
    rw [hsome]
    exact h.aes128 encrypt hsome _ _ input hkey hkeys.iv hinput
  · split
    · rename_i encrypt hvalid hsome
      exact h.aes256Ctx encrypt hsome _ _ input (hkeys.context hvalid) hkeys.iv hinput
    · exact h.aes256 _ _ input hkeys.encryptingKey hkeys.iv hinput

theorem symChunkTotal_le (hbody : body.length ≤ cap) :
    symChunkTotal mode body.length ≤ symChunkTotal .signAndEncrypt cap := by
  cases mode <;> simp only [symChunkTotal, symPadCount, symHeaderSize, symSigLen, symBlock] <;> omega

theorem symChunkWrap_yields (h : cr.ProtectsMsg) (hmode : mode = .sign ∨ mode = .signAndEncrypt)
    (hfits : symChunkTotal mode body.length ≤ cap) {keys : SymKeys} (hkeys : keys.Ready cr)
    (messageType : Bytes)
    (channelId tokenId number requestId : UInt32) : Yields (fun _ => True)
      (symChunkWrap cr mode keys messageType channelId tokenId number requestId body cap) := by
  refine .guard (fun hne => hmode.elim hne.1 hne.2) (.guard (by omega) ?_)
  split
  · exact .bind (h.hmac _ _ hkeys.signingKey) (fun _ _ => .pure trivial)
  · refine .bind (h.hmac _ _ hkeys.signingKey) (fun mac _ => .bind (symEncrypt_yields h hkeys ?_)
      (fun _ _ => .pure trivial))
    -- sequence header, body, padding and MAC: the padding fills the last block
    have hmac : mac.1.length = 32 := mac.2
    simp only [List.length_append, List.length_replicate, put_length, hmac, aesBlockSize,
      symPadCount, symBlock, symSigLen]
    omega

variable {own : Bytes} {keySize : Bytes → Nat} {policy : SecurityPolicyId}

section

variable (h : cr.ProtectsOpn own keySize) {cert : Bytes}

include h

theorem CryptoAdapter.ProtectsOpn.accepted (haccepted : cr.Accepted cert) :
    256 ≤ keySize cert ∧ keySize cert ≤ 512 := by
  obtain ⟨policy, w, w', hpolicy, hvalid⟩ := id haccepted
  obtain ⟨-, bits, u, hbits, hrange⟩ := certificateValidate_returns hpolicy hvalid
  obtain ⟨bits', hbits', hsize⟩ := h.keyBits cert (.inr haccepted) w
  rw [hbits] at hbits'
  obtain rfl := Except.ok.inj hbits'
  simp only [minAsymmetricKeyBits, maxAsymmetricKeyBits] at hrange
  omega

theorem CryptoAdapter.ProtectsOpn.range (hcert : cert = own ∨ cr.Accepted cert) :
    256 ≤ keySize cert ∧ keySize cert ≤ 512 := by
  rcases hcert with rfl | haccepted
  · exact h.ownKey
  · exact h.accepted haccepted

theorem keyBytes_yields (hcert : cert = own ∨ cr.Accepted cert) :
    Yields (fun n => n = keySize cert) (keyBytes cr cert) := by
  refine .bind (orElseFail_yields (h.keyBits cert hcert) _) (fun bits hbits => ?_)
  have hrange := h.range hcert
  exact .guard (by omega) (.guard (by simp only [oaepSha1Overhead]; omega) (.pure hbits))

theorem encryptBlocks_yields (hcert : cr.Accepted cert) (n : Nat) (plain : Bytes) :
    Yields (fun _ => True)
      (encryptBlocks cr policy cert (keySize cert - oaepOverhead policy) (keySize cert) n plain) := by
  have hrange := h.accepted hcert
  induction n generalizing plain with
  | zero => exact .pure trivial
  | succ n ih =>
    have hblock (m : Nat) (hm : m ≤ 66) : (plain.take (keySize cert - m)).length + m ≤ keySize cert := by
      have := List.length_take_le (keySize cert - m) plain
      omega
    have hencrypt : Yields (fun out => out.1.length = keySize cert)
        (oaepEncrypt cr policy cert (plain.take (keySize cert - oaepOverhead policy))
          (keySize cert)) := by
      unfold oaepEncrypt oaepOverhead
      split
      · exact h.encryptSha256 cert _ hcert (hblock _ (by decide))
      · exact h.encrypt cert _ hcert (hblock _ (by decide))
    refine .bind hencrypt (fun out hout =>
      .guard (by simp [hout]) (.bind (ih _) (fun _ _ => .pure trivial)))

end

theorem chunkSign_yields (h : cr.ProtectsOpn own keySize) (data : Bytes) :
    Yields (fun sig => sig.1.length = keySize own) (chunkSign cr policy data) := by
  unfold chunkSign
  split
  · exact h.signPss data _ h.ownKey.2
  · exact h.sign data _ h.ownKey.2

theorem asymSizeCheck_eq_ok {z : AsymSizes} {hdrLen : Nat} (hsig : 256 ≤ z.sigLen ∧ z.sigLen ≤ 512)
    (hrecv : 256 ≤ z.recvKeyBytes ∧ z.recvKeyBytes ≤ 512) (hoverhead : z.overhead ≤ oaepSha256Overhead)
    (hbody : z.bodyLen ≤ 100) (hhdr : hdrLen ≤ 3200) (hcap : minChunkSize ≤ cap) :
    asymSizeCheck z hdrLen cap = .ok () := by
  obtain ⟨sigLen, recvKeyBytes, overhead, bodyLen⟩ := z
  simp only [oaepSha256Overhead, minChunkSize] at *
  have hpad : (AsymSizes.padCount ⟨sigLen, recvKeyBytes, overhead, bodyLen⟩) < recvKeyBytes - overhead :=
    Nat.mod_lt _ (by simp only [AsymSizes.plainBlock]; omega)
  have henc : AsymSizes.encLen ⟨sigLen, recvKeyBytes, overhead, bodyLen⟩ ≤ 1140 := by
    simp only [AsymSizes.encLen, AsymSizes.base]
    omega
  have hblocks : AsymSizes.blocks ⟨sigLen, recvKeyBytes, overhead, bodyLen⟩ ≤ 6 := by
    simp only [AsymSizes.blocks, AsymSizes.plainBlock]
    exact Nat.div_le_of_le_mul (by omega)
  have hcipher : AsymSizes.blocks ⟨sigLen, recvKeyBytes, overhead, bodyLen⟩ * recvKeyBytes ≤ 6 * 512 :=
    Nat.mul_le_mul hblocks hrecv.2
  have hpresig : AsymSizes.presigLen ⟨sigLen, recvKeyBytes, overhead, bodyLen⟩ ≤ 640 := by
    simp only [AsymSizes.presigLen]
    omega
  unfold asymSizeCheck
  rw [guard_eq_ok, guard_eq_ok, guard_eq_ok]
  refine ⟨?_, ?_, ?_, if_neg ?_⟩
  all_goals
    simp only [asymMaxPlaintext, asymSignedInputMax, asymScratch]
    omega

theorem writeOpnHeader_encodes {uri : Bytes} {cert thumb : MuString}
    (huri : uri.length ≤ maxEncodedStringLength) (hcert : cert.size ≤ maxEncodedStringLength)
    (hthumb : thumb.size ≤ maxEncodedStringLength) (channelId : UInt32) :
    Encodes (writeOpnHeader uri channelId cert thumb : WriteM cap Unit)
      (opnHeaderBytes uri channelId cert thumb) :=
  .bind (writeBytes_encodes _) (.bind (writeBytes_encodes _) (.bind (writeBytes_encodes _)
    (.bind (writeString_encodes huri) (.bind (writeString_encodes hcert) (writeString_encodes hthumb)))))

theorem policy_uri_length (hnone : policy ≠ .none) (hinvalid : policy ≠ .invalid) :
    ∃ uri, policy.uri true = some uri ∧ uri.length ≤ 64 := by
  cases policy with
  | none => exact absurd rfl hnone
  | invalid => exact absurd rfl hinvalid
  | _ => exact ⟨_, rfl, by decide⟩

theorem asymSeal_yields (h : cr.ProtectsOpn own keySize) {cert : Bytes} (hcert : cr.Accepted cert)
    (header : Bytes) (hheader : header.length ≤ 3200) (hbody : body.length ≤ 100)
    (hcap : minChunkSize ≤ cap) (number requestId : UInt32) :
    Yields (fun _ => True)
      (asymSeal cr policy cert header ⟨keySize own, keySize cert, oaepOverhead policy, body.length⟩
        number requestId body cap) := by
  have hoverhead : oaepOverhead policy ≤ oaepSha256Overhead := by
    unfold oaepOverhead
    split <;> decide
  have hsizes :
      asymSizeCheck ⟨keySize own, keySize cert, oaepOverhead policy, body.length⟩ header.length cap =
        .ok () :=
    asymSizeCheck_eq_ok h.ownKey (h.accepted hcert) hoverhead hbody hheader hcap
  refine .bind (.lift hsizes (P := fun _ => True) trivial)
    (fun _ _ => .bind (chunkSign_yields h _) (fun sig hsig => .guard (by simp [hsig]) ?_))
  exact .bind (encryptBlocks_yields h hcert _ _) (fun _ _ => .pure trivial)

theorem asymChunkWrap_yields (h : cr.ProtectsOpn own keySize) {cert : Bytes}
    (haddressed : policy = .none ∨ policy ≠ .invalid ∧ cr.Accepted cert) (hbody : body.length ≤ 100)
    (hcap : minChunkSize ≤ cap)
    (channelId number requestId : UInt32) : Yields (fun _ => True)
      (asymChunkWrap true cr policy channelId number requestId cert body cap) := by
  have hroom := h.room
  have hmin : 8192 ≤ cap := hcap
  unfold asymChunkWrap
  split
  · have hsize : (opnHeaderBytes SecurityPolicyId.noneUri channelId none none ++ (put 4 number.toNat ++
        put 4 requestId.toNat)).length = 79 := by
      simp [opnHeaderBytes_length, noneUri_length, MuString.size]
    have hencodes : Encodes (do
        writeOpnHeader SecurityPolicyId.noneUri channelId none none
        writeUInt32 number
        writeUInt32 requestId : WriteM cap Unit) _ :=
      .bind (writeOpnHeader_encodes (by decide) (Nat.zero_le _) (Nat.zero_le _) channelId)
        (.bind (writeUInt32_encodes number) (writeUInt32_encodes requestId))
    refine .lift (bind_eq_ok.mpr ⟨_, hencodes.encode (by omega), guard_eq_ok.mpr ⟨?_, rfl⟩⟩) trivial
    dsimp only
    omega
  · rename_i hnone
    obtain ⟨hinvalid, haccepted⟩ := haddressed.resolve_left hnone
    have hcert : cert ≠ [] := by
      obtain ⟨policy, w, w', hpolicy, hvalid⟩ := haccepted
      exact (certificateValidate_returns hpolicy hvalid).1
    obtain ⟨uri, huri, hlen⟩ := policy_uri_length hnone hinvalid
    refine .guard hinvalid
      (.guard hcert
        (.bind h.certificate (fun own' hown => .bind (keyBytes_yields h (.inl hown)) (fun sigLen hsig =>
          .bind (keyBytes_yields h (.inr haccepted)) (fun recv hrecv =>
            .bind (P := fun _ => True) ?_ (fun thumb _ => ?_))))))
    · exact .guard hcert (h.thumbprint cert haccepted)
    · subst hown hsig hrecv
      have hsize : (opnHeaderBytes uri channelId (some own') (some thumb.1)).length ≤ 3200 := by
        rw [opnHeaderBytes_length]
        simp only [MuString.size, Option.getD_some, thumb.2, thumbprintLength]
        omega
      have hheader : asymHeader true policy channelId own' thumb.1 cap =
          .ok ⟨opnHeaderBytes uri channelId (some own') (some thumb.1), by omega⟩ := by
        simp only [asymHeader, huri]
        refine (writeOpnHeader_encodes ?_ ?_ ?_ channelId).encode _
        · exact hlen.trans (by decide)
        · exact hroom.trans (by decide)
        · simp [MuString.size, thumb.2, thumbprintLength, maxEncodedStringLength]
      refine .bind (.lift hheader (P := fun header => header.1.length ≤ 3200) hsize)
        (fun header hlength => ?_)
      exact asymSeal_yields h haccepted header.1 hlength hbody hcap number requestId

end Protection

section Header

theorem parseAbort_ne_ok {message : Bytes} {type : MessageType} {size : Nat} (type' : MessageType) :
    parseAbort message type size ≠ .ok type' := by
  simp [parseAbort, guard_eq_ok, bind_eq_ok]

theorem parseMessageHeader_type {message : Bytes} {type : MessageType}
    (h : parseMessageHeader message = .ok type) : MessageType.ofBytes (message.take 3) = some type := by
  simp only [parseMessageHeader, guard_eq_ok] at h
  obtain ⟨-, h⟩ := h
  split at h
  · rename_i type' htype
    simp only [guard_eq_ok] at h
    obtain ⟨-, -, -, -, h⟩ := h
    split at h
    · exact htype.trans (congrArg some (pure_eq_ok.mp h))
    · simp only [guard_eq_ok] at h
      obtain ⟨-, h⟩ := h
      split at h
      · exact absurd h (parseAbort_ne_ok _)
      · exact htype.trans (congrArg some (pure_eq_ok.mp h))
  · cases h

end Header

end MicroOpcua
