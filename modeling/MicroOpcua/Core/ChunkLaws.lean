import MicroOpcua.Core.Framing
import MicroOpcua.Encoding.RoundTrip

namespace MicroOpcua

open Lib.LittleEndian Lib.StateRun

variable {W : Type}

section Bytes

theorem u32At_put {before : Bytes} (rest : Bytes) {n : Nat} (v : Nat) (hn : before.length = n) :
    (u32At (before ++ (put 4 v ++ rest)) n).toNat = v % 2 ^ 32 := by
  have hcut : ((before ++ (put 4 v ++ rest)).drop n).take 4 = put 4 v := by
    rw [← hn, List.drop_left, List.take_left' (put_length 4 v)]
  rw [u32At, hcut, get_put]
  exact UInt32.toNat_ofNat_of_lt' (Nat.mod_lt _ (by decide))

theorem u32At_putUInt32 {before : Bytes} (rest : Bytes) {n : Nat} (v : UInt32) (hn : before.length = n) :
    u32At (before ++ (put 4 v.toNat ++ rest)) n = v :=
  UInt32.toNat_inj.mp ((u32At_put rest _ hn).trans (Nat.mod_eq_of_lt v.toNat_lt))

end Bytes

section Padding

/-- `bs` with `pad` bytes of padding behind the byte that says how many, as far as it fits a byte. -/
def padded (bs : Bytes) (pad : Nat) : Bytes := bs ++ List.replicate (pad + 1) (UInt8.ofNat pad)

variable (bs : Bytes) (pad : Nat)

theorem padded_length : (padded bs pad).length = bs.length + (pad + 1) := by
  rw [padded, List.length_append, List.length_replicate]

theorem padded_getLast? : ((padded bs pad).getLast?.getD 0).toNat = pad % 256 := by
  simp [padded, List.replicate_succ']

theorem padded_dropLast : (padded bs pad).dropLast = bs ++ List.replicate pad (UInt8.ofNat pad) := by
  rw [padded, List.replicate_succ', ← List.append_assoc, List.dropLast_concat]

theorem paddingOk_padded : paddingOk (padded bs pad) (pad % 256) = true := by
  have hle : pad % 256 ≤ pad := Nat.mod_le ..
  have hcut : (padded bs pad).length - 1 - pad % 256 = bs.length + (pad - pad % 256) := by
    rw [padded_length]
    omega
  rw [paddingOk, padded_dropLast, hcut, ← List.drop_drop, List.drop_left, List.drop_replicate,
    List.all_eq_true]
  intro x hx
  rw [List.eq_of_mem_replicate hx]
  simp

end Padding

section Symmetric

variable {cr : CryptoAdapter W} {keys : SymKeys}

def Undoes (encrypt decrypt : (input : Bytes) → AdapterM W (Block input.length)) : Prop :=
  ∀ x y w w' v, (encrypt x).run.run w = (.ok y, w') → ∃ z v',
    (decrypt y.1).run.run v = (.ok z, v') ∧ z.1 = x

/-- The assumptions on the cryptography for a set of keys: the HMAC is a function, decryption inverts
encryption for the key and the IV, and a cached context acts as the cipher without one. -/
structure SymLawful (cr : CryptoAdapter W) (keys : SymKeys) : Prop where
  hmac : ∀ data w w', ((cr.hmacSha256 keys.signingKey data).run.run w).1 =
    ((cr.hmacSha256 keys.signingKey data).run.run w').1
  aes128 : ∀ encrypt, cr.aes128CbcEncrypt = some encrypt → ∃ decrypt,
    cr.aes128CbcDecrypt = some decrypt ∧
    Undoes (encrypt (keys.encryptingKey.take 16) keys.iv) (decrypt (keys.encryptingKey.take 16) keys.iv)
  aes256 :
    Undoes (cr.aes256CbcEncrypt keys.encryptingKey keys.iv)
    (cr.aes256CbcDecrypt keys.encryptingKey keys.iv)
  encryptCtx : keys.cipherCtxValid = true → ∀ encrypt, cr.aes256CbcEncryptCtx = some encrypt → ∀ x w,
    ((encrypt keys.cipherCtx keys.iv x).run.run w).1 =
      ((cr.aes256CbcEncrypt keys.encryptingKey keys.iv x).run.run w).1
  decryptCtx : keys.cipherCtxValid = true → ∀ decrypt, cr.aes256CbcDecryptCtx = some decrypt → ∀ x w,
    ((decrypt keys.cipherCtx keys.iv x).run.run w).1 =
      ((cr.aes256CbcDecrypt keys.encryptingKey keys.iv x).run.run w).1

theorem Undoes.congr {encrypt encrypt' decrypt decrypt' : (input : Bytes) →
    AdapterM W (Block input.length)} (h : Undoes encrypt decrypt) (he :
    ∀ x w, ((encrypt' x).run.run w).1 = ((encrypt x).run.run w).1)
    (hd : ∀ x w, ((decrypt' x).run.run w).1 = ((decrypt x).run.run w).1) : Undoes encrypt' decrypt' := by
  intro x y w w' v hrun
  have hfirst : ((encrypt x).run.run w).1 = .ok y := (he x w).symm.trans (congrArg Prod.fst hrun)
  obtain ⟨z, v', hdecrypt, hz⟩ := h x y w _ v (returns_of_fst hfirst)
  have hsecond : ((decrypt' y.1).run.run v).1 = .ok z := (hd y.1 v).trans (congrArg Prod.fst hdecrypt)
  exact ⟨z, _, returns_of_fst hsecond, hz⟩

theorem SymLawful.undoes (h : SymLawful cr keys) : Undoes (symEncrypt cr keys) (symDecrypt cr keys) := by
  by_cases hpolicy : keys.policy = .aes128Sha256RsaOaep
  · intro x y w w' v hrun
    simp only [symEncrypt, if_pos hpolicy] at hrun
    split at hrun
    · rename_i encrypt hencrypt
      obtain ⟨decrypt, hdecrypt, hundoes⟩ := h.aes128 encrypt hencrypt
      simp only [symDecrypt, if_pos hpolicy, hdecrypt]
      exact hundoes x y w w' v hrun
    · exact (throw_returns.mp hrun).elim
  · refine h.aes256.congr (fun x w => ?_) (fun x w => ?_)
    · simp only [symEncrypt, if_neg hpolicy]
      split
      · rename_i hvalid hencrypt
        exact h.encryptCtx hvalid _ hencrypt x w
      · rfl
    · simp only [symDecrypt, if_neg hpolicy]
      split
      · rename_i hvalid hdecrypt
        exact h.decryptCtx hvalid _ hdecrypt x w
      · rfl

theorem symChunkUnwrap_eq (mode : MessageSecurityMode) (chunk : Bytes) :
    symChunkUnwrap cr mode keys chunk = (do
      if chunk.length < symHeaderSize then throw .decodingError
      if (u32At chunk 4).toNat > chunk.length ∨ (u32At chunk 4).toNat < symHeaderSize then
        throw .decodingError
      let plain ← if mode = .signAndEncrypt then do
          if ((chunk.take (u32At chunk 4).toNat).drop symHeaderSize).length = 0 ∨
            ((chunk.take (u32At chunk 4).toNat).drop symHeaderSize).length % symBlock ≠ 0 then
            throw .decodingError
          let plain ← symDecrypt cr keys ((chunk.take (u32At chunk 4).toNat).drop symHeaderSize)
          pure (chunk.take symHeaderSize ++ plain.1)
        else if mode = .sign then
          pure (chunk.take symHeaderSize ++ (chunk.take (u32At chunk 4).toNat).drop symHeaderSize)
        else throw .securityModeRejected
      symVerify cr mode keys chunk (u32At chunk 4).toNat plain) := rfl

def sequenced (sequenceNumber requestId : UInt32) (body : Bytes) : Bytes :=
  put 4 sequenceNumber.toNat ++ put 4 requestId.toNat ++ body

theorem sequenced_length (number requestId : UInt32) (body : Bytes) :
    (sequenced number requestId body).length = 8 + body.length := by
  simp only [sequenced, List.length_append, put_length]

/-- The bytes behind the signed ones are their MAC; `pad` of the signed bytes are padding. -/
theorem symVerify_returns {mode : MessageSecurityMode} {chunk header body tail : Bytes}
    {number requestId : UInt32} {mac : Block sha256Length} {v v' : W}
    (hheader : header.length = symHeaderSize)
    (hmac : (cr.hmacSha256 keys.signingKey (header ++
      (sequenced number requestId body ++ tail))).run.run v = (.ok mac, v'))
    (htail : (mode ≠ .signAndEncrypt ∧ tail = []) ∨ mode = .signAndEncrypt ∧
      ∃ pad < 256, tail = padded [] pad) :
    (symVerify cr mode keys chunk (symHeaderSize + (8 + body.length + tail.length) + symSigLen)
      (header ++ (sequenced number requestId body ++ tail) ++ mac.1)).run.run v =
        (.ok ⟨u32At chunk 8, u32At chunk 12, number, requestId, body⟩, v') := by
  have hlen : (header ++ (sequenced number requestId body ++ tail)).length =
      symHeaderSize + (8 + body.length + tail.length) := by
    rw [List.length_append, List.length_append, sequenced_length, hheader]
  have hsigned : symHeaderSize + (8 + body.length + tail.length) + symSigLen - symSigLen =
      (header ++ (sequenced number requestId body ++ tail)).length := by
    rw [hlen, Nat.add_sub_cancel]
  have hplain (rest : Bytes) : header ++ (sequenced number requestId body ++ tail) ++ rest =
      header ++ (put 4 number.toNat ++ (put 4 requestId.toNat ++ (body ++ tail ++ rest))) := by
    simp only [sequenced, List.append_assoc]
  have hsequence : u32At (header ++ (sequenced number requestId body ++ tail) ++ mac.1) symHeaderSize =
      number := by
    rw [hplain]
    exact u32At_putUInt32 _ _ hheader
  have hrequest :
    u32At (header ++ (sequenced number requestId body ++ tail) ++ mac.1) (symHeaderSize + 4) =
      requestId := by
    rw [hplain, ← List.append_assoc]
    exact u32At_putUInt32 _ _ (by rw [List.length_append, hheader, put_length])
  have hbody (n : Nat) (hn : n = body.length) :
      ((header ++ (sequenced number requestId body ++ tail)).drop (symHeaderSize + 8)).take n =
        body := by
    have hsplit : header ++ (sequenced number requestId body ++ tail) =
        header ++ (put 4 number.toNat ++ put 4 requestId.toNat) ++ (body ++ tail) := by
      simp only [sequenced, List.append_assoc]
    rw [hsplit, List.drop_left' (by simp [hheader]), hn, List.take_left]
  have hmacLen : mac.1.length = symSigLen := mac.2
  simp only [symVerify]
  rw [guard_returns]
  refine ⟨by omega, ?_⟩
  rw [hsigned, List.take_left, List.drop_left, List.take_of_length_le (by rw [hmacLen]), bind_returns]
  refine ⟨mac, v', hmac, ?_⟩
  rw [guard_returns]
  refine ⟨not_not.mpr rfl, ?_⟩
  rw [hsequence, hrequest]
  obtain ⟨hmode, rfl⟩ | ⟨rfl, pad, hpad, rfl⟩ := htail
  · rw [if_neg hmode, pure_bind, hbody _ (by simp only [hlen, List.length_nil]; omega)]
    rfl
  · have hpadded : header ++ (sequenced number requestId body ++ padded [] pad) =
        padded (header ++ sequenced number requestId body) pad := by
      simp only [padded, List.nil_append, List.append_assoc]
    have hlast :
        ((header ++ (sequenced number requestId body ++ padded [] pad)).getLast?.getD 0).toNat =
          pad := by
      rw [hpadded, padded_getLast?, Nat.mod_eq_of_lt hpad]
    have hok : paddingOk (header ++ (sequenced number requestId body ++ padded [] pad)) pad = true := by
      have hall := paddingOk_padded (header ++ sequenced number requestId body) pad
      rwa [Nat.mod_eq_of_lt hpad, ← hpadded] at hall
    have htail : (padded [] pad).length = pad + 1 := by rw [padded_length, List.length_nil, Nat.zero_add]
    rw [if_pos rfl, hlast, guard_returns]
    refine ⟨by omega, ?_⟩
    rw [guard_returns, hok]
    refine ⟨not_not.mpr rfl, ?_⟩
    rw [pure_bind, hbody _ (by omega)]
    rfl

section SymHeader

variable {messageType : Bytes} {secureChannelId tokenId : UInt32} {total : Nat}

theorem symHeader_messageSize (h : messageType.length = 3) (rest : Bytes) :
    (u32At (symHeader messageType secureChannelId tokenId total ++ rest) 4).toNat = total % 2 ^ 32 := by
  have hfront : (messageType.take 3 ++ utf8 "F").length = 4 := by
    rw [List.length_append, List.length_take, h]
    decide
  simp only [symHeader, List.append_assoc]
  rw [← List.append_assoc]
  exact u32At_put _ _ hfront

theorem symHeader_secureChannelId (h : messageType.length = 3) (rest : Bytes) :
    u32At (symHeader messageType secureChannelId tokenId total ++ rest) 8 = secureChannelId := by
  have hfront : (messageType.take 3 ++ utf8 "F" ++ put 4 total).length = 8 := by
    rw [List.length_append, List.length_append, List.length_take, h, put_length]
    decide
  rw [symHeader, List.append_assoc, List.append_assoc]
  exact u32At_putUInt32 _ _ hfront

theorem symHeader_tokenId (h : messageType.length = 3) (rest : Bytes) :
    u32At (symHeader messageType secureChannelId tokenId total ++ rest) 12 = tokenId := by
  have hfront :
      (messageType.take 3 ++ utf8 "F" ++ put 4 total ++ put 4 secureChannelId.toNat).length = 12 := by
    rw [List.length_append, List.length_append, List.length_append, List.length_take, h,
      put_length, put_length]
    decide
  rw [symHeader, List.append_assoc]
  exact u32At_putUInt32 _ _ hfront

end SymHeader

variable {mode : MessageSecurityMode} {messageType body chunk : Bytes}
    {secureChannelId tokenId number requestId : UInt32}
  {cap : Nat} {w w' : W}

def symTail (mode : MessageSecurityMode) (bodyLen : Nat) : Bytes :=
  if mode = .signAndEncrypt then padded [] (symPadCount bodyLen) else []

theorem symPadCount_lt (n : Nat) : symPadCount n < symBlock := Nat.mod_lt _ (by decide)

theorem symChunkTotal_eq (mode : MessageSecurityMode) (n : Nat) :
    symChunkTotal mode n = symHeaderSize + (8 + n + (symTail mode n).length) + symSigLen := by
  cases mode
  case signAndEncrypt =>
    rw [symTail, if_pos rfl, padded_length, List.length_nil]
    simp only [symChunkTotal]
    omega
  all_goals rfl

theorem symTail_padding (mode : MessageSecurityMode) (n : Nat) :
    (mode ≠ .signAndEncrypt ∧ symTail mode n = []) ∨
      mode = .signAndEncrypt ∧ ∃ pad < 256, symTail mode n = padded [] pad := by
  by_cases h : mode = .signAndEncrypt
  · have hpad : symPadCount n < 16 := symPadCount_lt n
    exact .inr ⟨h, symPadCount n, by omega, if_pos h⟩
  · exact .inl ⟨h, if_neg h⟩

theorem symTail_blocks (n : Nat) :
    (8 + n + (symTail .signAndEncrypt n).length + symSigLen) % symBlock = 0 := by
  rw [symTail, if_pos rfl, padded_length, List.length_nil]
  simp only [symPadCount, symSigLen, symBlock]
  omega

theorem symChunkWrap_returns
    (h : (symChunkWrap cr mode keys messageType secureChannelId tokenId number requestId
      body cap).run.run w = (.ok chunk, w')) :
    let header := symHeader messageType secureChannelId tokenId (symChunkTotal mode body.length)
    let signed := sequenced number requestId body ++ symTail mode body.length
    ∃ mac u, (cr.hmacSha256 keys.signingKey (header ++ signed)).run.run w = (.ok mac, u) ∧
      ((mode = .sign ∧ chunk = header ++ (signed ++ mac.1)) ∨
        mode = .signAndEncrypt ∧ ∃ cipher,
        (symEncrypt cr keys (signed ++ mac.1)).run.run u = (.ok cipher, w') ∧
          chunk = header ++ cipher.1) := by
  simp only [symChunkWrap, guard_returns] at h
  obtain ⟨hmode, -, h⟩ := h
  by_cases hsign : mode = .sign
  · rw [if_pos hsign] at h
    obtain ⟨mac, u, hmac, h⟩ := bind_returns.mp h
    obtain ⟨rfl, rfl⟩ := pure_returns.mp h
    have htail : symTail mode body.length = [] := if_neg (by rw [hsign]; decide)
    refine ⟨mac, u, ?_, .inl ⟨hsign, ?_⟩⟩
    · rw [htail, List.append_nil]
      exact hmac
    · rw [htail, List.append_nil, List.append_assoc]
      rfl
  · rw [if_neg hsign] at h
    have henc : mode = .signAndEncrypt := by tauto
    obtain ⟨mac, u, hmac, h⟩ := bind_returns.mp h
    obtain ⟨cipher, u', hcipher, h⟩ := bind_returns.mp h
    obtain ⟨rfl, rfl⟩ := pure_returns.mp h
    have htail : symTail mode body.length =
        List.replicate (symPadCount body.length + 1) (UInt8.ofNat (symPadCount body.length)) :=
      (if_pos henc).trans (List.nil_append _)
    rw [htail]
    exact ⟨mac, u, hmac, .inr ⟨henc, cipher, hcipher, rfl⟩⟩

end Symmetric

section OpnHeader

variable {uri cert thumb : Bytes} {channelId : UInt32} {total : Nat}

theorem patchMessageSize_opnHeaderBytes (uri cert thumb : Bytes) (channelId : UInt32) (total : Nat) :
    patchMessageSize (opnHeaderBytes uri channelId (some cert) (some thumb)) total =
      utf8 "OPNF" ++
      (put 4 total ++ (put 4 channelId.toNat ++ (stringBytes (some uri) ++ (stringBytes (some cert) ++
        stringBytes (some thumb))))) := by
  have hopn : (utf8 "OPNF").length = 4 := by decide
  have hfront : (utf8 "OPNF" ++ put 4 0).length = 8 := by rw [List.length_append, hopn, put_length]
  rw [patchMessageSize, opnHeaderBytes, List.take_left' hopn, ← List.append_assoc,
    List.drop_left' hfront, List.append_assoc]

def opnFields : ReadM (UInt32 × MuString × MuString × MuString) := do
  skipBytes 8
  let secureChannelId ← readUInt32
  let policyUri ← readString
  let senderCert ← readBytestring
  let receiverThumb ← readBytestring
  return (secureChannelId, policyUri, senderCert, receiverThumb)

theorem readOpnHeader_eq : readOpnHeader = (do
    let fields ← opnFields
    return (fields.1, fields.2.1, fields.2.2.1, fields.2.2.2, (← get).position)) := by
  simp only [readOpnHeader, opnFields, bind_assoc, pure_bind]

theorem opnFields_decodes (huri : uri.length ≤ maxEncodedStringLength)
    (hcert : cert.length ≤ maxEncodedStringLength) (hthumb : thumb.length ≤ maxEncodedStringLength)
    (channelId : UInt32) (total : Nat) :
    Decodes opnFields (patchMessageSize (opnHeaderBytes uri channelId (some cert) (some thumb)) total)
      (channelId, some uri, some cert, some thumb) := by
  have hskip := skipBytes_decodes (utf8 "OPNF" ++ put 4 total)
  have hfront : (utf8 "OPNF" ++ put 4 total).length = 8 := by
    rw [List.length_append, put_length]
    decide
  rw [hfront] at hskip
  have hstring {bs : Bytes} (h : bs.length ≤ maxEncodedStringLength) :
      Decodes readString (stringBytes (some bs)) (some bs) := readString_decodes h
  rw [patchMessageSize_opnHeaderBytes, ← List.append_assoc]
  exact hskip.bind ((readUInt32_decodes channelId).bind ((hstring huri).bind ((hstring hcert).bind
    ((hstring hthumb).map fun t => (channelId, some uri, some cert, t)))))

theorem readOpnHeader_decode {header rest : Bytes} {fields : UInt32 × MuString × MuString × MuString}
    (h : Decodes opnFields header fields) : readOpnHeader.decode (header ++ rest) =
      .ok (fields.1, fields.2.1, fields.2.2.1, fields.2.2.2, header.length) := by
  have hremaining : (Reader.init (header ++ rest)).remaining = header ++ rest := by
    simp [Reader.remaining, Reader.here, Reader.init]
  have hrun := h (.init (header ++ rest)) rest rfl (Nat.zero_le _) hremaining
  rw [readOpnHeader_eq, ReadM.decode_eq_ok]
  refine ⟨(Reader.init (header ++ rest)).advance header.length, bind_returns.mpr ⟨fields, _, hrun, ?_⟩⟩
  change (Except.ok (_, _, _, _, 0 + header.length), _) = _
  rw [Nat.zero_add]

theorem asymHeader_returns {security : Bool} {policy : SecurityPolicyId} {cap : Nat}
    {header : Encoded cap} (h : asymHeader security policy channelId cert thumb cap = .ok header) :
    ∃ uri, policy.uri security = some uri ∧ header.1 = opnHeaderBytes uri channelId (some cert)
      (some thumb) ∧ uri.length ≤ maxEncodedStringLength ∧ cert.length ≤ maxEncodedStringLength ∧
        thumb.length ≤ maxEncodedStringLength := by
  simp only [asymHeader] at h
  split at h
  · cases h
  · rename_i uri huri
    refine ⟨uri, huri, (writeOpnHeader_emits _ _ _ _).encode h, ?_⟩
    rw [WriteM.encode] at h
    split at h
    · rename_i w hrun
      simp only [writeOpnHeader, writeBytestring, writeString, bind_returns, guard_returns,
        Nat.not_lt] at hrun
      obtain ⟨-, -, -, -, -, -, -, -, -, -, -, ⟨huri, -⟩, -, -, ⟨hcert, -⟩, hthumb, -⟩ := hrun
      exact ⟨huri, hcert, hthumb⟩
    · cases h

theorem fromUri_uri {security : Bool} {policy : SecurityPolicyId} (h : policy.uri security = some uri) :
    SecurityPolicyId.fromUri security uri = policy := by
  have hall :
      (policy.uri security).all (fun uri => SecurityPolicyId.fromUri security uri = policy) = true := by
    cases security <;> cases policy <;> decide
  rw [h] at hall
  exact of_decide_eq_true hall

end OpnHeader

section Asymmetric

variable {V : Type} {sender : CryptoAdapter W} {receiver : CryptoAdapter V} {policy : SecurityPolicyId}

def oaepDecrypt (crypto : CryptoAdapter W) (policy : SecurityPolicyId) (input : Bytes) (cap : Nat) :
    AdapterM W (Encoded cap) :=
  if policy = .aes256Sha256RsaPss then
    crypto.rsaOaepSha256Decrypt input cap else crypto.rsaOaepDecrypt input cap

def chunkVerify (crypto : CryptoAdapter W) (policy : SecurityPolicyId)
    (certificate data signature : Bytes) : AdapterM W Unit :=
  if policy = .aes256Sha256RsaPss then crypto.rsaPssSha256Verify certificate data signature
  else crypto.rsaSha256Verify certificate data signature

def DecryptsBlocks (sender : CryptoAdapter W) (receiver : CryptoAdapter V) (policy : SecurityPolicyId)
    (receiverCert : Bytes) (cipherBlock : Nat) : Prop :=
  ∀ input out w w',
    (oaepEncrypt sender policy receiverCert input cipherBlock).run.run w = (.ok out, w') → ∀ cap,
    input.length ≤ cap → Yields (fun plain => plain.1 = input) (oaepDecrypt receiver policy out.1 cap)

theorem decryptBlocks_yields {receiverCert plain cipher : Bytes}
    {plainBlock cipherBlock n : Nat} {w w' : W}
    (hinverse : DecryptsBlocks sender receiver policy receiverCert cipherBlock)
    (hencrypt : (encryptBlocks sender policy receiverCert plainBlock cipherBlock n plain).run.run w =
      (.ok cipher, w'))
    (hlen : plain.length = n * plainBlock) (before : Bytes)
    (hfits : before.length + plain.length ≤ asymMaxPlaintext) :
    Yields (fun out => out = before ++ plain)
      (decryptBlocks receiver policy cipherBlock n cipher before) := by
  induction n generalizing plain cipher w w' before with
  | zero =>
    obtain rfl : plain = [] := List.eq_nil_of_length_eq_zero (by rw [hlen, Nat.zero_mul])
    exact .pure (List.append_nil before).symm
  | succ n ih =>
    simp only [encryptBlocks, guard_returns, bind_returns, pure_returns] at hencrypt
    obtain ⟨out, u, hout, hsize, rest, u', hrest, rfl, -⟩ := hencrypt
    rw [Nat.succ_mul] at hlen
    have htake : (plain.take plainBlock).length = plainBlock := by
      rw [List.length_take]
      omega
    have hdrop : (plain.drop plainBlock).length = n * plainBlock := by
      rw [List.length_drop]
      omega
    have hblock : (out.1 ++ rest).take cipherBlock = out.1 := List.take_left' (not_not.mp hsize)
    have hblocks : (out.1 ++ rest).drop cipherBlock = rest := List.drop_left' (not_not.mp hsize)
    have hplain := hinverse _ _ _ _ hout (asymMaxPlaintext - before.length) (by omega)
    have hstep : Yields (fun x => x.1 = plain.take plainBlock)
        ((oaepDecrypt receiver policy ((out.1 ++ rest).take cipherBlock)
          (asymMaxPlaintext - before.length)).orElseFail .securityChecksFailed) := by
      rw [hblock]
      exact orElseFail_yields hplain _
    refine hstep.bind (fun x hx => ?_)
    have hrun := ih hrest hdrop (before ++ x.1) (by rw [List.length_append, hx, htake, hdrop]; omega)
    rw [hblocks]
    rw [hx, List.append_assoc, List.take_append_drop] at hrun
    rwa [hx]

def AdapterM.Only {α : Type} (m : AdapterM W α) (a : α) : Prop :=
  ∀ w b w', m.run.run w = (.ok b, w') → b = a

/-- The two ends of an OPN chunk. Both see the same certificates, with keys of an allowed size, and the
same thumbprint; the receiver trusts the sender, decrypts what was encrypted to it and accepts the
sender's signatures. -/
structure AsymPeers (policy : SecurityPolicyId) (sender : CryptoAdapter W)
    (receiver : CryptoAdapter V) where
  senderCert : Bytes
  receiverCert : Bytes
  senderBits : Nat
  receiverBits : Nat
  thumbprint : Block thumbprintLength
  senderRange : minAsymmetricKeyBits ≤ senderBits ∧ senderBits ≤ maxAsymmetricKeyBits
  receiverRange : minAsymmetricKeyBits ≤ receiverBits ∧ receiverBits ≤ maxAsymmetricKeyBits
  senderOwn : sender.getOwnCertificate.Only senderCert
  senderOwnBits : (sender.getCertificateKeyBits senderCert).Only senderBits
  senderPeerBits : (sender.getCertificateKeyBits receiverCert).Only receiverBits
  senderThumbprint : (sender.getCertificateThumbprint receiverCert).Only thumbprint
  receiverOwn : Yields (· = receiverCert) receiver.getOwnCertificate
  receiverOwnBits : Yields (· = receiverBits) (receiver.getCertificateKeyBits receiverCert)
  receiverPeerBits : Yields (· = senderBits) (receiver.getCertificateKeyBits senderCert)
  receiverThumbprint : Yields (· = thumbprint) (receiver.getCertificateThumbprint receiverCert)
  present : senderCert ≠ []
  trusted : ∃ verify, receiver.verifyCertificateValidity = some verify ∧
    Yields (fun _ => True) (verify senderCert)
  decrypts : DecryptsBlocks sender receiver policy receiverCert (receiverBits / 8)
  verifies : ∀ data sig w w', (chunkSign sender policy data).run.run w = (.ok sig, w') →
    Yields (fun _ => True) (chunkVerify receiver policy senderCert data sig.1)

theorem keyBytes_only {cert : Bytes} {bits : Nat} (h : (sender.getCertificateKeyBits cert).Only bits) :
    (keyBytes sender cert).Only (bits / 8) := by
  intro w b w' hrun
  simp only [keyBytes, bind_returns, guard_returns, pure_returns, orElseFail_returns] at hrun
  obtain ⟨n, u, hbits, -, -, rfl, -⟩ := hrun
  rw [h w n u hbits]

theorem keyBytes_yields_of_bits {cert : Bytes} {bits : Nat} (hbits : minAsymmetricKeyBits ≤ bits)
    (h : Yields (· = bits) (receiver.getCertificateKeyBits cert)) :
    Yields (· = bits / 8) (keyBytes receiver cert) := by
  have hmin : 2048 ≤ bits := hbits
  refine (orElseFail_yields h _).bind (fun n hn => ?_)
  rw [hn]
  exact .guard (by omega) (.guard (by simp only [oaepSha1Overhead]; omega) (.pure rfl))

theorem AsymSizes.encLen_eq {z : AsymSizes} (h : 0 < z.plainBlock) :
    z.encLen = z.blocks * z.plainBlock := by
  have hlt := Nat.mod_lt z.base h
  have hsplit := Nat.div_add_mod z.base z.plainBlock
  have hdvd : z.plainBlock ∣ z.encLen := by
    rw [encLen, padCount]
    by_cases hzero : z.base % z.plainBlock = 0
    · rw [hzero, Nat.sub_zero, Nat.mod_self, Nat.add_zero]
      exact Nat.dvd_of_mod_eq_zero hzero
    · rw [Nat.mod_eq_of_lt (by omega)]
      refine ⟨z.base / z.plainBlock + 1, ?_⟩
      rw [Nat.mul_add, Nat.mul_one]
      omega
  exact (Nat.div_mul_cancel hdvd).symm

namespace AsymPeers

variable {receiverCert body chunk : Bytes} {channelId number requestId : UInt32} {cap : Nat} {w w' : W}
  {security : Bool}

def sizes (peers : AsymPeers policy sender receiver) (bodyLen : Nat) : AsymSizes :=
  ⟨peers.senderBits / 8, peers.receiverBits / 8, oaepOverhead policy, bodyLen⟩

def presig (peers : AsymPeers policy sender receiver) (sequenceNumber requestId : UInt32)
    (body : Bytes) : Bytes :=
  padded (sequenced sequenceNumber requestId body) (peers.sizes body.length).padCount

def header (peers : AsymPeers policy sender receiver) (uri : Bytes) (channelId : UInt32)
    (bodyLen : Nat) : Bytes :=
  let bare := opnHeaderBytes uri channelId (some peers.senderCert) (some peers.thumbprint.1)
  patchMessageSize bare (bare.length + (peers.sizes bodyLen).blocks * (peers.sizes bodyLen).recvKeyBytes)

structure Sealed (peers : AsymPeers policy sender receiver) (security : Bool) (cap : Nat)
    (channelId sequenceNumber requestId : UInt32) (body uri cipher : Bytes) : Prop where
  secured : policy ≠ .none ∧ policy ≠ .invalid
  addressed : peers.receiverCert ≠ []
  named : policy.uri security = some uri
  uriLimit : uri.length ≤ maxEncodedStringLength
  certLimit : peers.senderCert.length ≤ maxEncodedStringLength
  checked :
    asymSizeCheck (peers.sizes body.length) (peers.header uri channelId body.length).length cap = .ok ()
  made : ∃ sig u v w, (chunkSign sender policy (peers.header uri channelId body.length ++
      peers.presig sequenceNumber requestId body)).run.run u = (.ok sig, v) ∧
    sig.1.length = (peers.sizes body.length).sigLen ∧
    (encryptBlocks sender policy peers.receiverCert (peers.sizes body.length).plainBlock
      (peers.sizes body.length).recvKeyBytes (peers.sizes body.length).blocks
      (peers.presig sequenceNumber requestId body ++ sig.1)).run.run v = (.ok cipher, w)

theorem wrap_sealed (peers : AsymPeers policy sender receiver) (hpolicy : policy ≠ .none)
    (h : (asymChunkWrap security sender policy channelId number requestId peers.receiverCert
      body cap).run.run w = (.ok chunk, w')) :
    ∃ uri cipher, peers.Sealed security cap channelId number requestId body uri cipher ∧
      chunk = peers.header uri channelId body.length ++ cipher := by
  simp only [asymChunkWrap, if_neg hpolicy, guard_returns, bind_returns, lift_returns,
    certificateThumbprint] at h
  obtain ⟨hinvalid, hcert, own, u₁, hown, sigLen, u₂, hsigLen, recv, u₃, hrecv, thumb, u₄,
    ⟨-, hthumb⟩, bare, u₅, ⟨hbare, -⟩, hseal⟩ := h
  obtain rfl := peers.senderOwn _ _ _ hown
  obtain rfl := keyBytes_only peers.senderOwnBits _ _ _ hsigLen
  obtain rfl := keyBytes_only peers.senderPeerBits _ _ _ hrecv
  obtain rfl := peers.senderThumbprint _ _ _ hthumb
  obtain ⟨uri, huri, hbytes, huriLimit, hcertLimit, -⟩ := asymHeader_returns hbare
  simp only [asymSeal, bind_returns, guard_returns, pure_returns, lift_returns] at hseal
  obtain ⟨⟨⟩, u₆, ⟨hsizes, -⟩, sig, u₇, hsign, hsig, cipher, u₈, hcipher, rfl, rfl⟩ := hseal
  have hpatched : (peers.header uri channelId body.length).length = bare.1.length := by
    have hlen := opnHeaderBytes_length uri channelId (some peers.senderCert) (some peers.thumbprint.1)
    rw [header, patchMessageSize_length (by omega), hbytes]
  rw [← hpatched] at hsizes
  rw [hbytes] at hsign
  refine ⟨uri, cipher, ⟨⟨hpolicy, hinvalid⟩, hcert, huri, huriLimit, hcertLimit, hsizes,
    sig, _, _, _, hsign, not_not.mp hsig, hcipher⟩, ?_⟩
  rw [hbytes]
  rfl

namespace Sealed

variable {peers : AsymPeers policy sender receiver} {uri cipher : Bytes}

theorem presig_length (peers : AsymPeers policy sender receiver) (number requestId : UInt32)
    (body : Bytes) :
    (peers.presig number requestId body).length = (peers.sizes body.length).presigLen := by
  rw [presig, padded_length, sequenced_length]
  change _ = 8 + body.length + 1 + (peers.sizes body.length).padCount
  omega

theorem plainBlock_pos (peers : AsymPeers policy sender receiver) (n : Nat) :
    0 < (peers.sizes n).plainBlock := by
  have hmin : 2048 ≤ peers.receiverBits := peers.receiverRange.1
  have hoverhead : oaepOverhead policy ≤ 66 := by
    rw [oaepOverhead]
    split <;> decide
  change 0 < peers.receiverBits / 8 - oaepOverhead policy
  omega

theorem cipher_length (h : peers.Sealed security cap channelId number requestId body uri cipher) :
    cipher.length = (peers.sizes body.length).blocks * (peers.sizes body.length).recvKeyBytes := by
  obtain ⟨sig, u, v, w, -, -, hcipher⟩ := h.made
  exact encryptBlocks_length hcipher

theorem decryptVerify_yields (h : peers.Sealed security cap channelId number requestId body uri cipher) :
    Yields (· = peers.presig number requestId body)
      (asymDecryptVerify receiver policy (peers.header uri channelId body.length ++
        cipher) peers.senderCert (some peers.thumbprint.1)
          (peers.header uri channelId body.length).length) := by
  have hlen := h.cipher_length
  obtain ⟨sig, u, v, w, hsign, hsig, hcipher⟩ := h.made
  obtain ⟨verify, hverify, htrust⟩ := peers.trusted
  have hchecked := h.checked
  simp only [asymSizeCheck, guard_eq_ok] at hchecked
  obtain ⟨hplain, hsigned, -⟩ := hchecked
  have hpos := plainBlock_pos peers body.length
  have henc := AsymSizes.encLen_eq hpos
  have hrecv : 256 ≤ (peers.sizes body.length).recvKeyBytes := by
    have hmin : 2048 ≤ peers.receiverBits := peers.receiverRange.1
    change 256 ≤ peers.receiverBits / 8
    omega
  have hall :
      (peers.presig number requestId body ++ sig.1).length = (peers.sizes body.length).encLen := by
    rw [List.length_append, presig_length, hsig, AsymSizes.presigLen, AsymSizes.encLen, AsymSizes.base]
    omega
  have hblocks : 0 < (peers.sizes body.length).blocks := by
    apply Nat.pos_of_ne_zero
    intro hzero
    rw [hzero, Nat.zero_mul, AsymSizes.encLen, AsymSizes.base] at henc
    omega
  have hvalid : Yields (fun _ => True) (certificateValidate receiver policy peers.senderCert) := by
    simp only [certificateValidate, if_neg h.secured.1, hverify]
    refine .guard h.secured.2
      (.guard peers.present ((orElseFail_yields peers.receiverPeerBits _).bind ?_))
    rintro bits rfl
    have hrange := peers.senderRange
    exact .guard (by omega) htrust
  have hthumb : Yields (· = peers.thumbprint) (certificateThumbprint receiver peers.receiverCert) :=
    .guard h.addressed peers.receiverThumbprint
  have hdecrypt := decryptBlocks_yields peers.decrypts hcipher (hall.trans henc) []
    (by rw [hall, List.length_nil]; omega)
  refine hvalid.bind fun _ _ => peers.receiverOwn.bind ?_
  rintro _ rfl
  refine hthumb.bind ?_
  rintro _ rfl
  refine .guard (not_not.mpr rfl)
    ((keyBytes_yields_of_bits peers.receiverRange.1 peers.receiverOwnBits).bind ?_)
  rintro _ rfl
  refine (keyBytes_yields_of_bits peers.senderRange.1 peers.receiverPeerBits).bind ?_
  rintro _ rfl
  have hcount : cipher.length / (peers.receiverBits / 8) = (peers.sizes body.length).blocks := by
    rw [hlen]
    exact Nat.mul_div_cancel _ (by omega)
  have hwhole : cipher.length % (peers.receiverBits / 8) = 0 := by
    rw [hlen]
    exact Nat.mul_mod_left ..
  have hnonempty : cipher.length ≠ 0 := by
    rw [hlen]
    exact Nat.mul_ne_zero (by omega) (by omega)
  rw [← hcount] at hdecrypt
  rw [List.drop_left, List.take_left]
  refine .guard (by omega) (hdecrypt.bind ?_)
  rintro _ rfl
  have hcut : ([] ++ (peers.presig number requestId body ++ sig.1)).length - peers.senderBits / 8 =
      (peers.presig number requestId body).length := by
    rw [List.nil_append, List.length_append, hsig]
    exact Nat.add_sub_cancel ..
  have hlong :
      ¬ ([] ++ (peers.presig number requestId body ++ sig.1)).length < peers.senderBits / 8 + 1 + 8 := by
    rw [List.nil_append, hall]
    change ¬ 8 + body.length + 1 + peers.senderBits / 8 + _ < _
    omega
  refine .guard hlong ?_
  rw [hcut, List.nil_append, List.take_left, List.drop_left]
  refine .guard (by rwa [presig_length]) ?_
  exact (orElseFail_yields (peers.verifies _ _ _ _ hsign) _).bind fun _ _ => .pure rfl

theorem header_eq (peers : AsymPeers policy sender receiver) (uri : Bytes)
    (channelId : UInt32) (n : Nat) :
    ∃ rest, peers.header uri channelId n = utf8 "OPNF" ++ (put 4 ((peers.header uri channelId n).length +
      (peers.sizes n).blocks * (peers.sizes n).recvKeyBytes) ++ rest) := by
  have hlen := opnHeaderBytes_length uri channelId (some peers.senderCert) (some peers.thumbprint.1)
  have hpatched (total : Nat) :
      (patchMessageSize (opnHeaderBytes uri channelId (some peers.senderCert) (some peers.thumbprint.1))
        total).length =
          (opnHeaderBytes uri channelId (some peers.senderCert) (some peers.thumbprint.1)).length :=
    patchMessageSize_length (by omega) total
  simp only [header, hpatched]
  exact ⟨_, patchMessageSize_opnHeaderBytes ..⟩

theorem total_lt (h : peers.Sealed security cap channelId number requestId body uri cipher) :
    (peers.header uri channelId body.length ++ cipher).length < 2 ^ 32 := by
  have hchecked := h.checked
  simp only [asymSizeCheck, guard_eq_ok, asymMaxPlaintext, asymSignedInputMax] at hchecked
  obtain ⟨hplain, hsigned, -⟩ := hchecked
  have hblocks : (peers.sizes body.length).blocks ≤ 2048 := (Nat.div_le_self ..).trans (by omega)
  have hmax : (peers.sizes body.length).recvKeyBytes ≤ 512 := by
    have hbits : peers.receiverBits ≤ 4096 := peers.receiverRange.2
    change peers.receiverBits / 8 ≤ 512
    omega
  have hcipher := Nat.mul_le_mul hblocks hmax
  rw [List.length_append, h.cipher_length]
  omega

theorem unwrap_eq (h : peers.Sealed security cap channelId number requestId body uri cipher)
    (outCap : Nat) :
    asymChunkUnwrap security receiver (peers.header uri channelId body.length ++ cipher) outCap = (do
      let signed ← asymDecryptVerify receiver policy (peers.header uri channelId body.length ++
        cipher) peers.senderCert (some peers.thumbprint.1)
          (peers.header uri channelId body.length).length
      asymStrip policy channelId peers.senderCert signed outCap) := by
  obtain ⟨rest, hheader⟩ := header_eq peers uri channelId body.length
  have hopn : (utf8 "OPNF").length = 4 := by decide
  have hlong : 12 ≤ (peers.header uri channelId body.length).length := by
    have hlen := opnHeaderBytes_length uri channelId (some peers.senderCert) (some peers.thumbprint.1)
    rw [header, patchMessageSize_length (by omega)]
    omega
  have htype : (peers.header uri channelId body.length ++ cipher).take 3 = utf8 "OPN" := by
    rw [hheader, List.append_assoc, List.take_append_of_le_length (by omega)]
    decide
  have hsize : (u32At (peers.header uri channelId body.length ++ cipher) 4).toNat =
      (peers.header uri channelId body.length ++ cipher).length := by
    have hlt := h.total_lt
    rw [List.length_append, h.cipher_length] at hlt ⊢
    nth_rewrite 1 [hheader]
    rw [List.append_assoc, List.append_assoc, u32At_put _ _ hopn, Nat.mod_eq_of_lt hlt]
  have hguard : ¬ ((peers.header uri channelId body.length ++ cipher).length < 12 ∨
      (peers.header uri channelId body.length ++ cipher).take 3 ≠ utf8 "OPN") := by
    rintro (hshort | hother)
    · rw [List.length_append] at hshort
      omega
    · exact hother htype
  have hthumb : peers.thumbprint.1.length ≤ maxEncodedStringLength := by rw [peers.thumbprint.2]; decide
  have hread : readOpnHeader.decode (peers.header uri channelId body.length ++ cipher) =
      .ok (channelId, some uri, some peers.senderCert, some peers.thumbprint.1,
        (peers.header uri channelId body.length).length) :=
    readOpnHeader_decode (opnFields_decodes h.uriLimit h.certLimit hthumb channelId _)
  have hlift {α : Type} (a : α) : (liftM (Except.ok a : Except Fault α) : AdapterM V α) = pure a := rfl
  simp only [asymChunkUnwrap]
  rw [if_neg hguard, hsize, if_neg (Nat.lt_irrefl _), List.take_length, hread, hlift, pure_bind]
  simp only [Option.getD_some, fromUri_uri h.named]
  rw [if_neg h.secured.1, if_neg h.secured.2]

def stripped (body : Bytes) (pad : Nat) : Bytes :=
  body ++ List.replicate (pad - pad % 256) (UInt8.ofNat pad)

theorem strip_padded (policy : SecurityPolicyId) (channelId number requestId : UInt32)
    (senderCert body : Bytes) (pad outCap : Nat) (v : V) :
    ((asymStrip policy channelId senderCert (padded (sequenced number requestId body) pad)
      outCap).run.run v).1 =
      if (stripped body pad).length > outCap then .error .responseTooLarge
      else .ok ⟨policy, channelId, number, requestId, senderCert, stripped body pad⟩ := by
  have hle : pad % 256 ≤ pad := Nat.mod_le ..
  have hlen : (padded (sequenced number requestId body) pad).length = 8 + body.length + (pad + 1) := by
    rw [padded_length, sequenced_length]
  have hsequence : u32At (padded (sequenced number requestId body) pad) 0 = number := by
    simp only [padded, sequenced, List.append_assoc]
    change u32At ([] ++ (put 4 number.toNat ++ _)) 0 = number
    exact u32At_putUInt32 _ _ rfl
  have hrequest : u32At (padded (sequenced number requestId body) pad) 4 = requestId := by
    simp only [padded, sequenced, List.append_assoc]
    exact u32At_putUInt32 _ _ (put_length ..)
  have hbody : ((padded (sequenced number requestId body) pad).take
      ((padded (sequenced number requestId body) pad).length - 1 - pad % 256)).drop 8 =
        stripped body pad := by
    have hcut : (padded (sequenced number requestId body) pad).length - 1 - pad % 256 =
        (sequenced number requestId body).length + (pad - pad % 256) := by
      rw [hlen, sequenced_length]
      omega
    rw [hcut, padded, List.take_length_add_append, List.take_replicate,
      Nat.min_eq_left (by omega), sequenced, List.append_assoc]
    exact List.drop_left' (by rw [List.length_append, put_length, put_length])
  simp only [asymStrip, padded_getLast?]
  rw [if_neg (by omega), if_neg (not_not.mpr (paddingOk_padded _ _)), hsequence, hrequest, hbody]
  split <;> rfl

theorem unwrap_run (h : peers.Sealed security cap channelId number requestId body uri cipher)
    (outCap : Nat) (v : V) :
    ((asymChunkUnwrap security receiver (peers.header uri channelId body.length ++
      cipher) outCap).run.run v).1 =
      if (stripped body (peers.sizes body.length).padCount).length > outCap then .error .responseTooLarge
      else .ok ⟨policy, channelId, number, requestId, peers.senderCert,
        stripped body (peers.sizes body.length).padCount⟩ := by
  obtain ⟨signed, hsigned, rfl⟩ := h.decryptVerify_yields v
  rw [h.unwrap_eq, ExceptT.run_bind, run_bind, returns_of_fst hsigned]
  exact strip_padded ..

end Sealed

end AsymPeers

end Asymmetric

end MicroOpcua
