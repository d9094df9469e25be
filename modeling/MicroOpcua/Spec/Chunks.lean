import MicroOpcua.Core.Script
import MicroOpcua.Core.ChunkLaws

namespace MicroOpcua

open Lib.LittleEndian Lib.StateRun

variable {W : Type}

section Symmetric

variable {cr : CryptoAdapter W} {keys : SymKeys} {mode : MessageSecurityMode}

theorem symChunkUnwrap_whole {header region : Bytes} {total : Nat}
    (hheader : header.length = symHeaderSize) (hsize : (u32At (header ++ region) 4).toNat = total)
    (htotal : symHeaderSize + region.length = total) :
    symChunkUnwrap cr mode keys (header ++ region) = (do
      let plain ← if mode = .signAndEncrypt then do
          if region.length = 0 ∨ region.length % symBlock ≠ 0 then throw .decodingError
          let plain ← symDecrypt cr keys region
          pure (header ++ plain.1)
        else if mode = .sign then pure (header ++ region)
        else throw .securityModeRejected
      symVerify cr mode keys (header ++ region) total plain) := by
  have hlen : (header ++ region).length = total := by rw [List.length_append, hheader, htotal]
  have hregion : ((header ++ region).take total).drop symHeaderSize = region := by
    rw [← hlen, List.take_length, List.drop_left' hheader]
  rw [symChunkUnwrap_eq, if_neg (by omega), hsize, if_neg (by omega), hregion, List.take_left' hheader]

/-- A chunk that was wrapped and whose size fits the MessageSize field is unwrapped to the body and the
ids it was wrapped with. -/
theorem sym_chunk_round_trip (lawful : SymLawful cr keys) (messageType : Block 3)
    {secureChannelId tokenId number requestId : UInt32} {body chunk : Bytes} {cap : Nat} {w w' : W}
    (wrapped :
      (symChunkWrap cr mode keys messageType.1 secureChannelId tokenId number requestId body cap).run.run
      w = (.ok chunk, w')) (size : symChunkTotal mode body.length < 2 ^ 32) (v : W) :
    ((symChunkUnwrap cr mode keys chunk).run.run v).1 =
      .ok ⟨secureChannelId, tokenId, number, requestId, body⟩ := by
  obtain ⟨mac, u, hmac, hchunk⟩ := symChunkWrap_returns wrapped
  rw [symChunkTotal_eq] at size
  rw [symChunkTotal_eq] at hmac hchunk
  generalize htotal :
    symHeaderSize + (8 + body.length + (symTail mode body.length).length) + symSigLen = total at *
  have hheader : (symHeader messageType.1 secureChannelId tokenId total).length = symHeaderSize :=
    symHeader_length messageType.2 _
  have hsigned : (sequenced number requestId body ++ symTail mode body.length ++ mac.1).length =
      8 + body.length + (symTail mode body.length).length + symSigLen := by
    have hmacLen : mac.1.length = symSigLen := mac.2
    rw [List.length_append, List.length_append, sequenced_length, hmacLen]
  have hfits (region : Bytes) :
    (u32At (symHeader messageType.1 secureChannelId tokenId total ++ region) 4).toNat =
      total := (symHeader_messageSize messageType.2 region).trans (Nat.mod_eq_of_lt size)
  have hverify (v : W) (region : Bytes) {signed : Bytes}
      (h : signed = sequenced number requestId body ++ symTail mode body.length ++ mac.1) :
      ((symVerify cr mode keys (symHeader messageType.1 secureChannelId tokenId total ++ region) total
        (symHeader messageType.1 secureChannelId tokenId total ++ signed)).run.run v).1 =
        .ok ⟨secureChannelId, tokenId, number, requestId, body⟩ := by
    have hagain := returns_of_fst ((lawful.hmac _ v w).trans (congrArg Prod.fst hmac))
    rw [← htotal] at hagain ⊢
    rw [h, ← List.append_assoc (symHeader ..),
      symVerify_returns (symHeader_length messageType.2 _) hagain (symTail_padding mode body.length),
      symHeader_secureChannelId messageType.2, symHeader_tokenId messageType.2]
  obtain ⟨rfl, rfl⟩ | ⟨rfl, cipher, hcipher, rfl⟩ := hchunk
  · rw [symChunkUnwrap_whole hheader (hfits _) (by omega), if_neg (by decide), if_pos rfl, pure_bind]
    exact hverify v _ rfl
  · obtain ⟨plain, v', hplain, hinverse⟩ := lawful.undoes _ _ _ _ v hcipher
    have hcipherLen :
        cipher.1.length = 8 + body.length + (symTail .signAndEncrypt body.length).length + symSigLen :=
      cipher.2.trans hsigned
    have hblocks : cipher.1.length % symBlock = 0 := by
      rw [hcipherLen]
      exact symTail_blocks body.length
    rw [symChunkUnwrap_whole hheader (hfits _) (by omega), if_pos rfl, if_neg (by omega)]
    simp only [pure_bind]
    have hafter := returns_of_fst (hverify v' cipher.1 hinverse)
    exact congrArg Prod.fst (bind_returns.mpr ⟨plain, v', hplain, hafter⟩)

def scriptKeys : SymKeys := { SymKeys.zero with policy := .basic256Sha256 }

theorem scriptKeys_lawful : SymLawful Script.crypto scriptKeys where
  hmac _ _ _ := rfl
  aes128 encrypt h := nomatch h
  aes256 := by
    intro x y w w' v hrun
    by_cases hblocks : aesBlockSize ∣ x.length
    · simp only [Script.crypto, Script.plainCrypto, if_pos hblocks] at hrun ⊢
      obtain ⟨rfl, -⟩ := pure_returns.mp hrun
      exact ⟨⟨x, rfl⟩, v, by rw [if_pos hblocks]; rfl, rfl⟩
    · simp only [Script.crypto, Script.plainCrypto, if_neg hblocks] at hrun
      exact (throw_returns.mp hrun).elim
  encryptCtx h := nomatch h
  decryptCtx h := nomatch h

theorem sym_chunk_round_trip_encrypted :
    ((symChunkUnwrap Script.crypto .signAndEncrypt scriptKeys
      (((symChunkWrap Script.crypto .signAndEncrypt scriptKeys (utf8 "MSG") 5 6 7 8 [1, 2,
        3] 100).run.run .idle).1.toOption.getD [])).run.run .idle).1 = .ok ⟨5, 6, 7, 8, [1, 2, 3]⟩ :=
  have wrapped :
    (symChunkWrap Script.crypto .signAndEncrypt scriptKeys (utf8 "MSG") 5 6 7 8 [1, 2,
      3] 100).run.run .idle = (.ok _, .idle) := rfl
  sym_chunk_round_trip scriptKeys_lawful ⟨utf8 "MSG", by decide⟩ wrapped (by decide) .idle

theorem symChunkUnwrap_oversized (messageType : Block 3)
    {secureChannelId tokenId number requestId : UInt32} {body chunk : Bytes} {cap : Nat} {w w' : W}
    (wrapped :
      (symChunkWrap cr mode keys messageType.1 secureChannelId tokenId number requestId body cap).run.run
      w = (.ok chunk, w')) (size : symChunkTotal mode body.length % 2 ^ 32 < symHeaderSize) (v : W) :
    ((symChunkUnwrap cr mode keys chunk).run.run v).1 = .error .decodingError := by
  obtain ⟨mac, u, -, hchunk⟩ := symChunkWrap_returns wrapped
  have hregion :
    ∃ region, chunk = symHeader messageType.1 secureChannelId tokenId (symChunkTotal mode body.length) ++
      region := by
    obtain ⟨-, h⟩ | ⟨-, cipher, -, h⟩ := hchunk
    · exact ⟨_, h⟩
    · exact ⟨_, h⟩
  obtain ⟨region, rfl⟩ := hregion
  have hlen :
    ¬ (symHeader messageType.1 secureChannelId tokenId (symChunkTotal mode body.length) ++
      region).length < symHeaderSize := by
    rw [List.length_append, symHeader_length messageType.2]
    omega
  have hsmall :
    (u32At (symHeader messageType.1 secureChannelId tokenId (symChunkTotal mode body.length) ++
      region) 4).toNat < symHeaderSize := by
    rw [symHeader_messageSize messageType.2]
    exact size
  rw [symChunkUnwrap_eq, if_neg hlen, if_pos (.inr hsmall)]
  rfl

theorem sym_chunk_round_trip_four_gibibytes : SymLawful Script.crypto scriptKeys ∧
      ∃ chunk,
      (symChunkWrap Script.crypto .sign scriptKeys (utf8 "MSG") 5 6 7 8 (List.replicate (2 ^ 32 - 56) 0)
          (2 ^ 32)).run.run .idle = (.ok chunk, .idle) ∧
        ((symChunkUnwrap Script.crypto .sign scriptKeys chunk).run.run .idle).1 =
            .error .decodingError := by
  have htotal : symChunkTotal .sign (List.replicate (2 ^ 32 - 56) (0 : UInt8)).length = 2 ^ 32 := by
    rw [List.length_replicate]
    rfl
  generalize List.replicate (2 ^ 32 - 56) (0 : UInt8) = body at htotal
  have wrapped :
    ∃ chunk,
    (symChunkWrap Script.crypto .sign scriptKeys (utf8 "MSG") 5 6 7 8 body (2 ^ 32)).run.run .idle =
      (.ok chunk, .idle) := by
    simp only [symChunkWrap, htotal]
    exact ⟨_, rfl⟩
  obtain ⟨chunk, hchunk⟩ := wrapped
  exact ⟨scriptKeys_lawful, chunk, hchunk, symChunkUnwrap_oversized ⟨utf8 "MSG", by decide⟩ hchunk
    (by rw [htotal]; decide) _⟩

end Symmetric

section Asymmetric

variable {V : Type} {policy : SecurityPolicyId} {sender : CryptoAdapter W} {receiver : CryptoAdapter V}

/-- A wrapped OPN chunk is unwrapped by the receiver to the body, the sequence number and the request id,
exactly if the number of padding bytes fits the one byte of the PaddingSize. -/
theorem asym_chunk_round_trip_iff (peers : AsymPeers policy sender receiver) (secured : policy ≠ .none)
    {security : Bool} {channelId number requestId : UInt32} {body chunk : Bytes} {cap : Nat} {w w' : W}
    (wrapped :
      (asymChunkWrap security sender policy channelId number requestId peers.receiverCert body
        cap).run.run w = (.ok chunk, w')) {outCap : Nat} (room : body.length ≤ outCap) (v : V) :
    (∃ a, ((asymChunkUnwrap security receiver chunk outCap).run.run v).1 = .ok a ∧ a.body = body ∧
      a.sequenceNumber = number ∧ a.requestId = requestId) ↔
        (peers.sizes body.length).padCount < 256 := by
  obtain ⟨uri, cipher, hsealed, rfl⟩ := peers.wrap_sealed secured wrapped
  rw [hsealed.unwrap_run]
  by_cases hpad : (peers.sizes body.length).padCount < 256
  · have hsame : AsymPeers.Sealed.stripped body (peers.sizes body.length).padCount = body := by
      rw [AsymPeers.Sealed.stripped, Nat.mod_eq_of_lt hpad, Nat.sub_self, List.replicate_zero,
        List.append_nil]
    rw [hsame, if_neg (by omega)]
    exact iff_of_true ⟨_, rfl, rfl, rfl, rfl⟩ hpad
  · refine iff_of_false ?_ hpad
    rintro ⟨a, ha, hbody, -, -⟩
    have hlonger :
        (AsymPeers.Sealed.stripped body (peers.sizes body.length).padCount).length ≠ body.length := by
      rw [AsymPeers.Sealed.stripped, List.length_append, List.length_replicate]
      omega
    split at ha
    · cases ha
    · obtain rfl := Except.ok.inj ha
      exact hlonger (congrArg List.length hbody)

/-- RSA with keys of `bits` bits that hides nothing: a block is the length of the text, the text and
zeros. -/
def openRsa (bits : Nat) : CryptoAdapter Script :=
  { Script.crypto with
    getCertificateKeyBits := fun _ => pure bits
    rsaSha256Sign := fun _ cap => pure (Script.filled (bits / 8) [] cap)
    rsaOaepEncrypt := fun _ input cap =>
      if input.length + 2 ≤ bits / 8 then
        pure (Script.filled (bits / 8) (put 2 input.length ++ input) cap)
      else throw .internalError
    rsaOaepDecrypt := fun input cap =>
      pure ⟨((input.drop 2).take (Lib.LittleEndian.get (input.take 2))).take cap,
        List.length_take_le _ _⟩ }

theorem openRsa_decrypts {bits : Nat} (hbits : bits ≤ maxAsymmetricKeyBits) (cert : Bytes) :
    DecryptsBlocks (openRsa bits) (openRsa bits) .basic256Sha256 cert (bits / 8) := by
  intro input out w w' hencrypt cap hcap v
  have hmax : bits ≤ 4096 := hbits
  change (if input.length + 2 ≤ bits / 8 then _ else _ : AdapterM Script _).run.run w = _ at hencrypt
  split at hencrypt
  · rename_i hfits
    obtain ⟨rfl, -⟩ := pure_returns.mp hencrypt
    have hblock : ∃ zeros, (Script.filled (bits / 8) (put 2 input.length ++ input) (bits / 8)).1 =
        put 2 input.length ++ (input ++ zeros) := by
      refine ⟨(List.replicate (bits / 8) 0).take (bits / 8 - (put 2 input.length ++ input).length), ?_⟩
      change ((put 2 input.length ++ input ++ _).take (bits / 8)).take (bits / 8) = _
      rw [List.take_take, Nat.min_self, List.take_append, List.take_of_length_le, List.append_assoc]
      rw [List.length_append, put_length]
      omega
    obtain ⟨zeros, hzeros⟩ := hblock
    refine ⟨_, rfl, ?_⟩
    dsimp only
    rw [hzeros, List.take_left' (put_length ..), List.drop_left' (put_length ..), get_put,
      Nat.mod_eq_of_lt (show input.length < 256 ^ 2 by omega), List.take_left,
      List.take_of_length_le hcap]
  · cases hencrypt

def openPeers (bits : Nat) (range : minAsymmetricKeyBits ≤ bits ∧ bits ≤ maxAsymmetricKeyBits) :
    AsymPeers .basic256Sha256 (openRsa bits) (openRsa bits) where
  senderCert := [83]
  receiverCert := [83]
  senderBits := bits
  receiverBits := bits
  thumbprint := Script.fill _ []
  senderRange := range
  receiverRange := range
  senderOwn _ _ _ h := (pure_returns.mp h).1.symm
  senderOwnBits _ _ _ h := (pure_returns.mp h).1.symm
  senderPeerBits _ _ _ h := (pure_returns.mp h).1.symm
  senderThumbprint _ _ _ h := (pure_returns.mp h).1.symm
  receiverOwn := .pure rfl
  receiverOwnBits := .pure rfl
  receiverPeerBits := .pure rfl
  receiverThumbprint := .pure rfl
  present := by decide
  trusted := ⟨_, rfl, .pure trivial⟩
  decrypts := openRsa_decrypts range.2 [83]
  verifies _ _ _ _ _ := .pure trivial

def wrappedByte (bits : Nat) : Except Fault Bytes :=
  ((asymChunkWrap true (openRsa bits) .basic256Sha256 5 6 7 [83] [1] 8192).run.run .idle).1

theorem wrappedByte_eq_ok (bits : Nat) (h : (wrappedByte bits).isOk = true) :
    ∃ chunk, wrappedByte bits = .ok chunk := by
  cases hwrapped : wrappedByte bits with
  | error e => rw [hwrapped] at h; cases h
  | ok chunk => exact ⟨chunk, rfl⟩

theorem asym_chunk_round_trip_iff_small : ∃ chunk a, wrappedByte 2048 = .ok chunk ∧
    ((asymChunkUnwrap true (openRsa 2048) chunk 8192).run.run .idle).1 = .ok a ∧ a.body = [1] ∧
      a.sequenceNumber = 6 ∧ a.requestId = 7 := by
  obtain ⟨chunk, hchunk⟩ := wrappedByte_eq_ok 2048 (by decide +kernel)
  obtain ⟨a, ha⟩ :=
    (asym_chunk_round_trip_iff (openPeers 2048 (by decide)) (by decide) (returns_of_fst hchunk)
      (show [1].length ≤ 8192 by decide) .idle).mpr (by decide)
  exact ⟨chunk, a, hchunk, ha⟩

/-- With keys of 4096 bits, 256 of the 418 bytes of padding stay with the body. -/
theorem asym_chunk_padding_left : ∃ peers : AsymPeers .basic256Sha256 (openRsa 4096) (openRsa 4096),
    peers.receiverCert = [83] ∧ ∃ chunk a, wrappedByte 4096 = .ok chunk ∧
      ((asymChunkUnwrap true (openRsa 4096) chunk 8192).run.run .idle).1 = .ok a ∧ a.body ≠ [1] := by
  obtain ⟨chunk, hchunk⟩ := wrappedByte_eq_ok 4096 (by decide +kernel)
  obtain ⟨uri, cipher, hsealed, rfl⟩ :=
    (openPeers 4096 (by decide)).wrap_sealed (by decide) (returns_of_fst hchunk)
  have hrun := hsealed.unwrap_run 8192 .idle
  have hpad : ((openPeers 4096 (by decide)).sizes ([1] : Bytes).length).padCount = 418 := by decide
  have hlen : (AsymPeers.Sealed.stripped [1] 418).length = 257 := by
    rw [AsymPeers.Sealed.stripped, List.length_append, List.length_replicate]
    rfl
  rw [hpad, if_neg (by omega)] at hrun
  refine ⟨openPeers 4096 (by decide), rfl, _, _, hchunk, hrun, fun hbody => ?_⟩
  have hone : (AsymPeers.Sealed.stripped [1] 418).length = 1 := congrArg List.length hbody
  omega

end Asymmetric

end MicroOpcua
