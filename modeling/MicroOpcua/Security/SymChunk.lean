import MicroOpcua.Security.Crypto

namespace MicroOpcua

open Lib.LittleEndian Lib.StateRun

/-- `mu_sym_keys_t`. `crypto` says whether the adapter pointer is set; `cipherCtx` is the storage
`cipher_ctx_init` fills, empty while cleared. -/
structure SymKeys where
  policy : SecurityPolicyId
  signingKey : Bytes
  encryptingKey : Bytes
  iv : Bytes
  cipherCtx : Bytes
  crypto : Bool
  cipherCtxValid : Bool
deriving DecidableEq

def SymKeys.zero : SymKeys :=
  ⟨.invalid, List.replicate 32 0, List.replicate 32 0, List.replicate 16 0, [], false, false⟩

variable {W : Type}

/-- `mu_sym_keys_derive`. The keys are cleared before the derivation, so a failure leaves the
cleared structure with the policy set. -/
def symKeysDerive (security : Bool) (crypto : CryptoAdapter W) (policy : SecurityPolicyId)
    (secret seed : Bytes) : StateM W (Except Fault Unit × SymKeys) := do
  let keys : SymKeys := { SymKeys.zero with policy := policy }
  let sigKeyLen := policy.signatureKeyLength security
  let encKeyLen := policy.encryptionKeyLength security
  let ivLen := policy.encryptionBlockSize security
  match ← (pSha256 crypto secret seed (sigKeyLen + encKeyLen + ivLen)).run with
  | .error e => return (.error e, keys)
  | .ok material =>
    let encKey := (material.drop sigKeyLen).take encKeyLen
    return (.ok (), { keys with
      signingKey := material.take sigKeyLen ++ keys.signingKey.drop sigKeyLen
      encryptingKey := encKey ++ keys.encryptingKey.drop encKeyLen
      iv := (material.drop (sigKeyLen + encKeyLen)).take ivLen ++ keys.iv.drop ivLen })

def symKeysReleaseCipher (crypto : CryptoAdapter W) (keys : SymKeys) : StateM W SymKeys := do
  if keys.cipherCtxValid ∧ keys.crypto then
    match crypto.cipherCtxFree with
    | some free => free keys.cipherCtx
    | none => pure ()
  return { keys with cipherCtxValid := false, crypto := false }

def symKeysPrepareCipher (crypto : CryptoAdapter W) (keys : SymKeys) : StateM W SymKeys := do
  let keys ← symKeysReleaseCipher crypto keys
  let keys := { keys with crypto := true }
  if keys.policy = .aes128Sha256RsaOaep then
    return { keys with cipherCtxValid := false }
  match crypto.cipherCtxInit with
  | none => return keys
  | some init =>
    match ← (init keys.encryptingKey).run with
    | .ok ctx => return { keys with cipherCtx := ctx, cipherCtxValid := true }
    | .error _ => return { keys with cipherCtxValid := false }

def symHeaderSize : Nat := 16
def symSigLen : Nat := 32
def symBlock : Nat := 16

def symHeader (messageType : Bytes) (secureChannelId tokenId : UInt32) (total : Nat) : Bytes :=
  messageType.take 3 ++ utf8 "F" ++ put 4 total ++ put 4 secureChannelId.toNat ++ put 4 tokenId.toNat

def symPadCount (bodyLen : Nat) : Nat :=
  (symBlock - (8 + bodyLen + 1 + symSigLen) % symBlock) % symBlock

def symChunkTotal (mode : MessageSecurityMode) (bodyLen : Nat) : Nat :=
  match mode with
  | .signAndEncrypt => symHeaderSize + (8 + bodyLen + 1 + symSigLen) + symPadCount bodyLen
  | _ => symHeaderSize + (8 + bodyLen) + symSigLen

def symEncrypt (crypto : CryptoAdapter W) (keys : SymKeys) (input : Bytes) :
    AdapterM W (Block input.length) :=
  if keys.policy = .aes128Sha256RsaOaep then
    match crypto.aes128CbcEncrypt with
    | some encrypt => encrypt (keys.encryptingKey.take 16) keys.iv input
    | none => throw .internalError
  else
    match keys.cipherCtxValid, crypto.aes256CbcEncryptCtx with
    | true, some encrypt => encrypt keys.cipherCtx keys.iv input
    | _, _ => crypto.aes256CbcEncrypt keys.encryptingKey keys.iv input

def symDecrypt (crypto : CryptoAdapter W) (keys : SymKeys) (input : Bytes) :
    AdapterM W (Block input.length) :=
  if keys.policy = .aes128Sha256RsaOaep then
    match crypto.aes128CbcDecrypt with
    | some decrypt => decrypt (keys.encryptingKey.take 16) keys.iv input
    | none => throw .internalError
  else
    match keys.cipherCtxValid, crypto.aes256CbcDecryptCtx with
    | true, some decrypt => decrypt keys.cipherCtx keys.iv input
    | _, _ => crypto.aes256CbcDecrypt keys.encryptingKey keys.iv input

def symChunkWrap (crypto : CryptoAdapter W) (mode : MessageSecurityMode) (keys : SymKeys)
    (messageType : Bytes) (secureChannelId tokenId sequenceNumber requestId : UInt32) (body : Bytes)
    (cap : Nat) : AdapterM W Bytes := do
  if mode ≠ .sign ∧ mode ≠ .signAndEncrypt then throw .securityModeRejected
  let total := symChunkTotal mode body.length
  if total > cap then throw .responseTooLarge
  let header := symHeader messageType secureChannelId tokenId total
  let seqbody := put 4 sequenceNumber.toNat ++ put 4 requestId.toNat ++ body
  if mode = .sign then
    let mac ← crypto.hmacSha256 keys.signingKey (header ++ seqbody)
    return header ++ seqbody ++ mac.1
  else
    let pad := symPadCount body.length
    let presig := seqbody ++ List.replicate (pad + 1) (UInt8.ofNat pad)
    let mac ← crypto.hmacSha256 keys.signingKey (header ++ presig)
    let cipher ← symEncrypt crypto keys (presig ++ mac.1)
    return header ++ cipher.1

structure SymChunk where
  secureChannelId : UInt32
  tokenId : UInt32
  sequenceNumber : UInt32
  requestId : UInt32
  body : Bytes

def u32At (bs : Bytes) (offset : Nat) : UInt32 :=
  UInt32.ofNat (Lib.LittleEndian.get ((bs.drop offset).take 4))

def paddingOk (signed : Bytes) (pad : Nat) : Bool :=
  ((signed.dropLast).drop (signed.length - 1 - pad)).all (fun b => b.toNat = pad)

def symVerify (crypto : CryptoAdapter W) (mode : MessageSecurityMode) (keys : SymKeys)
    (chunk : Bytes) (msgSize : Nat) (plain : Bytes) : AdapterM W SymChunk := do
  if msgSize < symHeaderSize + 8 + symSigLen then throw .decodingError
  let signedLen := msgSize - symSigLen
  let signed := plain.take signedLen
  let mac ← crypto.hmacSha256 keys.signingKey signed
  if mac.1 ≠ (plain.drop signedLen).take symSigLen then throw .securityChecksFailed
  let pad ← if mode = .signAndEncrypt then do
      let pad := (signed.getLast?.getD 0).toNat
      if signedLen < symHeaderSize + 8 + 1 + pad then throw .securityChecksFailed
      if ¬ paddingOk signed pad then throw .securityChecksFailed
      pure (pad + 1)
    else pure 0
  return ⟨u32At chunk 8, u32At chunk 12, u32At plain symHeaderSize, u32At plain (symHeaderSize + 4),
    (signed.drop (symHeaderSize + 8)).take (signedLen - symHeaderSize - pad - 8)⟩

def symChunkUnwrap (crypto : CryptoAdapter W) (mode : MessageSecurityMode) (keys : SymKeys)
    (chunk : Bytes) : AdapterM W SymChunk := do
  if chunk.length < symHeaderSize then throw .decodingError
  let msgSize := (u32At chunk 4).toNat
  if msgSize > chunk.length ∨ msgSize < symHeaderSize then throw .decodingError
  let header := chunk.take symHeaderSize
  let region := (chunk.take msgSize).drop symHeaderSize
  let plain ← if mode = .signAndEncrypt then do
      if region.length = 0 ∨ region.length % symBlock ≠ 0 then throw .decodingError
      let plain ← symDecrypt crypto keys region
      pure (header ++ plain.1)
    else if mode = .sign then pure (header ++ region)
    else throw .securityModeRejected
  symVerify crypto mode keys chunk msgSize plain

section Keys

variable {cr : CryptoAdapter W} {security : Bool} {policy : SecurityPolicyId} {keys : SymKeys} {w w' : W}

def CryptoAdapter.Fills (cr : CryptoAdapter W) (ctx : Bytes) : Prop :=
  ∃ init key w w', cr.cipherCtxInit = some init ∧ key.length = 32 ∧ (init key).run.run w = (.ok ctx, w')

/-- A key set as the derivation leaves it: fields of full size, a valid context from the adapter, and
AES-128 only where the adapter has it. -/
structure SymKeys.Ready (cr : CryptoAdapter W) (keys : SymKeys) : Prop where
  signingKey : keys.signingKey.length = 32
  encryptingKey : keys.encryptingKey.length = 32
  iv : keys.iv.length = 16
  context : keys.cipherCtxValid = true → cr.Fills keys.cipherCtx
  cipher : keys.policy = .aes128Sha256RsaOaep → cr.aes128CbcEncrypt.isSome = true

theorem SymKeys.ready_zero : SymKeys.zero.Ready cr where
  signingKey := rfl
  encryptingKey := rfl
  iv := rfl
  context := nofun
  cipher := nofun

theorem pSha256Blocks_length {secret seed a blocks : Bytes} {n : Nat}
    (h : (pSha256Blocks cr secret seed n a).run.run w = (.ok blocks, w')) : blocks.length = 32 * n := by
  induction n generalizing a w w' blocks with
  | zero =>
    obtain ⟨rfl, -⟩ := pure_returns.mp h
    rfl
  | succ n ih =>
    obtain ⟨block, w₁, -, h⟩ := bind_returns.mp h
    obtain ⟨a', w₂, -, h⟩ := bind_returns.mp h
    obtain ⟨rest, w₃, hrest, h⟩ := bind_returns.mp h
    obtain ⟨rfl, -⟩ := pure_returns.mp h
    have hblock : block.1.length = 32 := block.2
    rw [List.length_append, ih hrest, hblock]
    ring

theorem pSha256_length {secret seed material : Bytes} {n : Nat}
    (h : (pSha256 cr secret seed n).run.run w = (.ok material, w')) : material.length = n := by
  simp only [pSha256, guard_returns] at h
  obtain ⟨-, h⟩ := h
  obtain ⟨a, w₁, -, h⟩ := bind_returns.mp h
  obtain ⟨blocks, w₂, hblocks, h⟩ := bind_returns.mp h
  obtain ⟨rfl, -⟩ := pure_returns.mp h
  rw [List.length_take, pSha256Blocks_length hblocks, sha256Length]
  omega

theorem policy_lengths (security : Bool) (policy : SecurityPolicyId) :
    policy.signatureKeyLength security ≤ 32 ∧ policy.encryptionKeyLength security ≤ 32 ∧
      policy.encryptionBlockSize security ≤ 16 := by
  cases security <;> cases policy <;> decide

/-- Derived key material overwrites the front of a cleared field. -/
theorem overwritten_length {material : Bytes} {n k : Nat} (hn : n ≤ material.length) (hk : n ≤ k) :
    (material.take n ++ (List.replicate k (0 : UInt8)).drop n).length = k := by
  simp only [List.length_append, List.length_take, List.length_drop, List.length_replicate]
  omega

theorem symKeysDerive_ready (hcipher : policy = .aes128Sha256RsaOaep → cr.aes128CbcEncrypt.isSome = true)
    (secret seed : Bytes) (w : W) :
    ((symKeysDerive security cr policy secret seed).run w).1.2.Ready cr := by
  have hzero : SymKeys.Ready cr { SymKeys.zero with policy := policy } := ⟨rfl, rfl, rfl, nofun, hcipher⟩
  obtain ⟨hsig, henc, hblock⟩ := policy_lengths security policy
  simp only [symKeysDerive, run_bind]
  split
  · exact hzero
  · rename_i material hmaterial
    have hlength := pSha256_length (returns_of_fst hmaterial)
    refine ⟨overwritten_length (by omega) hsig, ?_, ?_, nofun, hcipher⟩
    · exact overwritten_length (by rw [List.length_drop]; omega) henc
    · exact overwritten_length (by rw [List.length_drop]; omega) hblock

theorem symKeysReleaseCipher_keys (cr : CryptoAdapter W) (keys : SymKeys) (w : W) :
    ((symKeysReleaseCipher cr keys).run w).1 =
      { keys with cipherCtxValid := false, crypto := false } := by
  unfold symKeysReleaseCipher
  split
  · cases cr.cipherCtxFree <;> rfl
  · rfl

theorem symKeysPrepareCipher_ready (h : keys.Ready cr) (w : W) :
    ((symKeysPrepareCipher cr keys).run w).1.Ready cr := by
  obtain ⟨hsigning, hencrypting, hiv, -, hcipher⟩ := h
  rw [symKeysPrepareCipher, run_bind, symKeysReleaseCipher_keys]
  dsimp only
  split
  · exact ⟨hsigning, hencrypting, hiv, nofun, hcipher⟩
  · cases hinit : cr.cipherCtxInit with
    | none => exact ⟨hsigning, hencrypting, hiv, nofun, hcipher⟩
    | some init =>
      dsimp only
      rw [run_bind]
      generalize ((symKeysReleaseCipher cr keys).run w).2 = u
      rcases hrun : (init keys.encryptingKey).run.run u with ⟨e | ctx, w'⟩
      · exact ⟨hsigning, hencrypting, hiv, nofun, hcipher⟩
      · exact ⟨hsigning, hencrypting, hiv, fun _ => ⟨init, _, u, w', hinit, hencrypting, hrun⟩, hcipher⟩

end Keys

end MicroOpcua
