import MicroOpcua.Security.SymChunk

namespace MicroOpcua

open Lib.LittleEndian

def oaepSha1Overhead : Nat := 42
def oaepSha256Overhead : Nat := 66
def asymMaxPlaintext : Nat := 2048
def asymSignedInputMax : Nat := 4096
def asymScratch : Nat := 512

variable {W : Type}

def keyBytes (crypto : CryptoAdapter W) (certificate : Bytes) : AdapterM W Nat := do
  let bits ← (crypto.getCertificateKeyBits certificate).orElseFail .certificateInvalid
  if bits = 0 then throw .certificateInvalid
  if bits / 8 ≤ oaepSha1Overhead then throw .certificateInvalid
  return bits / 8

def writeOpnHeader {cap : Nat} (uri : Bytes) (secureChannelId : UInt32)
    (senderCert receiverThumbprint : MuString) : WriteM cap Unit := do
  writeBytes (utf8 "OPNF")
  writeUInt32 0
  writeUInt32 secureChannelId
  writeString (some uri)
  writeBytestring senderCert
  writeBytestring receiverThumbprint

def patchMessageSize (chunk : Bytes) (total : Nat) : Bytes :=
  chunk.take 4 ++ put 4 total ++ chunk.drop 8

def wrapNone (secureChannelId sequenceNumber requestId : UInt32) (body : Bytes) (cap : Nat) :
    Except Fault Bytes := do
  let m : WriteM cap Unit := do
    writeOpnHeader SecurityPolicyId.noneUri secureChannelId none none
    writeUInt32 sequenceNumber
    writeUInt32 requestId
  let framed ← m.encode
  if framed.1.length + body.length > cap then throw .responseTooLarge
  return patchMessageSize (framed.1 ++ body) (framed.1.length + body.length)

def oaepEncrypt (crypto : CryptoAdapter W) (policy : SecurityPolicyId)
    (receiverCert input : Bytes) (cap : Nat) : AdapterM W (Encoded cap) :=
  if policy = .aes256Sha256RsaPss then crypto.rsaOaepSha256Encrypt receiverCert input cap
  else crypto.rsaOaepEncrypt receiverCert input cap

def chunkSign (crypto : CryptoAdapter W) (policy : SecurityPolicyId) (data : Bytes) :
    AdapterM W (Encoded asymScratch) :=
  if policy = .aes256Sha256RsaPss then crypto.rsaPssSha256Sign data asymScratch
  else crypto.rsaSha256Sign data asymScratch

def encryptBlocks (crypto : CryptoAdapter W) (policy : SecurityPolicyId) (receiverCert : Bytes)
    (plainBlock cipherBlock : Nat) : Nat → Bytes → AdapterM W Bytes
  | 0, _ => return []
  | n + 1, plain => do
    let out ← oaepEncrypt crypto policy receiverCert (plain.take plainBlock) cipherBlock
    if out.1.length ≠ cipherBlock then throw .internalError
    return out.1 ++
      (← encryptBlocks crypto policy receiverCert plainBlock cipherBlock n (plain.drop plainBlock))

/-- What the sizes of a wrapped OPN chunk depend on: `sig_len`, `recv_key_bytes`, the policy's OAEP
overhead and the body length. -/
structure AsymSizes where
  sigLen : Nat
  recvKeyBytes : Nat
  overhead : Nat
  bodyLen : Nat

namespace AsymSizes

def plainBlock (z : AsymSizes) : Nat := z.recvKeyBytes - z.overhead

def base (z : AsymSizes) : Nat := 8 + z.bodyLen + 1 + z.sigLen

def padCount (z : AsymSizes) : Nat := (z.plainBlock - z.base % z.plainBlock) % z.plainBlock

def encLen (z : AsymSizes) : Nat := z.base + z.padCount

def presigLen (z : AsymSizes) : Nat := 8 + z.bodyLen + 1 + z.padCount

def blocks (z : AsymSizes) : Nat := z.encLen / z.plainBlock

end AsymSizes

def oaepOverhead (policy : SecurityPolicyId) : Nat :=
  if policy = .aes256Sha256RsaPss then oaepSha256Overhead else oaepSha1Overhead

/-- The size checks of `mu_asym_chunk_wrap`. A modulus below the overhead wraps `plain_block` around,
and the first test then rejects. -/
def asymSizeCheck (z : AsymSizes) (hdrLen cap : Nat) : Except Fault Unit := do
  if z.recvKeyBytes ≤ z.overhead ∨ z.encLen > asymMaxPlaintext then throw .requestTooLarge
  if hdrLen + z.presigLen > asymSignedInputMax then throw .requestTooLarge
  if hdrLen + z.blocks * z.recvKeyBytes > cap then throw .responseTooLarge
  if z.sigLen > asymScratch then throw .internalError

def asymSeal (crypto : CryptoAdapter W) (policy : SecurityPolicyId) (receiverCert header : Bytes)
    (z : AsymSizes) (sequenceNumber requestId : UInt32) (body : Bytes) (cap : Nat) :
    AdapterM W Bytes := do
  liftM (asymSizeCheck z header.length cap)
  let patched := patchMessageSize header (header.length + z.blocks * z.recvKeyBytes)
  let presig := put 4 sequenceNumber.toNat ++ put 4 requestId.toNat ++ body ++
    List.replicate (z.padCount + 1) (UInt8.ofNat z.padCount)
  let sig ← chunkSign crypto policy (patched ++ presig)
  if sig.1.length ≠ z.sigLen then throw .internalError
  let cipher ← encryptBlocks crypto policy receiverCert z.plainBlock z.recvKeyBytes z.blocks
    (presig ++ sig.1)
  return patched ++ cipher

def asymHeader (security : Bool) (policy : SecurityPolicyId) (secureChannelId : UInt32)
    (senderCert receiverThumbprint : Bytes) (cap : Nat) : Except Fault (Encoded cap) :=
  match policy.uri security with
  | none => .error .securityPolicyRejected
  | some uri => (writeOpnHeader uri secureChannelId (some senderCert) (some receiverThumbprint)).encode

def asymChunkWrap (security : Bool) (crypto : CryptoAdapter W) (policy : SecurityPolicyId)
    (secureChannelId sequenceNumber requestId : UInt32) (receiverCert : Bytes) (body : Bytes)
    (cap : Nat) : AdapterM W Bytes := do
  if policy = .none then
    return ← liftM (wrapNone secureChannelId sequenceNumber requestId body cap)
  if policy = .invalid then throw .securityPolicyRejected
  if receiverCert = [] then throw .internalError
  let senderCert ← crypto.getOwnCertificate
  let sigLen ← keyBytes crypto senderCert
  let recvKeyBytes ← keyBytes crypto receiverCert
  let thumb ← certificateThumbprint crypto receiverCert
  let header ← liftM (asymHeader security policy secureChannelId senderCert thumb.1 cap)
  asymSeal crypto policy receiverCert header.1 ⟨sigLen, recvKeyBytes, oaepOverhead policy, body.length⟩
    sequenceNumber requestId body cap

structure AsymChunk where
  policy : SecurityPolicyId
  secureChannelId : UInt32
  sequenceNumber : UInt32
  requestId : UInt32
  senderCert : Bytes
  body : Bytes

def decryptBlocks (crypto : CryptoAdapter W) (policy : SecurityPolicyId) (blockSize : Nat) :
    Nat → Bytes → Bytes → AdapterM W Bytes
  | 0, _, plain => return plain
  | n + 1, cipher, plain => do
    let cap := asymMaxPlaintext - plain.length
    let out ← (if policy = .aes256Sha256RsaPss
      then crypto.rsaOaepSha256Decrypt (cipher.take blockSize) cap
      else crypto.rsaOaepDecrypt (cipher.take blockSize) cap).orElseFail .securityChecksFailed
    decryptBlocks crypto policy blockSize n (cipher.drop blockSize) (plain ++ out.1)

def readOpnHeader : ReadM (UInt32 × MuString × MuString × MuString × Nat) := do
  skipBytes 8
  let secureChannelId ← readUInt32
  let policyUri ← readString
  let senderCert ← readBytestring
  let receiverThumb ← readBytestring
  return (secureChannelId, policyUri, senderCert, receiverThumb, (← get).position)

def asymDecryptVerify (crypto : CryptoAdapter W) (policy : SecurityPolicyId) (chunk senderCert : Bytes)
    (receiverThumb : MuString) (hdrLen : Nat) : AdapterM W Bytes := do
  certificateValidate crypto policy senderCert
  let ownCert ← crypto.getOwnCertificate
  let ownThumb ← certificateThumbprint crypto ownCert
  if receiverThumb ≠ some ownThumb.1 then throw .securityChecksFailed
  let ownKeyBytes ← keyBytes crypto ownCert
  let sigLen ← keyBytes crypto senderCert
  let cipher := chunk.drop hdrLen
  if cipher.length = 0 ∨ cipher.length % ownKeyBytes ≠ 0 then throw .decodingError
  let plain ← decryptBlocks crypto policy ownKeyBytes (cipher.length / ownKeyBytes) cipher []
  if plain.length < sigLen + 1 + 8 then throw .securityChecksFailed
  let signed := plain.take (plain.length - sigLen)
  if hdrLen + signed.length > asymSignedInputMax then throw .securityChecksFailed
  let toVerify := chunk.take hdrLen ++ signed
  let signature := plain.drop (plain.length - sigLen)
  (if policy = .aes256Sha256RsaPss
    then crypto.rsaPssSha256Verify senderCert toVerify signature
    else crypto.rsaSha256Verify senderCert toVerify signature).orElseFail .securityChecksFailed
  return signed

def asymStrip (policy : SecurityPolicyId) (channelId : UInt32) (senderCert signed : Bytes) (cap : Nat) :
    AdapterM W AsymChunk := do
  let pad := (signed.getLast?.getD 0).toNat
  if signed.length < pad + 1 + 8 then throw .securityChecksFailed
  if ¬ paddingOk signed pad then throw .securityChecksFailed
  let body := (signed.take (signed.length - 1 - pad)).drop 8
  if body.length > cap then throw .responseTooLarge
  return ⟨policy, channelId, u32At signed 0, u32At signed 4, senderCert, body⟩

def asymChunkUnwrap (security : Bool) (crypto : CryptoAdapter W) (chunk : Bytes) (cap : Nat) :
    AdapterM W AsymChunk := do
  if chunk.length < 12 ∨ chunk.take 3 ≠ utf8 "OPN" then throw .decodingError
  let msgSize := (u32At chunk 4).toNat
  if msgSize > chunk.length then throw .decodingError
  let chunk := chunk.take msgSize
  let (secureChannelId, policyUri, senderCert, receiverThumb, hdrLen) ← liftM
    (readOpnHeader.decode chunk)
  let policy := SecurityPolicyId.fromUri security (policyUri.getD [])
  let senderCert := senderCert.getD []
  if policy = .none then
    if hdrLen + 8 > msgSize then throw .decodingError
    let body := chunk.drop (hdrLen + 8)
    if body.length > cap then throw .responseTooLarge
    return ⟨policy, secureChannelId, u32At chunk hdrLen, u32At chunk (hdrLen + 4), senderCert, body⟩
  if policy = .invalid then throw .securityPolicyRejected
  let signed ← asymDecryptVerify crypto policy chunk senderCert receiverThumb hdrLen
  asymStrip policy secureChannelId senderCert signed cap

end MicroOpcua
