import MicroOpcua.Encoding.Writer
import MicroOpcua.Security.Policy

namespace MicroOpcua

open Lib.StateRun

abbrev AdapterM (W : Type) := ExceptT Fault (StateM W)

def AdapterM.orElseFail {W α : Type} (m : AdapterM W α) (e : Fault) : AdapterM W α :=
  tryCatch m (fun _ => throw e)

def AdapterM.attempt {W α : Type} (m : AdapterM W α) : StateM W (Option α) := do
  return (← m.run).toOption

variable {W α : Type} {m : AdapterM W α}

theorem attempt_eq_some {w : W} {a : α} (h : (m.attempt.run w).1 = some a) :
    m.run.run w = (.ok a, (m.run.run w).2) := by
  refine returns_of_fst ?_
  change (m.run.run w).1.toOption = some a at h
  cases hm : (m.run.run w).1 with
  | error e => rw [hm] at h; cases h
  | ok a' => rw [hm] at h; rw [Option.some.inj h]

theorem attempt_eq_none {w : W} (h : (m.attempt.run w).1 = none) : ∃ e, (m.run.run w).1 = .error e := by
  change (m.run.run w).1.toOption = none at h
  cases hm : (m.run.run w).1 with
  | error e => exact ⟨e, rfl⟩
  | ok a => rw [hm] at h; cases h

theorem orElseFail_run (m : AdapterM W α) (e : Fault) (w : W) :
    (m.orElseFail e).run.run w =
      match m.run.run w with
      | (.ok a, w') => (.ok a, w')
      | (.error _, w') => (.error e, w') := by
  rw [AdapterM.orElseFail, run_tryCatch]
  obtain ⟨e | a, w'⟩ := m.run.run w <;> rfl

theorem orElseFail_returns {e : Fault} {a : α} {w w' : W} :
    (m.orElseFail e).run.run w = (.ok a, w') ↔ m.run.run w = (.ok a, w') := by
  rw [orElseFail_run]
  obtain ⟨_ | _, _⟩ := m.run.run w
  · exact ⟨nofun, nofun⟩
  · rfl

theorem orElseFail_yields {P : α → Prop} (hm : Yields P m) (e : Fault) : Yields P (m.orElseFail e) := by
  intro w
  obtain ⟨a, ha, hP⟩ := hm w
  rw [orElseFail_run, returns_of_fst ha]
  exact ⟨a, rfl, hP⟩

abbrev Block (n : Nat) := { bs : Bytes // bs.length = n }

def sha256Length : Nat := 32
def aesBlockSize : Nat := 16
def thumbprintLength : Nat := 20

/-- `mu_crypto_adapter_t`. The members the source documents as possibly NULL are optional; output
buffers have the size the interface fixes. -/
structure CryptoAdapter (W : Type) where
  hmacSha256 : (key data : Bytes) → AdapterM W (Block sha256Length)
  aes256CbcEncrypt : (key iv input : Bytes) → AdapterM W (Block input.length)
  aes256CbcDecrypt : (key iv input : Bytes) → AdapterM W (Block input.length)
  aes128CbcEncrypt : Option ((key iv input : Bytes) → AdapterM W (Block input.length))
  aes128CbcDecrypt : Option ((key iv input : Bytes) → AdapterM W (Block input.length))
  cipherCtxInit : Option ((key : Bytes) → AdapterM W Bytes)
  aes256CbcEncryptCtx : Option ((ctx iv input : Bytes) → AdapterM W (Block input.length))
  aes256CbcDecryptCtx : Option ((ctx iv input : Bytes) → AdapterM W (Block input.length))
  cipherCtxFree : Option ((ctx : Bytes) → StateM W Unit)
  rsaSha256Sign : (data : Bytes) → (cap : Nat) → AdapterM W (Encoded cap)
  rsaSha256Verify : (certificate data signature : Bytes) → AdapterM W Unit
  rsaOaepDecrypt : (input : Bytes) → (cap : Nat) → AdapterM W (Encoded cap)
  rsaOaepEncrypt : (certificate input : Bytes) → (cap : Nat) → AdapterM W (Encoded cap)
  rsaPssSha256Sign : (data : Bytes) → (cap : Nat) → AdapterM W (Encoded cap)
  rsaPssSha256Verify : (certificate data signature : Bytes) → AdapterM W Unit
  rsaOaepSha256Decrypt : (input : Bytes) → (cap : Nat) → AdapterM W (Encoded cap)
  rsaOaepSha256Encrypt : (certificate input : Bytes) → (cap : Nat) → AdapterM W (Encoded cap)
  getOwnCertificate : AdapterM W Bytes
  getCertificateKeyBits : (certificate : Bytes) → AdapterM W Nat
  getCertificateThumbprint : (certificate : Bytes) → AdapterM W (Block thumbprintLength)
  verifyCertificateValidity : Option ((certificate : Bytes) → AdapterM W Unit)

variable {W : Type}

def certificateThumbprint (crypto : CryptoAdapter W) (certificate : Bytes) :
    AdapterM W (Block thumbprintLength) := do
  if certificate = [] then throw .internalError
  crypto.getCertificateThumbprint certificate

def minAsymmetricKeyBits : Nat := 2048
def maxAsymmetricKeyBits : Nat := 4096

def certificateValidate (crypto : CryptoAdapter W) (policy : SecurityPolicyId) (certificate : Bytes) :
    AdapterM W Unit := do
  if policy = .none then return
  if policy = .invalid then throw .securityPolicyRejected
  if certificate = [] then throw .certificateInvalid
  let bits ← (crypto.getCertificateKeyBits certificate).orElseFail .certificateInvalid
  if bits < minAsymmetricKeyBits ∨ bits > maxAsymmetricKeyBits then throw .securityChecksFailed
  match crypto.verifyCertificateValidity with
  | none => throw .certificateInvalid
  | some verify => verify certificate

def CryptoAdapter.Accepted (cr : CryptoAdapter W) (cert : Bytes) : Prop :=
  ∃ policy w w', policy ≠ .none ∧ (certificateValidate cr policy cert).run.run w = (.ok (), w')

theorem certificateValidate_returns {cr : CryptoAdapter W} {policy : SecurityPolicyId}
    {cert : Bytes} {w w' : W} (hpolicy : policy ≠ .none)
    (h : (certificateValidate cr policy cert).run.run w = (.ok (), w')) :
    cert ≠ [] ∧ ∃ bits u, (cr.getCertificateKeyBits cert).run.run w = (.ok bits, u) ∧
      minAsymmetricKeyBits ≤ bits ∧ bits ≤ maxAsymmetricKeyBits := by
  simp only [certificateValidate, if_neg hpolicy, guard_returns] at h
  obtain ⟨-, hcert, h⟩ := h
  obtain ⟨bits, u, hbits, h⟩ := bind_returns.mp h
  obtain ⟨hrange, -⟩ := guard_returns.mp h
  simp only [not_or, Nat.not_lt] at hrange
  exact ⟨hcert, bits, u, orElseFail_returns.mp hbits, hrange⟩

def asymSignatureSign (security : Bool) (crypto : CryptoAdapter W) (policy : SecurityPolicyId)
    (data : Bytes) (cap : Nat) : AdapterM W (Encoded cap) :=
  if policy.usesPss security then crypto.rsaPssSha256Sign data cap else crypto.rsaSha256Sign data cap

def asymSignatureVerify (security : Bool) (crypto : CryptoAdapter W) (policy : SecurityPolicyId)
    (certificate data signature : Bytes) : AdapterM W Unit :=
  if policy.usesPss security then crypto.rsaPssSha256Verify certificate data signature
  else crypto.rsaSha256Verify certificate data signature

def trustListMatch (trustList : List Bytes) (certificate : Bytes) : Bool :=
  certificate ≠ [] && trustList.contains certificate

def kdfMaxSeed : Nat := 64

def pSha256Blocks (crypto : CryptoAdapter W) (secret seed : Bytes) : Nat → Bytes → AdapterM W Bytes
  | 0, _ => return []
  | n + 1, a => do
    let block ← crypto.hmacSha256 secret (a ++ seed)
    let a' ← crypto.hmacSha256 secret a
    return block.1 ++ (← pSha256Blocks crypto secret seed n a'.1)

def pSha256 (crypto : CryptoAdapter W) (secret seed : Bytes) (outputLength : Nat) :
    AdapterM W Bytes := do
  if seed.length > kdfMaxSeed then throw .internalError
  let a ← crypto.hmacSha256 secret seed
  let blocks ← pSha256Blocks crypto secret seed ((outputLength + sha256Length - 1) / sha256Length) a.1
  return blocks.take outputLength

end MicroOpcua
