import MicroOpcua.Encoding.Types

namespace MicroOpcua

inductive SecurityPolicyId where
  | invalid
  | none
  | basic256Sha256
  | aes128Sha256RsaOaep
  | aes256Sha256RsaPss
deriving DecidableEq

inductive MessageSecurityMode where
  | invalid
  | none
  | sign
  | signAndEncrypt
deriving DecidableEq

def MessageSecurityMode.ofUInt32 (v : UInt32) : MessageSecurityMode :=
  if v = 1 then .none else if v = 2 then .sign else if v = 3 then .signAndEncrypt else .invalid

namespace SecurityPolicyId

structure Params where
  id : SecurityPolicyId
  uri : Bytes
  sigKeyLen : Nat
  encKeyLen : Nat
  blockSize : Nat
  allowsUsername : Bool

def noneUri : Bytes := utf8 "http://opcfoundation.org/UA/SecurityPolicy#None"

def table (security : Bool) : List Params :=
  ⟨.none, noneUri, 0, 0, 0, false⟩ ::
  if security then
    [⟨.basic256Sha256, utf8 "http://opcfoundation.org/UA/SecurityPolicy#Basic256Sha256",
      32, 32, 16, true⟩,
     ⟨.aes128Sha256RsaOaep, utf8 "http://opcfoundation.org/UA/SecurityPolicy#Aes128_Sha256_RsaOaep",
       32, 16, 16, true⟩,
     ⟨.aes256Sha256RsaPss, utf8 "http://opcfoundation.org/UA/SecurityPolicy#Aes256_Sha256_RsaPss",
       32, 32, 16, true⟩]
  else []

def row (security : Bool) (id : SecurityPolicyId) : Option Params :=
  (table security).find? (fun p => p.id = id)

/-- `mu_security_policy_from_uri`: an absent URI means None, an unknown one is invalid. -/
def fromUri (security : Bool) (uri : Bytes) : SecurityPolicyId :=
  if uri = [] then .none
  else (((table security).find? (fun p => p.uri = uri)).map Params.id).getD .invalid

def uri (security : Bool) (id : SecurityPolicyId) : Option Bytes := (row security id).map Params.uri

def signatureKeyLength (security : Bool) (id : SecurityPolicyId) : Nat :=
  ((row security id).map Params.sigKeyLen).getD 0

def encryptionKeyLength (security : Bool) (id : SecurityPolicyId) : Nat :=
  ((row security id).map Params.encKeyLen).getD 0

def encryptionBlockSize (security : Bool) (id : SecurityPolicyId) : Nat :=
  ((row security id).map Params.blockSize).getD 0

def allowsUsernamePasswordTokens (security : Bool) (id : SecurityPolicyId) : Bool :=
  ((row security id).map Params.allowsUsername).getD false

def asymSignatureUri (security : Bool) : SecurityPolicyId → Option Bytes
  | .basic256Sha256 | .aes128Sha256RsaOaep =>
    if security then some (utf8 "http://www.w3.org/2001/04/xmldsig-more#rsa-sha256") else Option.none
  | .aes256Sha256RsaPss =>
    if security then some (utf8 "http://opcfoundation.org/UA/security/rsa-pss-sha2-256") else Option.none
  | _ => Option.none

def usesPss (security : Bool) (id : SecurityPolicyId) : Bool := security && id = .aes256Sha256RsaPss

def secured (id : SecurityPolicyId) : Bool := id ≠ .none ∧ id ≠ .invalid

end SecurityPolicyId

end MicroOpcua
