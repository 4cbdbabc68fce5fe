import Tiai.Lib.Checked
import Tiai.Packages.Model

/-!
# Method B, on the server

`features/package/signature.py`: the signature document is parsed, and verified over the manifest.
-/

namespace Tiai.Packages

open Deploy (Bytes PublicKey)
open Lib

/-- The signature document.  What is not text is no known format or algorithm, and `str` has made a text
of the rest. -/
structure SignatureDocument where
  format : Option String
  algorithm : Option String
  signature : String
  certificate : String

structure Verified where
  algorithm : String
  signature : Bytes
  certificate : Bytes
  thumbprint : String
  subject : String

/-- `ALGORITHMS`. -/
def algorithms : List String := ["rsa-pkcs1-sha256", "ecdsa-sha256"]

variable (cfg : Settings)

/-- `thumbprint`. -/
def thumbprint (der : Bytes) : String :=
  String.ofList ((hexdigest cfg der).toList.map Char.toUpper)

/-- `_ecdsa_der`. -/
def ecdsaDer (signature : Bytes) (bitSize : ℕ) : Bytes :=
  let size := (bitSize + 7) / 8
  if signature.length = 2 * size then
    cfg.encodeDss (Deploy.setBytes (signature.take size)) (Deploy.setBytes (signature.drop size))
  else signature

/-- The end of `verify`: the key of the certificate, the algorithm, and the signature over the manifest. -/
def verifyKey (key : PublicKey) (algorithm : String) (signature manifest : Bytes) :
    Except String Unit :=
  let moved := "La signature ne correspond pas à ce manifeste — a-t-il changé depuis ?"
  match key with
  | .rsa k =>
    if algorithm ≠ "rsa-pkcs1-sha256" then
      .error "L'algorithme ne correspond pas à la clé du certificat"
    else if cfg.rsaVerify k signature manifest then .ok () else .error moved
  | .ecdsa k bitSize =>
    if algorithm ≠ "ecdsa-sha256" then .error "L'algorithme ne correspond pas à la clé du certificat"
    else if cfg.ecdsaVerify k (ecdsaDer cfg signature bitSize) manifest then .ok () else .error moved
  | .other => .error "L'algorithme ne correspond pas à la clé du certificat"

/-- `verify`. -/
def verify (manifest : Bytes) (document : SignatureDocument) : Except String Verified := do
  if document.format ≠ some "tiai-signature-1" then .error "Format de signature inconnu"
  else
    match document.algorithm.filter (· ∈ algorithms) with
    | none => .error "Algorithme de signature non pris en charge"
    | some algorithm =>
      match cfg.b64decode document.signature, cfg.b64decode document.certificate with
      | some signature, some der =>
        match cfg.loadCertificate der with
        | none => .error "Certificat illisible"
        | some cert =>
          verifyKey cfg cert.publicKey algorithm signature manifest
          return ⟨algorithm, signature, der, thumbprint cfg der, cert.subject⟩
      | _, _ => .error "Signature ou certificat mal encodés"

/-- A signature, as stored, verifies over a manifest. -/
def verifies (algorithm : String) (signature certificate manifest : Bytes) : Bool :=
  match cfg.loadCertificate certificate with
  | none => false
  | some cert => (verifyKey cfg cert.publicKey algorithm signature manifest).isOk

variable {cfg}

/-- **What `verify` lets through verifies.** -/
theorem verify_verifies {manifest : Bytes} {document : SignatureDocument} {v : Verified}
    (h : verify cfg manifest document = .ok v) :
    verifies cfg v.algorithm v.signature v.certificate manifest = true := by
  unfold verify at h
  split at h
  · cases h
  split at h
  · cases h
  split at h
  · split at h
    · cases h
    · rename_i cert hcert
      obtain ⟨⟨⟩, hkey, h⟩ := bind_eq_ok h
      obtain rfl := Except.ok.inj h
      simp only [verifies, hcert, hkey]
      rfl
  · cases h

end Tiai.Packages
