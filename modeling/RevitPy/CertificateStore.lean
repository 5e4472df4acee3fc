import RevitPy.JsonText
import RevitPy.JsonValues
import RevitPy.PackageSigning

/-!
# Certificates

A store keeps certificates and revocations in files. A signature carries the
certificate of its signer, which is followed from issuer to issuer through the CA
certificates of the store. What parses certificates and checks their signatures is
outside, and so is the order in which a directory lists its files.
-/

namespace RevitPy.Certificates
open Bytes Signing

/-- A distinguished name, as its attributes. -/
structure Name where
  attributes : List (String × String)
  deriving DecidableEq

/-- The fields of a certificate that are read, besides what its signature covers.
    `digital_signature` and `code_signing` are what the two key usage extensions allow,
    where there are any. -/
structure Certificate (κ : Type) where
  subject : Name
  issuer : Name
  serial_number : Int
  not_valid_before : Int
  not_valid_after : Int
  digital_signature : Option Bool
  code_signing : Option Bool
  public_key : κ

inductive KeyType
  | ed25519
  | rsa
  | other
  deriving DecidableEq

/-- What is used of `cryptography` and `hashlib`. Whatever is raised has a text. -/
structure Cryptography (κ : Type) where
  load_pem_x509_certificate : Bytes → Except String (Certificate κ)
  /-- As DER. -/
  public_bytes : Certificate κ → Bytes
  rfc4514_string : Name → String
  key_type : κ → KeyType
  /-- Of a certificate's signature with the key of its issuer. -/
  verify_certificate : κ → Certificate κ → Except String Unit
  verify : κ → Bytes → Bytes → Except String Unit
  /-- With PSS padding. -/
  verify_pss : κ → Bytes → Bytes → Except String Unit
  sha256 : Bytes → Bytes

/-- `hashlib.sha256(data).hexdigest()` -/
def Cryptography.hexdigest {κ : Type} (crypto : Cryptography κ) (data : Bytes) : String := String.ofList (hex (crypto.sha256 data))

/-- Get SHA-256 fingerprint of a certificate. -/
def Cryptography.get_certificate_fingerprint {κ : Type} (crypto : Cryptography κ) (cert : Certificate κ) : String :=
  crypto.hexdigest (crypto.public_bytes cert)

/-- A Certificate Revocation List. -/
structure Crl where
  issuer : Name
  serial_numbers : List Int

/-- An alias that can be part of a file name. -/
structure Alias where
  text : String
  plain : '/' ∉ text.toList

/-- The directories of a store, by the names of their files. A list that cannot be
    parsed is `none`. -/
structure CertificateStore (κ : Type) where
  ca_certs : Dict String (Certificate κ) := ∅
  trusted_certs : Dict String (Certificate κ) := ∅
  /-- The reasons. -/
  revoked_certs : Dict String String := ∅
  crls : List (Option Crl) := []

namespace CertificateStore
variable {κ : Type} (store : CertificateStore κ) (crypto : Cryptography κ)

/-- Add a CA certificate to the trust store. -/
def add_ca_certificate (cert : Certificate κ) («alias» : Alias) : String × CertificateStore κ :=
  let cert_fingerprint := crypto.get_certificate_fingerprint cert
  (cert_fingerprint, { store with ca_certs := store.ca_certs.set («alias».text ++ "_" ++ cert_fingerprint ++ ".pem") cert })

/-- Add a trusted certificate to the store. -/
def add_trusted_certificate (cert : Certificate κ) («alias» : Alias) : String × CertificateStore κ :=
  let cert_fingerprint := crypto.get_certificate_fingerprint cert
  (cert_fingerprint, { store with trusted_certs := store.trusted_certs.set («alias».text ++ "_" ++ cert_fingerprint ++ ".pem") cert })

/-- Add a certificate to the local revocation list. -/
def revoke_certificate (cert : Certificate κ) (reason : String) : CertificateStore κ :=
  { store with revoked_certs := store.revoked_certs.set (crypto.get_certificate_fingerprint cert ++ ".revoked") reason }

/-- Check if certificate is revoked using downloaded CRLs. -/
def check_crl_revocation (cert : Certificate κ) : Bool := store.crls.any fun crl => match crl with
  | none => false
  | some crl => crypto.rfc4514_string crl.issuer = crypto.rfc4514_string cert.issuer && crl.serial_numbers.contains cert.serial_number

/-- Check if a certificate is revoked. -/
def is_certificate_revoked (cert : Certificate κ) : Bool :=
  store.revoked_certs.contains (crypto.get_certificate_fingerprint cert ++ ".revoked") || store.check_crl_revocation crypto cert

end CertificateStore

/-- The order in which a directory lists its files. -/
structure Listing (κ : Type) where
  glob : Dict String (Certificate κ) → List (Certificate κ)
  perm : ∀ files, (glob files).Perm files.values

inductive CertificateException
  | validation (message : String)
  | revocation (message : String)
  | recursion

/-! ## Signatures -/

mutual

/-- The value with the members of its objects in the order of their names. -/
def sortKeys : Json → Json
  | .arr items => .arr (sortItems items)
  | .obj members => .obj ((sortMembers members).insertionSort fun a b => a.1 ≤ b.1)
  | value => value

def sortItems : List Json → List Json
  | [] => []
  | item :: items => sortKeys item :: sortItems items

def sortMembers : List (String × Json) → List (String × Json)
  | [] => []
  | (name, value) :: members => (name, sortKeys value) :: sortMembers members

end

/-- `bool(value)` -/
def truthy : Json → Bool
  | .null => false
  | .bool value => value
  | .number literal => (Json.decimal literal).1 ≠ 0
  | .str value => value ≠ ""
  | .arr items => !items.isEmpty
  | .obj members => !members.isEmpty

/-- The signer with what it runs on: how many frames are left for a recursion, and what
    Python's version of Unicode counts as printable. -/
structure X509PackageSigner (κ : Type) where
  crypto : Cryptography κ
  listing : Listing κ
  recursion_limit : Nat
  printable : Char → Bool

namespace X509PackageSigner
variable {κ : Type} (self : X509PackageSigner κ) (store : CertificateStore κ)

/-- Get all CA certificates from the store. -/
def get_ca_certificates : List (Certificate κ) := self.listing.glob store.ca_certs

/-- Verify certificate chain against trusted CA certificates. -/
def verify_certificate_chain : Nat → Certificate κ → Except CertificateException Unit
  | 0, _ => .error .recursion
  | frames + 1, certificate =>
    match (self.get_ca_certificates store).find? fun ca_cert => ca_cert.subject = certificate.issuer with
    | none => .error (.validation "Certificate issuer not found in trusted CA store")
    | some issuer_cert => match self.crypto.verify_certificate issuer_cert.public_key certificate with
      | .error e => .error (.validation ("Certificate signature verification failed: " ++ e))
      | .ok () => if issuer_cert.issuer ≠ issuer_cert.subject then verify_certificate_chain frames issuer_cert else .ok ()

/-- Validate certificate for code signing. -/
def validate_certificate (now : Int) (certificate : Certificate κ) : Except CertificateException Unit :=
  if now < certificate.not_valid_before then .error (.validation "Certificate is not yet valid")
  else if now > certificate.not_valid_after then .error (.validation "Certificate has expired")
  else if store.is_certificate_revoked self.crypto certificate then .error (.revocation "Certificate has been revoked")
  else if certificate.digital_signature = some false then .error (.validation "Certificate does not allow digital signatures")
  else if certificate.code_signing = some false then .error (.validation "Certificate is not valid for code signing")
  else if certificate.issuer ≠ certificate.subject then self.verify_certificate_chain store self.recursion_limit certificate
  else .ok ()

/-- `base64.b64decode(signature_info[key])` -/
def decoded (signature_info : Dict String Json) (key : String) : Except String Bytes := match signature_info.get? key with
  | none => .error ("'" ++ key ++ "'")
  | some value => b64decoded value

/-- The certificate that a signature carries. -/
def load_certificate (signature_info : Dict String Json) : Except String (Certificate κ) :=
  (decoded signature_info "certificate").bind self.crypto.load_pem_x509_certificate

/-- `json.dumps(signature_info.get("metadata", {}), sort_keys=True)`, hashed. -/
def metadata_hash (signature_info : Dict String Json) : String :=
  self.crypto.hexdigest (encode (Json.dumps (sortKeys (signature_info.getD "metadata" (.obj [])))))

/-- `str(algorithm)` -/
def shown : Json → String
  | .str text => text
  | value => String.ofList (Python.repr self.printable value)

/-- The signature under the key of the certificate, or why it is refused. -/
def verify_signature (public_key : κ) (algorithm : Json) (signature sign_data : Bytes) : Except String Unit :=
  if Json.isStr "Ed25519" algorithm ∧ self.crypto.key_type public_key = .ed25519 then
    (self.crypto.verify public_key signature sign_data).mapError fun e => "Signature verification failed: " ++ e
  else if Json.isStr "RSA-PSS" algorithm ∧ self.crypto.key_type public_key = .rsa then
    (self.crypto.verify_pss public_key signature sign_data).mapError fun e => "Signature verification failed: " ++ e
  else .error ("Unsupported algorithm or key type: " ++ self.shown algorithm)

/-- Verify a timestamp. -/
def verify_timestamp (data : Bytes) : Json → Bool
  | .obj timestamp_info => (Json.get? timestamp_info "data_hash").any (Json.isStr (self.crypto.hexdigest data))
  | _ => false

/-- What is checked behind the certificate, and the message of a refusal. -/
def verify_contents (package_data : Bytes) (signature_info : Dict String Json) (certificate : Certificate κ) : Except String Unit :=
  let package_hash := self.crypto.hexdigest package_data
  if !PackageSignatureManager.holds signature_info "package_hash" package_hash then
    .error "Package hash mismatch - file may have been tampered with"
  else
    let metadata_hash := self.metadata_hash signature_info
    if !PackageSignatureManager.holds signature_info "metadata_hash" metadata_hash then .error "Metadata hash mismatch"
    else
      let sign_data := encode (package_hash ++ ":" ++ metadata_hash).toList
      match decoded signature_info "signature" with
      | .error e => .error ("Signature verification error: " ++ e)
      | .ok signature =>
        match self.verify_signature certificate.public_key (signature_info.getD "algorithm" (.str "RSA-PSS")) signature sign_data with
        | .error message => .error message
        | .ok () =>
          let timestamp := signature_info.getD "timestamp" .null
          if truthy timestamp && !self.verify_timestamp sign_data timestamp then .error "Timestamp verification failed" else .ok ()

/-- Verify a package signature using X.509 certificate. -/
def verify_package_signature (now : Int) (package_data : Bytes) (signature_info : Dict String Json) : Bool × Option String :=
  match self.load_certificate signature_info with
  | .error e => (false, some ("Signature verification error: " ++ e))
  | .ok certificate => match self.validate_certificate store now certificate with
    | .error (.validation message) => (false, some message)
    | .error (.revocation message) => (false, some message)
    | .error .recursion => (false, some "Signature verification error: maximum recursion depth exceeded")
    | .ok () => match self.verify_contents package_data signature_info certificate with
      | .error message => (false, some message)
      | .ok () => (true, none)

end X509PackageSigner

end RevitPy.Certificates
