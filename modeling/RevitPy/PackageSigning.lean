import Mathlib.Data.Finset.Basic
import Mathlib.Data.List.Sort
import Mathlib.Data.String.Basic
import RevitPy.ByteTexts
import RevitPy.Dict
import RevitPy.PythonRepr

/-!
# Signing of packages

What is signed are the hashes of a package and of its metadata, of which Python's `str`
writes the text. A signature is kept with the hashes and the metadata.
-/

namespace RevitPy.Signing
open Bytes

/-! ## Keys -/

/-- What the signer uses of `cryptography` and `hashlib`. The keys are of every kind; signing and
    verifying raise for a key of another kind. -/
structure Cryptography (κ π : Type) where
  load_pem_private_key : Bytes → Option Bytes → Except String κ
  load_pem_public_key : Bytes → Except String π
  public_key : κ → π
  /-- As PEM, with the `SubjectPublicKeyInfo`. -/
  public_bytes : π → Bytes
  sign : κ → Bytes → Except String Bytes
  verify : π → Bytes → Bytes → Except String Unit
  /-- With PSS padding. -/
  sign_pss : κ → Bytes → Except String Bytes
  verify_pss : π → Bytes → Bytes → Except String Unit
  sha256 : Bytes → Bytes

/-- `SUPPORTED_ALGORITHMS` -/
inductive Algorithm
  | ed25519
  | rsa_pss

def Algorithm.name : Algorithm → String
  | .ed25519 => "Ed25519"
  | .rsa_pss => "RSA-PSS"

structure PackageSigner (κ π : Type) where
  algorithm : Algorithm
  crypto : Cryptography κ π

namespace PackageSigner
variable {κ π : Type} (self : PackageSigner κ π)

def load_private_key (key_data : Bytes) (passphrase : Option String) : Except String κ :=
  self.crypto.load_pem_private_key key_data ((passphrase.filter fun text => text ≠ "").map fun text => encode text.toList)

def load_public_key (key_data : Bytes) : Except String π := self.crypto.load_pem_public_key key_data

def sign_data (data : Bytes) (private_key : κ) : Except String Bytes := match self.algorithm with
  | .ed25519 => self.crypto.sign private_key data
  | .rsa_pss => self.crypto.sign_pss private_key data

/-- Whatever is raised counts as a refusal. -/
def verify_signature (data signature : Bytes) (public_key : π) : Bool := match self.algorithm with
  | .ed25519 => (self.crypto.verify public_key signature data).isOk
  | .rsa_pss => (self.crypto.verify_pss public_key signature data).isOk

/-- `hashlib.sha256(data).hexdigest()` -/
def hexdigest (data : Bytes) : String := String.ofList (hex (self.crypto.sha256 data))

def get_public_key_fingerprint (public_key : Bytes) : String := self.hexdigest public_key

end PackageSigner

/-! ## Packages -/

/-- The name of a value's class in Python. -/
def className : Json → String
  | .null => "NoneType"
  | .bool _ => "bool"
  | .number literal => if literal.toList.all fun c => c.isDigit || c = '-' then "int" else "float"
  | .str _ => "str"
  | .arr _ => "list"
  | .obj _ => "dict"

/-- `value.items()` -/
def items : Json → Except String (List (String × Json))
  | .obj members => .ok members
  | value => .error ("'" ++ className value ++ "' object has no attribute 'items'")

/-- `base64.b64decode(value)` -/
def b64decoded : Json → Except String Bytes
  | .str text => b64decode text.toList
  | value => .error ("argument should be a bytes-like object or ASCII string, not '" ++ className value ++ "'")

/-- `printable` is what Python's version of Unicode counts as such. -/
structure PackageSignatureManager (κ π : Type) where
  signer : PackageSigner κ π
  printable : Char → Bool

namespace PackageSignatureManager
variable {κ π : Type} (self : PackageSignatureManager κ π)

/-- `str(sorted(members))`: no two have one name, so that the values are not compared. -/
def metadata_str (members : List (String × Json)) : List Char :=
  Python.strItems self.printable (members.insertionSort fun a b => a.1 ≤ b.1)

def metadata_hash (members : List (String × Json)) : String := self.signer.hexdigest (encode (self.metadata_str members))

def sign_data (package_hash metadata_hash : String) : Bytes := encode (package_hash ++ ":" ++ metadata_hash).toList

/-- What `sign_package` returns. -/
def signature_info (signature : Bytes) (public_key_fingerprint package_hash metadata_hash signed_at : String) (metadata : Dict String Json) :
    Dict String Json where
  entries := [("algorithm", .str self.signer.algorithm.name), ("signature", .str (String.ofList (b64encode signature))),
    ("public_key_fingerprint", .str public_key_fingerprint), ("package_hash", .str package_hash), ("metadata_hash", .str metadata_hash),
    ("signed_at", .str signed_at), ("metadata", .obj metadata.entries)]
  nodup := by simp

/-- `private_key_pem` is what the file of the private key holds, and `signed_at` the time. -/
def sign_package (package_data private_key_pem : Bytes) (passphrase : Option String) (metadata : Option (Dict String Json)) (signed_at : String) :
    Except String (Dict String Json) := do
  let private_key ← self.signer.load_private_key private_key_pem passphrase
  let public_key_pem := self.signer.crypto.public_bytes (self.signer.crypto.public_key private_key)
  let public_key_fingerprint := self.signer.get_public_key_fingerprint public_key_pem
  let package_hash := self.signer.hexdigest package_data
  let metadata := metadata.getD ∅
  let metadata_hash := self.metadata_hash metadata.entries
  let signature ← self.signer.sign_data (sign_data package_hash metadata_hash) private_key
  return self.signature_info signature public_key_fingerprint package_hash metadata_hash signed_at metadata

/-- `str(signature_info.get(key))` -/
def shown : Option Json → String
  | none => "None"
  | some (.str text) => text
  | some value => String.ofList (Python.repr self.printable value)

/-- `trusted_fingerprints and fingerprint not in trusted_fingerprints` -/
def untrusted (trusted_fingerprints : Option (Finset String)) (fingerprint : String) : Bool :=
  trusted_fingerprints.any fun trusted => trusted.Nonempty && fingerprint ∉ trusted

/-- `signature_info.get(key) == text` -/
def holds (signature_info : Dict String Json) (key text : String) : Bool := (signature_info.get? key).any (Json.isStr text)

/-- What is checked of the metadata and of the signature, behind the hash of the package. -/
def verify_metadata (package_hash : String) (signature_info : Dict String Json) (public_key : Bytes) : Except String (Bool × Option String) := do
  let members ← items (signature_info.getD "metadata" (.obj []))
  let metadata_hash := self.metadata_hash members
  if holds signature_info "metadata_hash" metadata_hash then
    let signature ← match signature_info.get? "signature" with
      | none => .error "'signature'"
      | some value => b64decoded value
    let public_key_obj ← self.signer.load_public_key public_key
    if self.signer.verify_signature (sign_data package_hash metadata_hash) signature public_key_obj then return (true, none)
    else return (false, some "Signature verification failed")
  else return (false, some "Metadata hash mismatch")

/-- `except Exception as e` -/
def caught : Except String (Bool × Option String) → Bool × Option String
  | .ok verdict => verdict
  | .error e => (false, some ("Signature verification error: " ++ e))

def verify_package_signature (package_data : Bytes) (signature_info : Dict String Json) (public_key : Bytes)
    (trusted_fingerprints : Option (Finset String)) : Bool × Option String :=
  let fingerprint := self.signer.get_public_key_fingerprint public_key
  let package_hash := self.signer.hexdigest package_data
  if untrusted trusted_fingerprints fingerprint then (false, some ("Public key fingerprint " ++ fingerprint ++ " is not trusted"))
  else if !holds signature_info "algorithm" self.signer.algorithm.name then
    (false, some ("Algorithm mismatch: expected " ++ self.signer.algorithm.name ++ ", got " ++ self.shown (signature_info.get? "algorithm")))
  else if !holds signature_info "public_key_fingerprint" fingerprint then (false, some "Public key fingerprint mismatch")
  else if !holds signature_info "package_hash" package_hash then (false, some "Package hash mismatch - file may have been tampered with")
  else caught (self.verify_metadata package_hash signature_info public_key)

end PackageSignatureManager
end RevitPy.Signing
