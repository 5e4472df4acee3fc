import RevitPy.CertificateStore

/-!
# Revocation

Only the certificate that a signature carries is looked up among the revoked ones. The
way from issuer to issuer leads through revoked CA certificates as through others, so a
revocation of one of them takes effect only where something else refuses the signature.
-/

namespace RevitPy.Certificates
open Bytes Signing

inductive StoreCall (κ : Type)
  | add_ca_certificate (cert : Certificate κ) («alias» : Alias)
  | add_trusted_certificate (cert : Certificate κ) («alias» : Alias)
  | revoke_certificate (cert : Certificate κ) (reason : String)

variable {κ : Type}

namespace CertificateStore

def call (crypto : Cryptography κ) (store : CertificateStore κ) : StoreCall κ → CertificateStore κ
  | .add_ca_certificate cert «alias» => (store.add_ca_certificate crypto cert «alias»).2
  | .add_trusted_certificate cert «alias» => (store.add_trusted_certificate crypto cert «alias»).2
  | .revoke_certificate cert reason => store.revoke_certificate crypto cert reason

def run (crypto : Cryptography κ) (calls : List (StoreCall κ)) (store : CertificateStore κ) : CertificateStore κ :=
  calls.foldl (call crypto) store

/-- The certificate was revoked at the start, or one with its fingerprint is in a call. -/
def RevokedBy (crypto : Cryptography κ) (start : CertificateStore κ) (calls : List (StoreCall κ)) (cert : Certificate κ) : Prop :=
  start.is_certificate_revoked crypto cert = true ∨ ∃ revoked reason, .revoke_certificate revoked reason ∈ calls ∧
    crypto.get_certificate_fingerprint revoked = crypto.get_certificate_fingerprint cert

variable {crypto : Cryptography κ} {store : CertificateStore κ}

theorem revoked_revoke_certificate (cert revoked : Certificate κ) (reason : String) :
    (store.revoke_certificate crypto revoked reason).is_certificate_revoked crypto cert = true ↔
      crypto.get_certificate_fingerprint revoked = crypto.get_certificate_fingerprint cert ∨
        store.is_certificate_revoked crypto cert = true := by
  have file : crypto.get_certificate_fingerprint cert ++ ".revoked" = crypto.get_certificate_fingerprint revoked ++ ".revoked" ↔
      crypto.get_certificate_fingerprint revoked = crypto.get_certificate_fingerprint cert := by
    rw [← String.toList_inj, String.toList_append, String.toList_append, List.append_cancel_right_eq, String.toList_inj, eq_comm]
  simp only [is_certificate_revoked, revoke_certificate, check_crl_revocation, Bool.or_eq_true, Dict.contains_iff,
    Dict.mem_keys_set, file, or_assoc]

/-- A revocation is never lost, and nothing else revokes. -/
theorem revoked_run (calls : List (StoreCall κ)) (store : CertificateStore κ) (cert : Certificate κ) :
    (store.run crypto calls).is_certificate_revoked crypto cert = true ↔ store.RevokedBy crypto calls cert := by
  induction calls generalizing store with
  | nil => simp [run, RevokedBy]
  | cons c calls ih =>
    have step : store.run crypto (c :: calls) = (store.call crypto c).run crypto calls := rfl
    rw [step, ih, RevokedBy, RevokedBy]
    cases c with
    | add_ca_certificate | add_trusted_certificate => simp [call, add_ca_certificate, add_trusted_certificate,
      is_certificate_revoked, check_crl_revocation]
    | revoke_certificate revoked reason =>
      rw [call, revoked_revoke_certificate]
      constructor
      · rintro ((same | early) | ⟨other, reason', member, same⟩)
        · exact Or.inr ⟨revoked, reason, List.mem_cons_self, same⟩
        · exact Or.inl early
        · exact Or.inr ⟨other, reason', List.mem_cons_of_mem _ member, same⟩
      · rintro (early | ⟨other, reason', member, same⟩)
        · exact Or.inl (Or.inr early)
        · rcases List.mem_cons.mp member with first | later
          · cases first
            exact Or.inl (Or.inl same)
          · exact Or.inr ⟨other, reason', later, same⟩

end CertificateStore

namespace X509PackageSigner
variable (self : X509PackageSigner κ) (store : CertificateStore κ)

/-! ## Chains -/

/-- CA certificates of the store, each of which has signed the one before it, up to one
    that has signed itself. -/
inductive Chain : Certificate κ → List (Certificate κ) → Prop
  | self_signed {certificate : Certificate κ} (root : certificate.issuer = certificate.subject) : Chain certificate []
  | issued {certificate ca_cert : Certificate κ} {chain : List (Certificate κ)} (other : certificate.issuer ≠ certificate.subject)
      (stored : ca_cert ∈ store.ca_certs.values) (issuer : ca_cert.subject = certificate.issuer)
      (signed : self.crypto.verify_certificate ca_cert.public_key certificate = .ok ()) (further : Chain ca_cert chain) :
      Chain certificate (ca_cert :: chain)

/-- There is a chain without revoked certificates. -/
def Unrevoked (certificate : Certificate κ) : Prop :=
  ∃ chain, self.Chain store certificate chain ∧ ∀ cert ∈ certificate :: chain, store.is_certificate_revoked self.crypto cert = false

/-- The chain that is followed: the first CA certificate of the issuer's name is taken
    to be the issuer. -/
inductive Walk : Certificate κ → List (Certificate κ) → Prop
  | self_signed {certificate : Certificate κ} (root : certificate.issuer = certificate.subject) : Walk certificate []
  | issued {certificate ca_cert : Certificate κ} {chain : List (Certificate κ)} (other : certificate.issuer ≠ certificate.subject)
      (first : (self.get_ca_certificates store).find? (fun ca_cert => ca_cert.subject = certificate.issuer) = some ca_cert)
      (signed : self.crypto.verify_certificate ca_cert.public_key certificate = .ok ()) (further : Walk ca_cert chain) :
      Walk certificate (ca_cert :: chain)

variable {self store}

theorem Walk.chain {certificate : Certificate κ} {chain : List (Certificate κ)} (walk : self.Walk store certificate chain) :
    self.Chain store certificate chain := by
  induction walk with
  | self_signed root => exact .self_signed root
  | issued other first signed _ ih =>
    have stored := (self.listing.perm store.ca_certs).mem_iff.mp (List.mem_of_find?_eq_some first)
    have named := List.find?_some first
    exact .issued other stored (of_decide_eq_true named) signed ih

theorem verify_certificate_chain_iff {frames : Nat} {certificate : Certificate κ} (other : certificate.issuer ≠ certificate.subject) :
    self.verify_certificate_chain store frames certificate = .ok () ↔ ∃ chain, self.Walk store certificate chain ∧
      chain.length ≤ frames := by
  induction frames generalizing certificate with
  | zero =>
    constructor
    · intro verified
      cases verified
    · rintro ⟨chain, walk, short⟩
      cases walk with
      | self_signed root => exact absurd root other
      | issued => cases short
  | succ frames ih =>
    rw [verify_certificate_chain]
    constructor
    · intro verified
      split at verified
      · cases verified
      · next issuer_cert first =>
        split at verified
        · cases verified
        · next signed =>
          split at verified
          · next issued =>
            obtain ⟨chain, walk, short⟩ := (ih issued).mp verified
            exact ⟨_, .issued other first signed walk, Nat.succ_le_succ short⟩
          · next root => exact ⟨_, .issued other first signed (.self_signed (not_not.mp root)), Nat.succ_le_succ (Nat.zero_le _)⟩
    · rintro ⟨chain, walk, short⟩
      cases walk with
      | self_signed root => exact absurd root other
      | issued _ first signed further =>
        simp only [first, signed]
        split
        · next issued => exact (ih issued).mpr ⟨_, further, Nat.le_of_succ_le_succ short⟩
        · rfl

/-! ## Verification -/

/-- The certificate is valid now, and may sign code. -/
structure Usable (now : Int) (certificate : Certificate κ) : Prop where
  begun : certificate.not_valid_before ≤ now
  unexpired : now ≤ certificate.not_valid_after
  digital_signature : certificate.digital_signature ≠ some false
  code_signing : certificate.code_signing ≠ some false

/-- A check that raises is passed where its condition fails. -/
theorem passed_iff {p : Prop} [Decidable p] {e : CertificateException} {rest : Except CertificateException Unit} :
    (if p then .error e else rest) = .ok () ↔ ¬p ∧ rest = .ok () := by
  split
  · next raised => exact iff_of_false (fun passed => by cases passed) fun passed => passed.1 raised
  · next clear => exact (and_iff_right clear).symm

/-- A certificate is accepted where it is usable and not revoked, whatever became of
    the certificates above it. -/
theorem validate_certificate_iff {now : Int} {certificate : Certificate κ} :
    self.validate_certificate store now certificate = .ok () ↔ Usable now certificate ∧
      store.is_certificate_revoked self.crypto certificate = false ∧
      ∃ chain, self.Walk store certificate chain ∧ chain.length ≤ self.recursion_limit := by
  have walks : (if certificate.issuer ≠ certificate.subject then self.verify_certificate_chain store self.recursion_limit certificate
      else .ok ()) = .ok () ↔ ∃ chain, self.Walk store certificate chain ∧ chain.length ≤ self.recursion_limit := by
    split
    · next issued => exact verify_certificate_chain_iff issued
    · next root => exact iff_of_true rfl ⟨[], .self_signed (not_not.mp root), Nat.zero_le _⟩
  simp only [validate_certificate, passed_iff, walks]
  constructor
  · rintro ⟨begun, unexpired, live, digital_signature, code_signing, walked⟩
    exact ⟨⟨Int.not_lt.mp begun, Int.not_lt.mp unexpired, digital_signature, code_signing⟩, Bool.eq_false_iff.mpr live, walked⟩
  · rintro ⟨usable, live, walked⟩
    exact ⟨Int.not_lt.mpr usable.begun, Int.not_lt.mpr usable.unexpired, Bool.eq_false_iff.mp live, usable.digital_signature,
      usable.code_signing, walked⟩

theorem verify_package_signature_iff {now : Int} {package_data : Bytes} {signature_info : Dict String Json} :
    (self.verify_package_signature store now package_data signature_info).1 = true ↔ ∃ certificate,
      self.load_certificate signature_info = .ok certificate ∧ self.validate_certificate store now certificate = .ok () ∧
      self.verify_contents package_data signature_info certificate = .ok () := by
  unfold verify_package_signature
  cases loaded : self.load_certificate signature_info with
  | error e => simp
  | ok certificate =>
    cases validated : self.validate_certificate store now certificate with
    | error e => cases e <;> simp [validated]
    | ok =>
      cases checked : self.verify_contents package_data signature_info certificate with
      | error message => simp [validated, checked]
      | ok => simp [validated, checked]

/-- While every chain of the signer's certificate has a revoked certificate, the
    signature is refused. -/
def Effective (self : X509PackageSigner κ) (store : CertificateStore κ) (now : Int) (package_data : Bytes)
    (signature_info : Dict String Json) : Prop :=
  ∀ certificate, self.load_certificate signature_info = .ok certificate → ¬self.Unrevoked store certificate →
    (self.verify_package_signature store now package_data signature_info).1 = false

def rootCertificate : Certificate Unit :=
  ⟨⟨[("CN", "root")]⟩, ⟨[("CN", "root")]⟩, 1, 0, 9, none, none, ()⟩

def publisherCertificate : Certificate Unit :=
  ⟨⟨[("CN", "publisher")]⟩, ⟨[("CN", "root")]⟩, 2, 0, 9, some true, some true, ()⟩

/-- Every signature carries the certificate of the publisher, and is right. -/
def publisher : X509PackageSigner Unit where
  crypto := ⟨fun _ => .ok publisherCertificate, fun cert => [cert.serial_number.toNat.toUInt8], fun _ => "", fun _ => .ed25519,
    fun _ _ => .ok (), fun _ _ _ => .ok (), fun _ _ _ => .ok (), id⟩
  listing := ⟨fun files => files.values, fun _ => .refl _⟩
  recursion_limit := 1000
  printable := fun _ => true

def signed : Dict String Json :=
  Dict.ofList [("certificate", .str ""), ("package_hash", .str ""), ("metadata_hash", .str "7b7d"), ("signature", .str ""),
    ("algorithm", .str "Ed25519")]

def trusting : List (StoreCall Unit) := [.add_ca_certificate rootCertificate ⟨"root", by decide⟩]

/-- Whatever is revoked in a store that has only the root, the publisher's one chain
    leads to the root. -/
theorem publisher_chain {store : CertificateStore Unit} (only_root : store.ca_certs.values = [rootCertificate])
    {chain : List (Certificate Unit)} :
    publisher.Chain store publisherCertificate chain ↔ chain = [rootCertificate] := by
  constructor
  · intro led
    cases led with
    | self_signed root => exact absurd root (by decide)
    | issued _ stored _ _ further =>
      rw [only_root] at stored
      cases List.mem_singleton.mp stored
      cases further with
      | self_signed => rfl
      | issued other => exact absurd rfl other
  · rintro rfl
    exact .issued (by decide) (only_root ▸ List.mem_singleton_self _) rfl rfl (.self_signed rfl)

end X509PackageSigner

end RevitPy.Certificates
