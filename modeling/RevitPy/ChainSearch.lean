import RevitPy.Following
import RevitPy.Revocation

/-!
# The search for a chain

The search goes from a certificate to the first CA certificate with its issuer's name and
tries no other. So it ends only where this walk never comes back, and it misses the chains
of the CA certificates that are listed later.
-/

namespace RevitPy.Certificates.X509PackageSigner
open Following

variable {κ : Type} (self : X509PackageSigner κ) (store : CertificateStore κ)

/-- The CA certificate that the search goes on to: the first with the name of the issuer, if the certificate
    is not self-signed and its signature verifies under the key. -/
def next_issuer (certificate : Certificate κ) : Option (Certificate κ) :=
  if certificate.issuer = certificate.subject then none
  else
    ((self.get_ca_certificates store).find? fun ca_cert => ca_cert.subject = certificate.issuer).filter fun issuer_cert =>
      (self.crypto.verify_certificate issuer_cert.public_key certificate).isOk

/-- The search ends within some depth, and returns exactly if there is a chain. -/
structure FindsChains (certificate : Certificate κ) : Prop where
  terminates : ∃ frames, self.verify_certificate_chain store frames certificate ≠ .error .recursion
  complete : (∃ frames, self.verify_certificate_chain store frames certificate = .ok ()) ↔ ∃ chain, self.Chain store certificate chain

/-- The walk never comes to a certificate twice. -/
def NeverReturns (certificate : Certificate κ) : Prop :=
  ∀ i j cert, i < j → follow (self.next_issuer store) i certificate = some cert → follow (self.next_issuer store) j certificate ≠ some cert

/-- Where the walk stops short of a self-signed certificate, no other choice of CA certificates gives a chain. -/
def NoOtherChain (certificate : Certificate κ) : Prop :=
  ∀ n last, follow (self.next_issuer store) n certificate = some last → self.next_issuer store last = none →
    last.issuer ≠ last.subject → ¬∃ chain, self.Chain store certificate chain

variable {self store} {certificate : Certificate κ}

theorem next_issuer_some {ca_cert : Certificate κ} : self.next_issuer store certificate = some ca_cert ↔
    certificate.issuer ≠ certificate.subject ∧
      (self.get_ca_certificates store).find? (fun ca_cert => ca_cert.subject = certificate.issuer) = some ca_cert ∧
      self.crypto.verify_certificate ca_cert.public_key certificate = .ok () := by
  have verified (result : Except String Unit) : result.isOk = true ↔ result = .ok () := by
    cases result <;> simp [Except.isOk, Except.toBool]
  unfold next_issuer
  split
  · next root => simp [root]
  · next other => simp [other, Option.filter_eq_some_iff, verified]

theorem next_issuer_stored {ca_cert : Certificate κ} (found : self.next_issuer store certificate = some ca_cert) :
    ca_cert ∈ store.ca_certs.values :=
  (self.listing.perm store.ca_certs).mem_iff.mp (List.mem_of_find?_eq_some (next_issuer_some.mp found).2.1)

/-- The walk does not go on from a self-signed certificate. -/
theorem follow_root {root cert : Certificate κ} (self_signed : root.issuer = root.subject) {n : Nat}
    (found : follow (self.next_issuer store) n root = some cert) : cert = root := by
  cases n with
  | zero => exact (Option.some.inj found).symm
  | succ n =>
    rw [follow, next_issuer, if_pos self_signed] at found
    cases found

/-- The search runs out of frames exactly if the walk still goes on. -/
theorem recursion_iff (frames : Nat) (other : certificate.issuer ≠ certificate.subject) :
    self.verify_certificate_chain store frames certificate = .error .recursion ↔
      ∃ cert, follow (self.next_issuer store) frames certificate = some cert ∧ cert.issuer ≠ cert.subject := by
  induction frames generalizing certificate with
  | zero => simp [verify_certificate_chain, follow, other]
  | succ frames ih =>
    rw [verify_certificate_chain, follow, next_issuer, if_neg other]
    cases first : (self.get_ca_certificates store).find? fun ca_cert => ca_cert.subject = certificate.issuer with
    | none => simp
    | some issuer_cert =>
      cases verified : self.crypto.verify_certificate issuer_cert.public_key certificate with
      | error e => simp [Option.filter, verified, Except.isOk, Except.toBool]
      | ok _ =>
        simp only [Option.filter, verified, Except.isOk, Except.toBool, if_true, Option.bind_some]
        split
        · next issued => exact ih issued
        · next root =>
          refine iff_of_false (fun error => by cases error) ?_
          rintro ⟨cert, found, issued⟩
          refine issued ?_
          rw [follow_root (not_not.mp root) found]
          exact not_not.mp root

/-- The walk is a chain exactly if it leads to a self-signed certificate. -/
theorem walk_iff : (∃ chain, self.Walk store certificate chain) ↔
    ∃ n cert, follow (self.next_issuer store) n certificate = some cert ∧ cert.issuer = cert.subject := by
  constructor
  · rintro ⟨chain, walk⟩
    induction walk with
    | @self_signed certificate root => exact ⟨0, certificate, rfl, root⟩
    | issued other first signed _ ih =>
      obtain ⟨n, cert, found, root⟩ := ih
      refine ⟨n + 1, cert, ?_, root⟩
      rw [follow, next_issuer_some.mpr ⟨other, first, signed⟩]
      exact found
  · rintro ⟨n, cert, found, root⟩
    induction n generalizing certificate with
    | zero =>
      cases found
      exact ⟨[], .self_signed root⟩
    | succ n ih =>
      rw [follow] at found
      obtain ⟨ca_cert, next, found⟩ := Option.bind_eq_some_iff.mp found
      obtain ⟨other, first, signed⟩ := next_issuer_some.mp next
      obtain ⟨chain, walk⟩ := ih found
      exact ⟨ca_cert :: chain, .issued other first signed walk⟩

/-- The search ends exactly if its walk does. -/
theorem terminates_iff (other : certificate.issuer ≠ certificate.subject) :
    (∃ frames, self.verify_certificate_chain store frames certificate ≠ .error .recursion) ↔ self.NeverReturns store certificate := by
  rw [NeverReturns, ← ends_iff_distinct (fun _ _ => next_issuer_stored)]
  constructor
  · intro ⟨frames, ended⟩
    rw [ne_eq, recursion_iff frames other] at ended
    cases found : follow (self.next_issuer store) frames certificate with
    | none => exact ⟨frames, found⟩
    | some cert =>
      -- the walk is at a self-signed certificate, and ends there
      have root : cert.issuer = cert.subject := not_not.mp fun issued => ended ⟨cert, found, issued⟩
      refine ⟨frames + 1, ?_⟩
      rw [follow_succ, found, Option.bind_some, next_issuer, if_pos root]
  · intro ⟨n, ended⟩
    refine ⟨n, ?_⟩
    rw [ne_eq, recursion_iff n other, ended]
    simp

/-- The search finds the chains exactly if its walk never comes to a certificate twice and, where it stops short,
    there is no chain. -/
theorem findsChains_iff (other : certificate.issuer ≠ certificate.subject) :
    self.FindsChains store certificate ↔ self.NeverReturns store certificate ∧ self.NoOtherChain store certificate := by
  have returns : (∃ frames, self.verify_certificate_chain store frames certificate = .ok ()) ↔ ∃ chain, self.Walk store certificate chain := by
    constructor
    · intro ⟨frames, verified⟩
      obtain ⟨chain, walk, _⟩ := (verify_certificate_chain_iff other).mp verified
      exact ⟨chain, walk⟩
    · rintro ⟨chain, walk⟩
      exact ⟨chain.length, (verify_certificate_chain_iff other).mpr ⟨chain, walk, Nat.le_refl _⟩⟩
  constructor
  · intro ⟨terminates, complete⟩
    refine ⟨(terminates_iff other).mp terminates, fun n last found stops issued chained => ?_⟩
    obtain ⟨m, root, led, self_signed⟩ := walk_iff.mp (returns.mp (complete.mpr chained))
    have ends : self.next_issuer store root = none := by rw [next_issuer, if_pos self_signed]
    rw [last_unique found stops led ends] at issued
    exact issued self_signed
  · intro ⟨distinct, no_other⟩
    refine ⟨(terminates_iff other).mpr distinct, ?_⟩
    rw [returns]
    refine ⟨fun ⟨chain, walk⟩ => ⟨chain, walk.chain⟩, fun chained => walk_iff.mpr ?_⟩
    obtain ⟨frames, ended⟩ := (ends_iff_distinct (fun _ _ => next_issuer_stored) certificate).mpr distinct
    obtain ⟨n, last, found, stops⟩ := exists_last ended
    exact ⟨n, last, found, not_not.mp fun issued => no_other n last found stops issued chained⟩

/-! Certificates that are signed under the key of their serial number. -/

def numbered : X509PackageSigner Nat where
  crypto := ⟨fun _ => .error "", fun _ => [], fun _ => "", fun _ => .ed25519,
    fun key cert => if cert.serial_number = key then .ok () else .error "Signature did not match digest.",
    fun _ _ _ => .ok (), fun _ _ _ => .ok (), id⟩
  listing := ⟨fun files => files.values, fun _ => .refl _⟩
  recursion_limit := 1000
  printable := fun _ => true

def name (cn : String) : Name := ⟨[("CN", cn)]⟩

/-- A certificate with its own key, signed under another. -/
def issued (subject issuer : String) (signer key : Nat) : Certificate Nat := ⟨name subject, name issuer, signer, 0, 9, none, none, key⟩

/-- A CA that renewed its key, with the new certificate listed first. -/
def renewed : CertificateStore Nat :=
  { ca_certs := Dict.ofList [("new.pem", issued "root" "root" 2 2), ("old.pem", issued "root" "root" 1 1)] }

/-- Two CAs that signed each other. -/
def crossed : CertificateStore Nat :=
  { ca_certs := Dict.ofList [("a.pem", issued "a" "b" 2 1), ("b.pem", issued "b" "a" 1 2)] }

theorem new_key_found : numbered.FindsChains renewed (issued "publisher" "root" 2 3) := by
  have at_root : follow (numbered.next_issuer renewed) 1 (issued "publisher" "root" 2 3) = some (issued "root" "root" 2 2) := rfl
  refine (findsChains_iff (by decide)).mpr ⟨?_, fun n last found stops other => ?_⟩
  · exact (ends_iff_distinct (fun _ _ => next_issuer_stored) _).mp ⟨2, rfl⟩
  · rw [last_unique found stops at_root rfl] at other
    exact absurd rfl other

/-- The old key has signed the first certificate, and only the new one is tried. The CAs that signed each other
    lead back to one another. -/
theorem old_key_missed : ¬numbered.FindsChains renewed (issued "publisher" "root" 1 3) ∧
    ¬numbered.FindsChains crossed (issued "publisher" "a" 1 3) := by
  constructor
  · intro finds
    have chain : numbered.Chain renewed (issued "publisher" "root" 1 3) [issued "root" "root" 1 1] :=
      .issued (by decide) (by simp [renewed, Dict.values, Dict.ofList, Dict.set, Dict.put]) rfl rfl (.self_signed rfl)
    exact ((findsChains_iff (by decide)).mp finds).2 0 _ rfl rfl (by decide) ⟨_, chain⟩
  · intro finds
    exact ((findsChains_iff (by decide)).mp finds).1 1 3 (issued "a" "b" 2 1) (by decide) rfl rfl

end RevitPy.Certificates.X509PackageSigner
