import RevitPy.JsonValues
import RevitPy.PackageSigning

/-!
# Verdicts on signatures

A signed package verifies as long as its bytes are the same and its metadata has the same
members, written alike, in any order. An empty set of trusted fingerprints counts as none,
and a nested object whose members are in another order counts as another.
-/

namespace RevitPy.Signing
open Bytes

/-- Ed25519 and SHA-256 at their best: a signature is accepted for what was signed and for nothing else. -/
structure Cryptography.Sound {κ π : Type} (crypto : Cryptography κ π) : Prop where
  load_public_bytes : ∀ key, crypto.load_pem_public_key (crypto.public_bytes key) = .ok key
  verify_sign : ∀ key data signature, crypto.sign key data = .ok signature →
    ∀ other, (crypto.verify (crypto.public_key key) signature other).isOk = true ↔ other = data
  sha256_injective : Function.Injective crypto.sha256

/-- Metadata whose values are JSON values. -/
structure Metadata extends Dict String Json where
  plain : Json.plainMembers entries = true

namespace Metadata

def value (m : Metadata) : Json := .obj m.entries

/-- The same members in any order, each of which is written alike. -/
def Alike (m m' : Metadata) : Prop := m.entries.Perm m'.entries

theorem same_of_alike {m m' : Metadata} (alike : m.Alike m') : Json.same m.value m'.value = true :=
  Json.same_of_perm alike m'.nodup m.plain

end Metadata

namespace PackageSignatureManager
variable {κ π : Type} {self : PackageSignatureManager κ π}

/-! ## Hashes -/

theorem hexdigest_injective (sound : self.signer.crypto.Sound) : Function.Injective self.signer.hexdigest := fun data other same => by
  have digits := congrArg String.toList same
  simp only [PackageSigner.hexdigest, String.toList_ofList] at digits
  exact sound.sha256_injective (hex_injective digits)

theorem sorted_eq_iff (d e : Dict String Json) :
    (d.entries.insertionSort fun a b => a.1 ≤ b.1) = (e.entries.insertionSort fun a b => a.1 ≤ b.1) ↔ d.entries.Perm e.entries := by
  have total : Std.Total fun a b : String × Json => a.1 ≤ b.1 := ⟨fun a b => le_total a.1 b.1⟩
  have trans : IsTrans (String × Json) fun a b => a.1 ≤ b.1 := ⟨fun _ _ _ left right => le_trans left right⟩
  have sorted (d : Dict String Json) := List.perm_insertionSort (fun a b : String × Json => a.1 ≤ b.1) d.entries
  constructor
  · intro same
    exact (sorted d).symm.trans (same ▸ sorted e)
  · intro perm
    refine List.Perm.eq_of_pairwise ?_ (List.pairwise_insertionSort _ _) (List.pairwise_insertionSort _ _) ((sorted d).trans (perm.trans (sorted e).symm))
    rintro ⟨key, v⟩ ⟨key', w⟩ left right before after
    obtain rfl : key = key' := le_antisymm before after
    have found := (e.get?_some_iff key v).mpr (perm.mem_iff.mp ((sorted d).mem_iff.mp left))
    have found' := (e.get?_some_iff key w).mpr ((sorted e).mem_iff.mp right)
    rw [found, Option.some.injEq] at found'
    rw [found']

theorem metadata_hash_eq_iff (sound : self.signer.crypto.Sound) (m m' : Metadata) :
    self.metadata_hash m.entries = self.metadata_hash m'.entries ↔ m.Alike m' := by
  have numbers (m : Metadata) : ∀ item ∈ m.entries.insertionSort fun a b => a.1 ≤ b.1, (Python.python self.printable).proper item.2 = true :=
    fun item member => Json.proper_of_plain item.2 ((Json.plainMembers_iff m.entries).mp m.plain item ((List.mem_insertionSort _).mp member))
  refine Iff.trans ⟨fun same => ?_, fun same => ?_⟩ (sorted_eq_iff m.toDict m'.toDict)
  · exact Python.strItems_injective (numbers m) (numbers m') (encode_injective (hexdigest_injective sound same))
  · unfold metadata_hash metadata_str
    rw [same]

/-! ## Signing -/

section
variable {d : Bytes} {m : Metadata} {private_key_pem : Bytes} {passphrase : Option String} {signed_at : String} {info : Dict String Json} {key : κ}

def fingerprint (self : PackageSignatureManager κ π) (key : κ) : String :=
  self.signer.get_public_key_fingerprint (self.signer.crypto.public_bytes (self.signer.crypto.public_key key))

theorem sign_package_ok (ed25519 : self.signer.algorithm = .ed25519) (loaded : self.signer.load_private_key private_key_pem passphrase = .ok key)
    (signed : self.sign_package d private_key_pem passphrase (some m.toDict) signed_at = .ok info) :
    ∃ signature, self.signer.crypto.sign key (sign_data (self.signer.hexdigest d) (self.metadata_hash m.entries)) = .ok signature ∧
      info = self.signature_info signature (self.fingerprint key) (self.signer.hexdigest d) (self.metadata_hash m.entries) signed_at m.toDict := by
  have made : self.sign_package d private_key_pem passphrase (some m.toDict) signed_at =
      (self.signer.crypto.sign key (sign_data (self.signer.hexdigest d) (self.metadata_hash m.entries))).map fun signature =>
        self.signature_info signature (self.fingerprint key) (self.signer.hexdigest d) (self.metadata_hash m.entries) signed_at m.toDict := by
    unfold sign_package PackageSigner.sign_data
    rw [loaded, ed25519]
    rfl
  rw [made] at signed
  cases answer : self.signer.crypto.sign key (sign_data (self.signer.hexdigest d) (self.metadata_hash m.entries)) with
  | error e => rw [answer] at signed; cases signed
  | ok signature => rw [answer] at signed; exact ⟨signature, rfl, (Except.ok.inj signed).symm⟩

/-! ## Verifying -/

theorem untrusted_eq_false_iff (trusted_fingerprints : Option (Finset String)) (fingerprint : String) :
    untrusted trusted_fingerprints fingerprint = false ↔ trusted_fingerprints = some ∅ ∨ ∀ trusted ∈ trusted_fingerprints, fingerprint ∈ trusted := by
  cases trusted_fingerprints with
  | none => simp [untrusted]
  | some trusted =>
    by_cases empty : trusted = ∅
    · simp [untrusted, empty]
    · simp [untrusted, empty, Finset.nonempty_iff_ne_empty]

/-- What a signature is kept with. -/
structure Keeps (manager : PackageSignatureManager κ π) (info : Dict String Json) (signature : Bytes) (fingerprint package_hash metadata_hash : String)
    (metadata : Json) : Prop where
  algorithm : info.get? "algorithm" = some (.str manager.signer.algorithm.name)
  signature : info.get? "signature" = some (.str (String.ofList (b64encode signature)))
  fingerprint : info.get? "public_key_fingerprint" = some (.str fingerprint)
  package_hash : info.get? "package_hash" = some (.str package_hash)
  metadata_hash : info.get? "metadata_hash" = some (.str metadata_hash)
  metadata : info.get? "metadata" = some metadata

theorem keeps_set_metadata (signature : Bytes) (fingerprint package_hash metadata_hash signed_at : String) (metadata : Dict String Json) (value : Json) :
    self.Keeps ((self.signature_info signature fingerprint package_hash metadata_hash signed_at metadata).set "metadata" value) signature
      fingerprint package_hash metadata_hash value where
  algorithm := Dict.get?_set_ne _ value (by decide)
  signature := Dict.get?_set_ne _ value (by decide)
  fingerprint := Dict.get?_set_ne _ value (by decide)
  package_hash := Dict.get?_set_ne _ value (by decide)
  metadata_hash := Dict.get?_set_ne _ value (by decide)
  metadata := Dict.get?_set_self _ _ value

theorem holds_iff {info : Dict String Json} {field kept : String} (found : info.get? field = some (.str kept)) (text : String) :
    holds info field text = true ↔ kept = text := by simp [holds, found, Json.isStr]

/-- With the metadata that was signed written alike, the signature is of what is verified. -/
theorem verify_metadata_iff (sound : self.signer.crypto.Sound) (ed25519 : self.signer.algorithm = .ed25519) {signature : Bytes}
    {fingerprint package_hash : String} {m m' : Metadata} {info : Dict String Json}
    (made : self.signer.crypto.sign key (sign_data package_hash (self.metadata_hash m.entries)) = .ok signature)
    (keeps : self.Keeps info signature fingerprint package_hash (self.metadata_hash m.entries) m'.value) :
    self.verify_metadata package_hash info (self.signer.crypto.public_bytes (self.signer.crypto.public_key key)) = .ok (true, none) ↔ m'.Alike m := by
  have members : info.getD "metadata" (.obj []) = m'.value := by rw [Dict.getD, keeps.metadata]; rfl
  have decoded : b64decoded (.str (String.ofList (b64encode signature))) = .ok signature := by
    rw [b64decoded, String.toList_ofList, b64decode_b64encode]
  have valid : self.signer.verify_signature (sign_data package_hash (self.metadata_hash m.entries)) signature
      (self.signer.crypto.public_key key) = true := by
    rw [PackageSigner.verify_signature, ed25519]
    exact (sound.verify_sign _ _ _ made _).mpr rfl
  have public_key := sound.load_public_bytes (self.signer.crypto.public_key key)
  have hash := holds_iff keeps.metadata_hash (self.metadata_hash m'.entries)
  rw [← metadata_hash_eq_iff sound]
  unfold verify_metadata
  rw [members, keeps.signature]
  by_cases same : self.metadata_hash m'.entries = self.metadata_hash m.entries
  · rw [same] at hash
    simp [Metadata.value, items, PackageSigner.load_public_key, hash.mpr rfl, decoded, public_key, same, valid, bind, Except.bind, pure, Except.pure]
  · have other : holds info "metadata_hash" (self.metadata_hash m'.entries) = false := by
      rw [Bool.eq_false_iff]
      exact fun holds => same (hash.mp holds).symm
    simp [Metadata.value, items, other, same, bind, Except.bind, pure, Except.pure]

theorem caught_eq_iff (answer : Except String (Bool × Option String)) : caught answer = (true, none) ↔ answer = .ok (true, none) := by
  cases answer <;> simp [caught]

theorem verify_iff_of_keeps (sound : self.signer.crypto.Sound) (ed25519 : self.signer.algorithm = .ed25519) {signature : Bytes} {m m' : Metadata}
    {info : Dict String Json} (made : self.signer.crypto.sign key (sign_data (self.signer.hexdigest d) (self.metadata_hash m.entries)) = .ok signature)
    (keeps : self.Keeps info signature (self.fingerprint key) (self.signer.hexdigest d) (self.metadata_hash m.entries) m'.value) (d' : Bytes)
    (trusted_fingerprints : Option (Finset String)) :
    self.verify_package_signature d' info (self.signer.crypto.public_bytes (self.signer.crypto.public_key key)) trusted_fingerprints = (true, none) ↔
      d' = d ∧ m'.Alike m ∧ untrusted trusted_fingerprints (self.fingerprint key) = false := by
  have checked := verify_metadata_iff sound ed25519 made keeps
  have algorithm := (holds_iff keeps.algorithm self.signer.algorithm.name).mpr rfl
  have fingerprint := (holds_iff keeps.fingerprint (self.fingerprint key)).mpr rfl
  have package_hash := holds_iff keeps.package_hash (self.signer.hexdigest d')
  have shown : self.signer.get_public_key_fingerprint (self.signer.crypto.public_bytes (self.signer.crypto.public_key key)) = self.fingerprint key := rfl
  unfold verify_package_signature
  rw [shown]
  cases trust : untrusted trusted_fingerprints (self.fingerprint key) with
  | true => simp [trust]
  | false =>
    by_cases same : d' = d
    · subst same
      simpa [trust, algorithm, fingerprint, package_hash.mpr rfl, caught_eq_iff] using checked
    · have hash : holds info "package_hash" (self.signer.hexdigest d') = false := by
        rw [Bool.eq_false_iff]
        exact fun holds => same (hexdigest_injective sound (package_hash.mp holds)).symm
      simp [trust, algorithm, fingerprint, hash, same]

/-- What was signed verifies as the same package with metadata alike, unless a set of others is trusted. -/
theorem verify_signed_iff (sound : self.signer.crypto.Sound) (ed25519 : self.signer.algorithm = .ed25519)
    (loaded : self.signer.load_private_key private_key_pem passphrase = .ok key)
    (signed : self.sign_package d private_key_pem passphrase (some m.toDict) signed_at = .ok info) (d' : Bytes) (m' : Metadata)
    (trusted_fingerprints : Option (Finset String)) :
    self.verify_package_signature d' (info.set "metadata" m'.value) (self.signer.crypto.public_bytes (self.signer.crypto.public_key key))
      trusted_fingerprints = (true, none) ↔
        d' = d ∧ m'.Alike m ∧ (trusted_fingerprints = some ∅ ∨ ∀ trusted ∈ trusted_fingerprints, self.fingerprint key ∈ trusted) := by
  obtain ⟨signature, made, rfl⟩ := sign_package_ok ed25519 loaded signed
  rw [← untrusted_eq_false_iff]
  exact verify_iff_of_keeps sound ed25519 made (keeps_set_metadata ..) d' trusted_fingerprints

/-! ## The verdict -/

/-- What was signed verifies exactly as the same package, with the same metadata, by a key that is trusted. -/
def RightVerdict (self : PackageSignatureManager κ π) (key : κ) (info : Dict String Json) (d d' : Bytes) (m m' : Metadata)
    (trusted_fingerprints : Option (Finset String)) : Prop :=
  self.verify_package_signature d' (info.set "metadata" m'.value) (self.signer.crypto.public_bytes (self.signer.crypto.public_key key))
    trusted_fingerprints = (true, none) ↔
      d' = d ∧ Json.same m'.value m.value = true ∧ ∀ trusted ∈ trusted_fingerprints, self.fingerprint key ∈ trusted

/-- Where package and metadata are the same, the metadata is written alike and the set of trusted fingerprints is not empty, or it
    is not written alike and the key is not trusted. -/
def Settled (self : PackageSignatureManager κ π) (key : κ) (d d' : Bytes) (m m' : Metadata) (trusted_fingerprints : Option (Finset String)) : Prop :=
  d' = d → Json.same m'.value m.value = true →
    (m'.Alike m ∧ trusted_fingerprints ≠ some ∅) ∨ (¬m'.Alike m ∧ ∃ trusted ∈ trusted_fingerprints, self.fingerprint key ∉ trusted)

/-- The verdict goes by how the metadata is written, and an empty set by nothing. -/
theorem rightVerdict_iff_settled (sound : self.signer.crypto.Sound) (ed25519 : self.signer.algorithm = .ed25519)
    (loaded : self.signer.load_private_key private_key_pem passphrase = .ok key)
    (signed : self.sign_package d private_key_pem passphrase (some m.toDict) signed_at = .ok info) (d' : Bytes) (m' : Metadata)
    (trusted_fingerprints : Option (Finset String)) :
    self.RightVerdict key info d d' m m' trusted_fingerprints ↔ self.Settled key d d' m m' trusted_fingerprints := by
  have same_of_alike := @Metadata.same_of_alike m' m
  unfold RightVerdict Settled
  rw [verify_signed_iff sound ed25519 loaded signed]
  by_cases same : d' = d ∧ Json.same m'.value m.value = true
  · by_cases alike : m'.Alike m
    · by_cases empty : trusted_fingerprints = some ∅
      · simp [same, alike, empty]
      · simp [same, alike, empty]
    · simp [same, alike]
  · have different : ¬(d' = d ∧ m'.Alike m) := fun both => same ⟨both.1, same_of_alike both.2⟩
    constructor
    · exact fun _ bytes members => absurd ⟨bytes, members⟩ same
    · intro _
      constructor
      · exact fun accepted => absurd ⟨accepted.1, accepted.2.1⟩ different
      · exact fun right => absurd ⟨right.1, right.2.1⟩ same

end

/-! ## Signatures that show what was signed -/

/-- A signature is the data behind the key, and a digest the data. -/
def openBook : Cryptography Bytes Bytes where
  load_pem_private_key data _ := .ok data
  load_pem_public_key data := .ok data
  public_key key := key
  public_bytes key := key
  sign key data := .ok (key ++ data)
  verify key signature data := if signature = key ++ data then .ok () else .error ""
  sign_pss key data := .ok (key ++ data)
  verify_pss key signature data := if signature = key ++ data then .ok () else .error ""
  sha256 data := data

theorem openBook_sound : openBook.Sound where
  load_public_bytes _ := rfl
  verify_sign key data signature signed other := by
    obtain rfl : key ++ data = signature := Except.ok.inj signed
    by_cases same : other = data
    · simp [openBook, same, Except.isOk, Except.toBool]
    · simp [openBook, same, Ne.symm same, Except.isOk, Except.toBool]
  sha256_injective _ _ same := same

def openManager : PackageSignatureManager Bytes Bytes := ⟨⟨.ed25519, openBook⟩, fun _ => true⟩

/-- An empty set of trusted fingerprints trusts every key. -/
theorem untrusted_key_accepted : openManager.signer.crypto.Sound ∧ ∃ info,
    openManager.sign_package [1] [2] none (some (∅ : Dict String Json)) "" = .ok info ∧
      ¬openManager.RightVerdict [2] info [1] [1] ⟨∅, rfl⟩ ⟨∅, rfl⟩ (some ∅) := by
  have loaded : openManager.signer.load_private_key [2] none = .ok [2] := rfl
  let metadata : Metadata := ⟨∅, rfl⟩
  obtain ⟨info, signed⟩ : ∃ info, openManager.sign_package [1] [2] none (some metadata.toDict) "" = .ok info := ⟨_, rfl⟩
  refine ⟨openBook_sound, info, signed, fun right => ?_⟩
  have accepted := (verify_signed_iff openBook_sound rfl loaded signed [1] metadata (some ∅)).mpr ⟨rfl, List.Perm.refl _, Or.inl rfl⟩
  exact Finset.notMem_empty _ ((right.mp accepted).2.2 ∅ rfl)

/-- The members are in another order. -/
theorem rightVerdict_reordered : ∃ info,
    openManager.sign_package [1] [2] none (some ⟨[("name", .str "walls"), ("version", .number "1")], by decide⟩) "" = .ok info ∧
      openManager.RightVerdict [2] info [1] [1] ⟨⟨[("name", .str "walls"), ("version", .number "1")], by decide⟩, by decide⟩
        ⟨⟨[("version", .number "1"), ("name", .str "walls")], by decide⟩, by decide⟩ none := by
  have loaded : openManager.signer.load_private_key [2] none = .ok [2] := rfl
  let metadata : Metadata := ⟨⟨[("name", .str "walls"), ("version", .number "1")], by decide⟩, by decide⟩
  let reordered : Metadata := ⟨⟨[("version", .number "1"), ("name", .str "walls")], by decide⟩, by decide⟩
  obtain ⟨info, signed⟩ : ∃ info, openManager.sign_package [1] [2] none (some metadata.toDict) "" = .ok info := ⟨_, rfl⟩
  have alike : reordered.Alike metadata := List.Perm.swap _ _ _
  exact ⟨info, signed, (rightVerdict_iff_settled openBook_sound rfl loaded signed [1] reordered none).mpr fun _ _ => Or.inl ⟨alike, nofun⟩⟩

end PackageSignatureManager
end RevitPy.Signing
