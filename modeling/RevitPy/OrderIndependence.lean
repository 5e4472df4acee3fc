import RevitPy.Resolution

/-!
# Orders of registration and of requirements

The order in which packages are registered is forgotten when the compatible
versions are sorted, as long as no two of them are equal as versions. The order
of the requirements is not: the first constraint on a package selects its
version, and a later one can only conflict with it.
-/

namespace RevitPy.DependencyResolver
variable {u : CaseTable} {P : Packaging}

/-! ## Registries -/

/-- The resolver after registering lists of available and installed packages. -/
def register (r : DependencyResolver u) (available installed : List (PackageSpec u)) : DependencyResolver u :=
  installed.foldl register_installed_package (available.foldl register_available_package r)

/-- No two packages registered under a name have the same version. -/
def Distinct (P : Packaging) (available : List (PackageSpec u)) : Prop :=
  ∀ p ∈ available, ∀ q ∈ available, p.name = q.name →
    (p.version = q.version ∨
      ∃ v w, P.version p.version = some v ∧ P.version q.version = some w ∧ P.key v = P.key w) → p = q

/-- What is registered under a name and a version. -/
def lookup (r : DependencyResolver u) (name version : String) : Option (PackageSpec u) :=
  (r.available_packages.get? name).bind fun versions => versions.get? version

private theorem lookup_register (r : DependencyResolver u) (p : PackageSpec u) (name version : String) :
    (r.register_available_package p).lookup name version =
      if p.name = name ∧ p.version = version then some p else r.lookup name version := by
  unfold lookup register_available_package
  by_cases same : p.name = name
  · subst same
    rw [Dict.get?_set_self, Option.bind_some, Dict.get?_set]
    by_cases equal : p.version = version
    · simp [equal]
    · cases known : r.available_packages.get? p.name <;> simp [equal, Dict.getD, known]
  · simp [Dict.get?_set, same]

/-- A later registration overwrites an earlier one; where there is only one, it
    is found. -/
private theorem last_iff {γ : Type*} {l : List γ} {chosen : γ → Prop} [DecidablePred chosen]
    (unique : ∀ a ∈ l, ∀ b ∈ l, chosen a → chosen b → a = b) (a : γ) :
    l.foldl (fun found b => if chosen b then some b else found) none = some a ↔ a ∈ l ∧ chosen a := by
  induction l using List.reverseRecOn with
  | nil => simp
  | append_singleton l b ih =>
    rw [List.foldl_append, List.foldl_cons, List.foldl_nil]
    have earlier := ih fun a ha b hb => unique a (by simp [ha]) b (by simp [hb])
    by_cases last : chosen b
    · rw [if_pos last, Option.some.injEq]
      constructor
      · rintro rfl; exact ⟨by simp, last⟩
      · rintro ⟨member, also⟩
        exact unique b (by simp) a member last also
    · rw [if_neg last, earlier, List.mem_append, List.mem_singleton]
      constructor
      · rintro ⟨member, also⟩; exact ⟨Or.inl member, also⟩
      · rintro ⟨member | rfl, also⟩
        · exact ⟨member, also⟩
        · exact absurd also last

private theorem lookup_available (available : List (PackageSpec u)) (r : DependencyResolver u) (name version : String) :
    (available.foldl register_available_package r).lookup name version =
      available.foldl (fun found p => if p.name = name ∧ p.version = version then some p else found)
        (r.lookup name version) := by
  induction available generalizing r with
  | nil => rfl
  | cons p rest ih => rw [List.foldl_cons, List.foldl_cons, ih, lookup_register]

private theorem known_available (available : List (PackageSpec u)) (r : DependencyResolver u) (name : String) :
    name ∈ (available.foldl register_available_package r).available_packages.keys ↔
      (∃ p ∈ available, p.name = name) ∨ name ∈ r.available_packages.keys := by
  induction available generalizing r with
  | nil => simp
  | cons p rest ih =>
    have first : name ∈ (r.register_available_package p).available_packages.keys ↔
        name = p.name ∨ name ∈ r.available_packages.keys := Dict.mem_keys_set _ _ _ _
    rw [List.foldl_cons, ih, first]
    simp only [List.mem_cons, exists_eq_or_imp, eq_comm (a := name)]
    rw [← or_assoc, or_comm (b := p.name = name)]

private theorem foldl_same {β γ δ : Type*} {f : β → δ} {g : β → γ → β} (same : ∀ b c, f (g b c) = f b) (l : List γ)
    (b : β) : f (l.foldl g b) = f b := by
  induction l generalizing b with
  | nil => rfl
  | cons c rest ih => rw [List.foldl_cons, ih, same]

private theorem installed_lookup (installed : List (PackageSpec u)) (r : DependencyResolver u) (name : String) :
    (installed.foldl register_installed_package r).installed_packages.get? name =
      installed.foldl (fun found p => if p.name = name then some p else found) (r.installed_packages.get? name) := by
  induction installed generalizing r with
  | nil => rfl
  | cons p rest ih =>
    rw [List.foldl_cons, List.foldl_cons, ih, ← Dict.get?_set]
    rfl

/-- What the checks on a version read of the resolver. -/
def settings (r : DependencyResolver u) : String × String × Bool × Bool :=
  (r.python_version, r.revit_version, r.allow_prereleases, r.prefer_installed)

private theorem settings_register (r : DependencyResolver u) (available installed : List (PackageSpec u)) :
    (r.register available installed).settings = r.settings :=
  (foldl_same (f := settings) (g := register_installed_package) (fun _ _ => rfl) installed _).trans
    (foldl_same (f := settings) (g := register_available_package) (fun _ _ => rfl) available r)

private theorem installable_congr {r r' : DependencyResolver u} (same : r.settings = r'.settings) (p : PackageSpec u) :
    r.Installable P p ↔ r'.Installable P p := by
  simp only [settings, Prod.mk.injEq] at same
  rw [Installable, Installable, same.1, same.2.1, same.2.2.1]

/-! ## Registered lists -/

section
variable {r : DependencyResolver u} (empty : r.available_packages = ∅ ∧ r.installed_packages = ∅)
  {available installed : List (PackageSpec u)}
include empty

private theorem register_known (name : String) :
    name ∈ (r.register available installed).available_packages.keys ↔ ∃ p ∈ available, p.name = name := by
  rw [register, foldl_same (f := available_packages) (g := register_installed_package) (fun _ _ => rfl), known_available, empty.1]
  simp

private theorem register_lookup (distinct : Distinct P available) (name : String) (p : PackageSpec u) :
    (∃ versions, (r.register available installed).available_packages.get? name = some versions ∧
      versions.get? p.version = some p) ↔ p ∈ available ∧ p.name = name := by
  have looked : (r.register available installed).lookup name p.version =
      available.foldl (fun found q => if q.name = name ∧ q.version = p.version then some q else found) none := by
    unfold lookup register
    rw [foldl_same (f := available_packages) (g := register_installed_package) (fun _ _ => rfl)]
    have found := lookup_available available r name p.version
    rw [show r.lookup name p.version = none by simp [lookup, empty.1]] at found
    exact found
  have unique : ∀ a ∈ available, ∀ b ∈ available, a.name = name ∧ a.version = p.version →
      b.name = name ∧ b.version = p.version → a = b := fun a ha b hb left right =>
    distinct a ha b hb (left.1.trans right.1.symm) (Or.inl (left.2.trans right.2.symm))
  have listed := last_iff unique p
  rw [← looked, lookup, Option.bind_eq_some_iff] at listed
  rw [listed]
  simp

private theorem register_installed (distinct : ∀ p ∈ installed, ∀ q ∈ installed, p.name = q.name → p = q)
    (name : String) (p : PackageSpec u) :
    (r.register available installed).installed_packages.get? name = some p ↔ p ∈ installed ∧ p.name = name := by
  rw [register, installed_lookup, foldl_same (f := installed_packages) (g := register_available_package) (fun _ _ => rfl),
    empty.2, Dict.get?_empty]
  exact last_iff (fun a ha b hb left right => distinct a ha b hb (left.trans right.symm)) p

private theorem register_registered (distinct : Distinct P available) (name : String) (p : PackageSpec u) :
    (r.register available installed).Registered P name p ↔ (p ∈ available ∧ p.name = name) ∧ r.Installable P p := by
  rw [Registered, register_lookup empty distinct, installable_congr (settings_register r available installed)]

end

/-! ## The order of registration -/

/-- Registered versions of a package that compare equal are the same. -/
private def Separated (P : Packaging) (r : DependencyResolver u) : Prop :=
  ∀ name p q v w, r.Registered P name p → r.Registered P name q → P.version p.version = some v →
    P.version q.version = some w → P.key v = P.key w → p = q

private theorem separated_register {r : DependencyResolver u} (empty : r.available_packages = ∅ ∧ r.installed_packages = ∅)
    {available installed : List (PackageSpec u)} (distinct : Distinct P available) :
    Separated P (r.register available installed) := by
  intro name p q v w left right version version' same
  obtain ⟨⟨member, named⟩, -⟩ := (register_registered empty distinct name p).mp left
  obtain ⟨⟨member', named'⟩, -⟩ := (register_registered empty distinct name q).mp right
  exact distinct p member q member' (named.trans named'.symm) (Or.inr ⟨v, w, version, version', same⟩)

private theorem sorted_compatible {r : DependencyResolver u} {name version_spec : String}
    {compatible : List (PackageSpec u)} (answer : r.get_compatible_versions P name version_spec none = .ok compatible) :
    compatible.Nodup ∧ compatible.Pairwise (newest_first P) := by
  have total : Std.Total (newest_first (u := u) P) := ⟨fun p q => le_total (sort_key P q) (sort_key P p)⟩
  have trans : IsTrans _ (newest_first (u := u) P) := ⟨fun _ _ _ left right => le_trans right left⟩
  unfold get_compatible_versions at answer
  split at answer
  · cases answer
    exact ⟨List.nodup_nil, List.Pairwise.nil⟩
  · next versions known =>
    split at answer
    · cases answer
    · cases answer
      refine ⟨?_, List.pairwise_insertionSort _ _⟩
      rw [(List.perm_insertionSort _ _).nodup_iff]
      refine List.Nodup.of_map PackageSpec.version ?_
      have named (version : String) (p : PackageSpec u) (member : (version, p) ∈ versions.entries) : p.version = version :=
        (r.available_named _ versions known version p ((versions.get?_some_iff version p).mpr member)).2
      have keys (check : String × PackageSpec u → Bool) :
          ((versions.entries.filter check).map Prod.snd).map PackageSpec.version = (versions.entries.filter check).map Prod.fst := by
        rw [List.map_map]
        exact List.map_congr_left fun item member => named item.1 item.2 (List.mem_filter.mp member).1
      rw [keys]
      exact versions.nodup.sublist (List.filter_sublist.map Prod.fst)

private theorem compatible_unknown {r : DependencyResolver u} {name : String} (version_spec : String)
    (unknown : PackageSpec.normalize_name u name ∉ r.available_packages.keys) :
    r.get_compatible_versions P name version_spec none = .ok [] := by
  rw [← Dict.get?_none_iff] at unknown
  simp [get_compatible_versions, unknown]

private theorem compatible_invalid {r : DependencyResolver u} {name version_spec : String}
    (known : PackageSpec.normalize_name u name ∈ r.available_packages.keys)
    (invalid : P.specifier (specifier_text version_spec) = none) :
    r.get_compatible_versions P name version_spec none = .error (.InvalidSpecifier version_spec) := by
  obtain ⟨versions, found⟩ := (r.available_packages.mem_keys_iff _).mp known
  simp [get_compatible_versions, found, invalid]

private theorem compatible_valid (r : DependencyResolver u) (name : String) {version_spec : String} {spec : P.SpecifierSet}
    (valid : P.specifier (specifier_text version_spec) = some spec) :
    ∃ compatible, r.get_compatible_versions P name version_spec none = .ok compatible := by
  unfold get_compatible_versions
  cases r.available_packages.get? (PackageSpec.normalize_name u name) with
  | none => exact ⟨_, rfl⟩
  | some versions => simp [valid]

private theorem equal_of_key {r : DependencyResolver u} (separated : Separated P r) {name version_spec version_spec' : String}
    {p q : PackageSpec u} (left : r.Registered P name p ∧ Satisfies P p.version version_spec)
    (right : r.Registered P name q ∧ Satisfies P q.version version_spec') (newer : newest_first P p q)
    (older : newest_first P q p) : p = q := by
  obtain ⟨v, -, version, -⟩ := left.2
  obtain ⟨w, -, version', -⟩ := right.2
  have keys : sort_key P p = sort_key P q := le_antisymm older newer
  simp only [sort_key, version, version'] at keys
  exact separated name p q v w left.1 right.1 version version' (WithBot.coe_injective keys)

section
variable {r : DependencyResolver u} (empty : r.available_packages = ∅ ∧ r.installed_packages = ∅)
  {available available' installed installed' : List (PackageSpec u)} (perm : available.Perm available')
  (distinct : Distinct P available)
include empty perm distinct

private theorem compatible_perm (name version_spec : String) :
    (r.register available installed).get_compatible_versions P name version_spec none =
      (r.register available' installed').get_compatible_versions P name version_spec none := by
  have distinct' : Distinct P available' := fun p hp q hq => distinct p (perm.mem_iff.mpr hp) q (perm.mem_iff.mpr hq)
  have known : PackageSpec.normalize_name u name ∈ (r.register available installed).available_packages.keys ↔
      PackageSpec.normalize_name u name ∈ (r.register available' installed').available_packages.keys := by
    rw [register_known empty, register_known empty]
    simp only [perm.mem_iff]
  by_cases listed : PackageSpec.normalize_name u name ∈ (r.register available installed).available_packages.keys
  · cases parsed : P.specifier (specifier_text version_spec) with
    | none => rw [compatible_invalid listed parsed, compatible_invalid (known.mp listed) parsed]
    | some spec =>
      obtain ⟨left, answer⟩ := compatible_valid (r.register available installed) name parsed
      obtain ⟨right, answer'⟩ := compatible_valid (r.register available' installed') name parsed
      obtain ⟨nodup, sorted⟩ := sorted_compatible answer
      obtain ⟨nodup', sorted'⟩ := sorted_compatible answer'
      have registered (p : PackageSpec u) : (r.register available' installed').Registered P (PackageSpec.normalize_name u name) p ↔
          (r.register available installed).Registered P (PackageSpec.normalize_name u name) p := by
        rw [register_registered empty distinct, register_registered empty distinct', perm.mem_iff]
      have members (p : PackageSpec u) : p ∈ left ↔ p ∈ right := by
        rw [compatible_iff answer, compatible_iff answer', registered]
      have same : left = right := by
        refine ((List.perm_ext_iff_of_nodup nodup nodup').mpr members).eq_of_pairwise ?_ sorted sorted'
        intro p q member member' newer older
        exact equal_of_key (separated_register empty distinct) ((compatible_iff answer p).mp member)
          ((compatible_iff answer q).mp ((members q).mpr member')) newer older
      rw [answer, answer', same]
  · rw [compatible_unknown version_spec listed, compatible_unknown version_spec fun right => listed (known.mpr right)]

/-- The order in which packages are registered does not matter to the result. -/
theorem resolve_register_perm (installedPerm : installed.Perm installed')
    (installedOnce : ∀ p ∈ installed, ∀ q ∈ installed, p.name = q.name → p = q) (requirements : Dict String String)
    (extras : Dict String (List String)) :
    (r.register available installed).resolve_dependencies P requirements extras =
      (r.register available' installed').resolve_dependencies P requirements extras := by
  have settled : (r.register available installed).settings = (r.register available' installed').settings :=
    (settings_register r available installed).trans (settings_register r available' installed').symm
  have lookups (name : String) : (r.register available installed).installed_packages.get? name =
      (r.register available' installed').installed_packages.get? name := by
    apply Option.ext
    intro p
    have once' : ∀ p ∈ installed', ∀ q ∈ installed', p.name = q.name → p = q := fun p hp q hq =>
      installedOnce p (installedPerm.mem_iff.mpr hp) q (installedPerm.mem_iff.mpr hq)
    rw [register_installed empty installedOnce, register_installed empty once', installedPerm.mem_iff]
  have selects (name : String) (newest : PackageSpec u) (others : List (PackageSpec u)) :
      (r.register available installed).select name newest others =
        (r.register available' installed').select name newest others := by
    simp only [settings, Prod.mk.injEq] at settled
    rw [select, select, lookups, settled.2.2.2]
  have versions (name version_spec : String) :
      (r.register available installed).get_compatible_versions P name version_spec none =
        (r.register available' installed').get_compatible_versions P name version_spec none :=
    compatible_perm empty perm distinct name version_spec
  have steps : (r.register available installed).resolve_step P extras =
      (r.register available' installed').resolve_step P extras := by
    funext state
    cases state with
    | error e => rfl
    | ok s =>
      unfold resolve_step resolve_request
      simp only [versions, selects]
  rw [resolve_dependencies, resolve_dependencies, Loop.exec_congr _ _ steps]

end

/-! ## The order of the requirements -/

/-- A compatible version that satisfies another specifier is compatible with it. -/
private theorem compatible_transfer {r : DependencyResolver u} {name version_spec version_spec' : String}
    {compatible compatible' : List (PackageSpec u)}
    (answer : r.get_compatible_versions P name version_spec none = .ok compatible)
    (answer' : r.get_compatible_versions P name version_spec' none = .ok compatible') {p : PackageSpec u}
    (member : p ∈ compatible) (fits : is_version_compatible P p.version version_spec' = true) : p ∈ compatible' :=
  (compatible_iff answer' p).mpr ⟨((compatible_iff answer p).mp member).1, (is_version_compatible_iff _ _).mp fits⟩

/-- The installed version, where it equals a compatible one. -/
private theorem select_iff (r : DependencyResolver u) (name : String) (newest : PackageSpec u) (others : List (PackageSpec u)) :
    (∃ p, r.prefer_installed = true ∧ r.installed_packages.get? name = some p ∧
      (∃ q ∈ newest :: others, p.eq q = true) ∧ r.select name newest others = p) ∨
    (∀ p, r.prefer_installed = true → r.installed_packages.get? name = some p →
      ∀ q ∈ newest :: others, ¬p.eq q = true) ∧ r.select name newest others = newest := by
  unfold select
  cases r.prefer_installed with
  | false => exact Or.inr ⟨by simp, by simp⟩
  | true =>
    cases found : r.installed_packages.get? name with
    | none => exact Or.inr ⟨by simp, by simp⟩
    | some p =>
      by_cases equal : (newest :: others).any p.eq = true
      · exact Or.inl ⟨p, rfl, rfl, List.any_eq_true.mp equal, by simp only [↓reduceIte, equal]⟩
      · refine Or.inr ⟨?_, by simp only [↓reduceIte, equal, Bool.false_eq_true]⟩
        rintro _ - ⟨⟩ q member same
        exact equal (List.any_eq_true.mpr ⟨q, member, same⟩)

private theorem agreeing {r : DependencyResolver u} (separated : Separated P r) (extras : Dict String (List String)) :
    Greedy.Agreeing (problem P r extras) := by
  intro name version_spec version_spec' p q chosen chosen' fits fits'
  simp only [problem] at chosen chosen' fits fits'
  split at chosen
  case h_2 => cases chosen
  rename_i newest others answer
  split at chosen'
  case h_2 => cases chosen'
  rename_i newest' others' answer'
  have transfer {a b : PackageSpec u} (member : b ∈ newest :: others) (same : a.eq b = true)
      (fits : is_version_compatible P a.version version_spec' = true) : b ∈ newest' :: others' :=
    compatible_transfer answer answer' member (by rw [← (eq_fields same).1]; exact fits)
  have transfer' {a b : PackageSpec u} (member : b ∈ newest' :: others') (same : a.eq b = true)
      (fits : is_version_compatible P a.version version_spec = true) : b ∈ newest :: others :=
    compatible_transfer answer' answer member (by rw [← (eq_fields same).1]; exact fits)
  rcases select_iff r name newest others with ⟨i, preferred, found, ⟨a, member, same⟩, selected⟩ | ⟨refused, selected⟩ <;>
    rcases select_iff r name newest' others' with
      ⟨i', preferred', found', ⟨a', member', same'⟩, selected'⟩ | ⟨refused', selected'⟩ <;>
    rw [selected, Option.some.injEq] at chosen <;> rw [selected', Option.some.injEq] at chosen' <;>
    subst chosen chosen'
  · rw [found, Option.some.injEq] at found'
    exact found'
  · exact absurd same (refused' i preferred found a (transfer member same fits))
  · exact absurd same' (refused i' preferred' found' a' (transfer' member' same' fits'))
  · -- Both are the newest of their lists, and each is in the list of the other.
    have inside : newest ∈ newest' :: others' := compatible_transfer answer answer' (by simp) fits
    have inside' : newest' ∈ newest :: others := compatible_transfer answer' answer (by simp) fits'
    have first {a b : PackageSpec u} {rest : List (PackageSpec u)} (sorted : (a :: rest).Pairwise (newest_first P))
        (member : b ∈ a :: rest) : newest_first P a b := by
      rcases List.mem_cons.mp member with rfl | later
      · exact le_refl (sort_key P b)
      · exact (List.pairwise_cons.mp sorted).1 b later
    exact equal_of_key separated ((compatible_iff answer newest).mp (by simp)) ((compatible_iff answer' newest').mp (by simp))
      (first (sorted_compatible answer).2 inside') (first (sorted_compatible answer').2 inside)

/-- Two orders of the same requirements that are both resolved without conflict
    resolve the same packages. -/
private theorem resolved_same {r : DependencyResolver u} (separated : Separated P r)
    {requirements requirements' : Dict String String} (perm : requirements.entries.Perm requirements'.entries)
    {extras : Dict String (List String)} {result result' : ResolutionResult u}
    (answer : r.resolve_dependencies P requirements extras = .ok result)
    (answer' : r.resolve_dependencies P requirements' extras = .ok result') (success : result.conflicts = [])
    (success' : result'.conflicts = []) : result.resolved_packages.Same result'.resolved_packages := by
  obtain ⟨assigned, solution, values⟩ := resolution_refines answer success
  obtain ⟨assigned', solution', values'⟩ := resolution_refines answer' success'
  have roots (root : String × String) : root ∈ roots u requirements ↔ root ∈ roots u requirements' :=
    (perm.map _).mem_iff
  have same := Greedy.solution_unique (agreeing separated extras) solution solution' roots
  intro name
  rw [values, values', same name]

/-- Where no two registered versions of a package are equal, the order of
    registration does not matter at all, and two orders of the requirements that
    both succeed resolve the same packages. -/
theorem resolve_order_independent (u : CaseTable) (P : Packaging) (python_version revit_version : String)
    (allow_prereleases prefer_installed : Bool) (available available' installed installed' : List (PackageSpec u))
    (registered : available.Perm available') (preinstalled : installed.Perm installed') (distinct : Distinct P available)
    (once : ∀ p ∈ installed, ∀ q ∈ installed, p.name = q.name → p = q) (requirements requirements' : Dict String String)
    (reordered : requirements.entries.Perm requirements'.entries) (extras : Dict String (List String)) :
    let r := (init u python_version revit_version allow_prereleases prefer_installed).register available installed
    let r' := (init u python_version revit_version allow_prereleases prefer_installed).register available' installed'
    r.resolve_dependencies P requirements extras = r'.resolve_dependencies P requirements extras ∧
      ∀ result result', r.resolve_dependencies P requirements extras = .ok result →
        r'.resolve_dependencies P requirements' extras = .ok result' →
        result.is_successful = true → result'.is_successful = true →
        result.resolved_packages.Same result'.resolved_packages := by
  intro r r'
  have order (requirements : Dict String String) :
      r.resolve_dependencies P requirements extras = r'.resolve_dependencies P requirements extras :=
    resolve_register_perm ⟨rfl, rfl⟩ registered distinct preinstalled once requirements extras
  refine ⟨order requirements, ?_⟩
  intro result result' answer answer' success success'
  rw [← order requirements'] at answer'
  simp only [ResolutionResult.is_successful, beq_iff_eq, List.length_eq_zero_iff] at success success'
  exact resolved_same (separated_register ⟨rfl, rfl⟩ distinct) reordered answer answer' success success'

/-- Two applications and two versions of the core that they share. -/
def modern : PackageSpec CaseTable.ascii :=
  PackageSpec.make CaseTable.ascii "modern" "1.0" (Dict.ofList [("core", ">=1.0")]) ∅

def legacy : PackageSpec CaseTable.ascii :=
  PackageSpec.make CaseTable.ascii "legacy" "1.0" (Dict.ofList [("core", "<2.0")]) ∅

def core (version : String) : PackageSpec CaseTable.ascii := PackageSpec.make CaseTable.ascii "core" version ∅ ∅

def shelf (available installed : List (PackageSpec CaseTable.ascii)) : DependencyResolver CaseTable.ascii :=
  (init CaseTable.ascii "3.11.0" "2025" false true).register available installed

private theorem core_distinct : Distinct Packaging.releases [core "1.0", core "2.0"] := by
  have other : ¬((core "1.0").version = (core "2.0").version ∨
      ∃ v w, Packaging.releases.version (core "1.0").version = some v ∧
        Packaging.releases.version (core "2.0").version = some w ∧ Packaging.releases.key v = Packaging.releases.key w) := by
    rintro (same | ⟨v, w, version, version', same⟩)
    · revert same; decide
    · obtain rfl : [1, 0] = v := Option.some.inj version
      obtain rfl : [2, 0] = w := Option.some.inj version'
      revert same
      change ¬[1] = [2]
      decide
  intro p member q member' _ same
  simp only [List.mem_cons, List.not_mem_nil, or_false] at member member'
  rcases member with rfl | rfl <;> rcases member' with rfl | rfl
  · rfl
  · exact absurd same other
  · refine absurd ?_ other
    rcases same with equal | ⟨v, w, version, version', equal⟩
    · exact Or.inl equal.symm
    · exact Or.inr ⟨w, v, version', version, equal.symm⟩
  · rfl

theorem core_order_independent :
    (shelf [core "1.0", core "2.0"] []).resolve_dependencies Packaging.releases
          (Dict.ofList [("core", "<3.0"), ("Core", ">=1.0")]) ∅ =
        (shelf [core "2.0", core "1.0"] []).resolve_dependencies Packaging.releases
          (Dict.ofList [("core", "<3.0"), ("Core", ">=1.0")]) ∅ ∧
      ∀ result result',
        (shelf [core "1.0", core "2.0"] []).resolve_dependencies Packaging.releases
          (Dict.ofList [("core", "<3.0"), ("Core", ">=1.0")]) ∅ = .ok result →
        (shelf [core "2.0", core "1.0"] []).resolve_dependencies Packaging.releases
          (Dict.ofList [("Core", ">=1.0"), ("core", "<3.0")]) ∅ = .ok result' →
        result.is_successful = true → result'.is_successful = true →
        result.resolved_packages.Same result'.resolved_packages :=
  resolve_order_independent CaseTable.ascii Packaging.releases "3.11.0" "2025" false true _ _ [] [] (List.Perm.swap _ _ _)
    (List.Perm.refl _) core_distinct (by simp) _ _ (List.Perm.swap _ _ _) ∅

/-- The version of the core that a resolution selects. -/
def selected_core (answer : Except ResolveError (ResolutionResult CaseTable.ascii)) : Option String :=
  match answer with
  | .ok result => if result.is_successful then (result.resolved_packages.get? "core").map PackageSpec.version else none
  | .error _ => none

/-- The first application to come selects the core for both, and the other one
    may then conflict. Equal versions, and packages installed twice, are told
    apart by the order of registration. -/
theorem first_come_first_served :
    (∃ result result',
      (shelf [modern, legacy, core "1.0", core "2.0"] []).resolve_dependencies Packaging.releases
          (Dict.ofList [("modern", "*"), ("legacy", "*")]) ∅ = .ok result ∧
        (shelf [modern, legacy, core "1.0", core "2.0"] []).resolve_dependencies Packaging.releases
          (Dict.ofList [("legacy", "*"), ("modern", "*")]) ∅ = .ok result' ∧
        result.is_successful = false ∧ result'.is_successful = true) ∧
    selected_core ((shelf [core "1.0", core "1.0.0"] []).resolve_dependencies Packaging.releases
        (Dict.ofList [("core", "*")]) ∅) = some "1.0" ∧
    selected_core ((shelf [core "1.0.0", core "1.0"] []).resolve_dependencies Packaging.releases
        (Dict.ofList [("core", "*")]) ∅) = some "1.0.0" ∧
    selected_core ((shelf [core "1.0", core "2.0"] [core "1.0", core "2.0"]).resolve_dependencies Packaging.releases
        (Dict.ofList [("core", "*")]) ∅) = some "2.0" ∧
    selected_core ((shelf [core "1.0", core "2.0"] [core "2.0", core "1.0"]).resolve_dependencies Packaging.releases
        (Dict.ofList [("core", "*")]) ∅) = some "1.0" :=
  ⟨⟨_, _, rfl, rfl, rfl, rfl⟩, by decide, by decide, by decide, by decide⟩

end RevitPy.DependencyResolver
