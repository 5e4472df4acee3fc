import RevitPy.LoadOrder
import RevitPy.Runs

/-!
# The two indexes of the registry

The registry has its records by their ids and, the last one registered, by their names. Names may be
shared, and an id may be the name of something else, so that the calls can take the two apart.
-/

namespace RevitPy

inductive RegistryCall
  | register_extension (metadata : ExtensionMetadata)
  | unregister_extension (name_or_id : String)

namespace ExtensionRegistry
variable (r : ExtensionRegistry)

def call : RegistryCall → ExtensionRegistry
  | .register_extension metadata => r.register_extension metadata
  | .unregister_extension name_or_id => (r.unregister_extension name_or_id).2

/-- A record is found under its name, or is shadowed by a registered record with that name. -/
def Reachable (metadata : ExtensionMetadata) : Prop :=
  ∃ found ∈ r.get_all_extensions, found.name = metadata.name ∧ r.get_extension metadata.name = some found

structure Consistent : Prop where
  reachable : ∀ metadata ∈ r.get_all_extensions, r.Reachable metadata
  by_name_registered : ∀ name metadata, r._extensions_by_name.get? name = some metadata → metadata ∈ r.get_all_extensions

/-- No call of `unregister_extension` makes a record unreachable that it leaves registered. -/
def LosesNone : RegistryCall → Prop
  | .register_extension _ => True
  | .unregister_extension name_or_id => ∀ metadata ∈ (r.unregister_extension name_or_id).2.get_all_extensions,
      r.Reachable metadata → (r.unregister_extension name_or_id).2.Reachable metadata

/-- A registration keeps the indexes together: the record whose id it takes over does not stay under
    another name, and neither its id nor its name is that of a record with another name. -/
structure FitsIn (metadata : ExtensionMetadata) : Prop where
  replaced : ∀ old, r._extensions.get? metadata.extension_id = some old → old.name ≠ metadata.name →
    r._extensions_by_name.get? old.name ≠ some old
  id_no_name : ∀ other ∈ r.get_all_extensions, other.extension_id ≠ metadata.extension_id → other.name = metadata.extension_id →
    metadata.name = metadata.extension_id
  name_no_id : ∀ other, r._extensions.get? metadata.name = some other → metadata.name ≠ metadata.extension_id → other.name = metadata.name

/-- No other registered record has the name of one that is removed, but where a third one is found
    by that name as its id. -/
def RemovesAlone (name_or_id : String) : Prop :=
  ∀ removed, r.get_extension name_or_id = some removed → ∀ other ∈ r.get_all_extensions, other.extension_id ≠ removed.extension_id →
    other.name = removed.name → ∃ third, r._extensions.get? removed.name = some third ∧ third.extension_id ≠ removed.extension_id

def Fits : RegistryCall → Prop
  | .register_extension metadata => r.FitsIn metadata
  | .unregister_extension name_or_id => r.RemovesAlone name_or_id

variable {r}

theorem mem_all_iff (metadata : ExtensionMetadata) :
    metadata ∈ r.get_all_extensions ↔ r._extensions.get? metadata.extension_id = some metadata := by
  rw [get_all_extensions, Dict.values, List.mem_map]
  constructor
  · rintro ⟨⟨key, value⟩, member, rfl⟩
    have found := (Dict.get?_some_iff _ _ _).mpr member
    rwa [r.by_id key value found]
  · exact fun found => ⟨_, (Dict.get?_some_iff _ _ _).mp found, rfl⟩

theorem mem_all_of_get? {key : String} {metadata : ExtensionMetadata} (found : r._extensions.get? key = some metadata) :
    metadata ∈ r.get_all_extensions := by
  rw [mem_all_iff, r.by_id key metadata found]
  exact found

theorem get_extension_eq (r : ExtensionRegistry) (key : String) :
    r.get_extension key = (r._extensions.get? key).or (r._extensions_by_name.get? key) := by
  unfold get_extension
  cases r._extensions.get? key <;> rfl

/-- A record that is found is registered, if the index by name points to registered records only. -/
theorem Consistent.found (consistent : r.Consistent) {name_or_id : String} {metadata : ExtensionMetadata}
    (found : r.get_extension name_or_id = some metadata) : metadata ∈ r.get_all_extensions := by
  unfold get_extension at found
  cases known : r._extensions.get? name_or_id with
  | some other =>
    simp only [known, Option.some.injEq] at found
    exact found ▸ mem_all_of_get? known
  | none =>
    simp only [known] at found
    exact consistent.by_name_registered _ _ found

/-- A record that has a name as its id has it as its name too, if another record is called so. -/
theorem Consistent.id_named (consistent : r.Consistent) {metadata other : ExtensionMetadata} (member : metadata ∈ r.get_all_extensions)
    (found : r._extensions.get? metadata.name = some other) : other.name = metadata.name := by
  obtain ⟨shadow, -, named, got⟩ := consistent.reachable metadata member
  simp only [get_extension, found, Option.some.injEq] at got
  exact got ▸ named

/-- An id belongs to one registered record. -/
theorem eq_of_same_id {metadata other : ExtensionMetadata} (member : metadata ∈ r.get_all_extensions) (present : other ∈ r.get_all_extensions)
    (same : metadata.extension_id = other.extension_id) : metadata = other := by
  have known := (mem_all_iff metadata).mp member
  rw [same, (mem_all_iff other).mp present, Option.some.injEq] at known
  exact known.symm

/-! ## A registration -/

section Registration
variable (metadata : ExtensionMetadata)

theorem register_get? (key : String) : (r.register_extension metadata)._extensions.get? key =
    if metadata.extension_id = key then some metadata else r._extensions.get? key := Dict.get?_set ..

theorem register_named (key : String) : (r.register_extension metadata)._extensions_by_name.get? key =
    if metadata.name = key then some metadata else r._extensions_by_name.get? key := Dict.get?_set ..

theorem mem_register (other : ExtensionMetadata) : other ∈ (r.register_extension metadata).get_all_extensions ↔
    other = metadata ∨ other.extension_id ≠ metadata.extension_id ∧ other ∈ r.get_all_extensions := by
  rw [mem_all_iff, mem_all_iff, register_get?]
  by_cases same : metadata.extension_id = other.extension_id
  · simp [same, eq_comm]
  · have apart : other ≠ metadata := fun equal => same (equal ▸ rfl)
    simp [same, Ne.symm same, apart]

theorem register_found (key : String) : (r.register_extension metadata).get_extension key =
    (if metadata.extension_id = key then some metadata else r._extensions.get? key).or
      (if metadata.name = key then some metadata else r._extensions_by_name.get? key) := by
  rw [get_extension_eq, register_get?, register_named]

variable {metadata}

theorem registered : metadata ∈ (r.register_extension metadata).get_all_extensions := (mem_register metadata metadata).mpr (.inl rfl)

/-- What another id points to stays, and comes before any name. -/
theorem register_elsewhere {key : String} {third : ExtensionMetadata} (apart : metadata.extension_id ≠ key)
    (known : r._extensions.get? key = some third) :
    third ∈ (r.register_extension metadata).get_all_extensions ∧ (r.register_extension metadata).get_extension key = some third := by
  constructor
  · refine (mem_register metadata third).mpr (.inr ⟨?_, mem_all_of_get? known⟩)
    rw [r.by_id _ _ known]
    exact Ne.symm apart
  · rw [register_found, if_neg apart, known, Option.some_or]

theorem fits_of_register (after : (r.register_extension metadata).Consistent) : r.FitsIn metadata := by
  refine ⟨?_, ?_, ?_⟩
  · intro old taken renamed stale
    have points : (r.register_extension metadata)._extensions_by_name.get? old.name = some old := by
      rw [register_named, if_neg (Ne.symm renamed)]
      exact stale
    rcases (mem_register metadata old).mp (after.by_name_registered _ _ points) with rfl | ⟨other_id, -⟩
    · exact renamed rfl
    · exact other_id (r.by_id _ _ taken)
  · intro other member other_id named
    obtain ⟨found, -, found_name, got⟩ := after.reachable other ((mem_register metadata other).mpr (.inr ⟨other_id, member⟩))
    rw [register_found, if_pos named.symm, Option.some_or, Option.some.injEq] at got
    exact (congrArg ExtensionMetadata.name got).trans (found_name.trans named)
  · intro other known apart
    obtain ⟨found, -, found_name, got⟩ := after.reachable metadata registered
    rw [(register_elsewhere (Ne.symm apart) known).2, Option.some.injEq] at got
    exact got ▸ found_name

namespace FitsIn
variable (fits : r.FitsIn metadata)
include fits

/-- No name is left to a record whose id is taken over. -/
theorem not_replaced {found : ExtensionMetadata} (renamed : metadata.name ≠ found.name) (present : found ∈ r.get_all_extensions)
    (points : r._extensions_by_name.get? found.name = some found) : found.extension_id ≠ metadata.extension_id := by
  intro taken
  have old : r._extensions.get? metadata.extension_id = some found := taken ▸ (mem_all_iff found).mp present
  exact fits.replaced found old (Ne.symm renamed) points

theorem reaches_registered : (r.register_extension metadata).Reachable metadata := by
  by_cases own : metadata.extension_id = metadata.name
  · exact ⟨metadata, registered, rfl, by rw [register_found, if_pos own, Option.some_or]⟩
  · cases known : r._extensions.get? metadata.name with
    | some third =>
      obtain ⟨member, found⟩ := register_elsewhere own known
      exact ⟨third, member, fits.name_no_id third known (Ne.symm own), found⟩
    | none => exact ⟨metadata, registered, rfl, by rw [register_found, if_neg own, known, if_pos rfl, Option.none_or]⟩

theorem reaches_earlier (consistent : r.Consistent) {other : ExtensionMetadata} (other_id : other.extension_id ≠ metadata.extension_id)
    (earlier : other ∈ r.get_all_extensions) : (r.register_extension metadata).Reachable other := by
  by_cases own : metadata.extension_id = other.name
  · have named := fits.id_no_name other earlier other_id own.symm
    exact ⟨metadata, registered, named.trans own, by rw [register_found, if_pos own, Option.some_or]⟩
  · cases known : r._extensions.get? other.name with
    | some third =>
      obtain ⟨member, found⟩ := register_elsewhere own known
      exact ⟨third, member, consistent.id_named earlier known, found⟩
    | none =>
      have by_name_only : (r.register_extension metadata).get_extension other.name =
          if metadata.name = other.name then some metadata else r._extensions_by_name.get? other.name := by
        rw [register_found, if_neg own, known, Option.none_or]
      by_cases shared : metadata.name = other.name
      · exact ⟨metadata, registered, shared, by rw [by_name_only, if_pos shared]⟩
      · obtain ⟨found, present, named, got⟩ := consistent.reachable other earlier
        rw [get_extension_eq, known, Option.none_or] at got
        have kept := fits.not_replaced (named ▸ shared) present (named ▸ got)
        exact ⟨found, (mem_register metadata found).mpr (.inr ⟨kept, present⟩), named, by rw [by_name_only, if_neg shared, got]⟩

theorem names_registered (consistent : r.Consistent) {name : String} {other : ExtensionMetadata}
    (points : (r.register_extension metadata)._extensions_by_name.get? name = some other) :
    other ∈ (r.register_extension metadata).get_all_extensions := by
  rw [register_named] at points
  by_cases same : metadata.name = name
  · rw [if_pos same, Option.some.injEq] at points
    exact points ▸ registered
  · rw [if_neg same] at points
    have named := r.by_name _ _ points
    have present := consistent.by_name_registered _ _ points
    exact (mem_register metadata other).mpr (.inr ⟨fits.not_replaced (named ▸ same) present (named ▸ points), present⟩)

end FitsIn

theorem consistent_register (consistent : r.Consistent) : (r.register_extension metadata).Consistent ↔ r.FitsIn metadata := by
  refine ⟨fits_of_register, fun fits => ⟨?_, fun name other points => fits.names_registered consistent points⟩⟩
  intro other member
  rcases (mem_register metadata other).mp member with rfl | ⟨other_id, earlier⟩
  · exact fits.reaches_registered
  · exact fits.reaches_earlier consistent other_id earlier

end Registration

/-! ## A removal -/

section Removal
variable {name_or_id : String} {removed : ExtensionMetadata} (got : r.get_extension name_or_id = some removed)
include got

theorem unregister_get? (key : String) : (r.unregister_extension name_or_id).2._extensions.get? key =
    if removed.extension_id = key then none else r._extensions.get? key := by
  simp only [unregister_extension, got]
  exact Dict.get?_erase ..

theorem unregister_named (key : String) : (r.unregister_extension name_or_id).2._extensions_by_name.get? key =
    if removed.name = key then none else r._extensions_by_name.get? key := by
  simp only [unregister_extension, got]
  exact Dict.get?_erase ..

theorem mem_unregister (other : ExtensionMetadata) : other ∈ (r.unregister_extension name_or_id).2.get_all_extensions ↔
    other.extension_id ≠ removed.extension_id ∧ other ∈ r.get_all_extensions := by
  rw [mem_all_iff, mem_all_iff, unregister_get? got]
  by_cases same : removed.extension_id = other.extension_id
  · simp [same]
  · simp [same, Ne.symm same]

theorem unregister_found (key : String) : (r.unregister_extension name_or_id).2.get_extension key =
    (if removed.extension_id = key then none else r._extensions.get? key).or
      (if removed.name = key then none else r._extensions_by_name.get? key) := by
  rw [get_extension_eq, unregister_get? got, unregister_named got]

theorem alone_of_unregister (after : (r.unregister_extension name_or_id).2.Consistent) : r.RemovesAlone name_or_id := by
  intro gone found other member other_id named
  cases got.symm.trans found
  obtain ⟨shadow, -, -, reached⟩ := after.reachable other ((mem_unregister got other).mpr ⟨other_id, member⟩)
  rw [unregister_found got, named, if_pos rfl, Option.or_none] at reached
  by_cases own : removed.extension_id = removed.name
  · rw [if_pos own] at reached
    cases reached
  · rw [if_neg own] at reached
    exact ⟨shadow, reached, by rw [r.by_id _ _ reached]; exact Ne.symm own⟩

theorem RemovesAlone.reaches (alone : r.RemovesAlone name_or_id) (consistent : r.Consistent) {other : ExtensionMetadata}
    (other_id : other.extension_id ≠ removed.extension_id) (earlier : other ∈ r.get_all_extensions) :
    (r.unregister_extension name_or_id).2.Reachable other := by
  have present := consistent.found got
  by_cases shared : other.name = removed.name
  · obtain ⟨third, known, apart⟩ := alone removed got other earlier other_id shared
    have own : removed.extension_id ≠ removed.name := fun same => apart ((r.by_id _ _ known).trans same.symm)
    refine ⟨third, (mem_unregister got third).mpr ⟨apart, mem_all_of_get? known⟩, ?_, ?_⟩
    · exact (consistent.id_named present known).trans shared.symm
    · rw [unregister_found got, shared, if_neg own, known, Option.some_or]
  · obtain ⟨found, kept, named, reached⟩ := consistent.reachable other earlier
    have apart : found.extension_id ≠ removed.extension_id := fun same =>
      shared (named.symm.trans (congrArg ExtensionMetadata.name (eq_of_same_id kept present same)))
    have elsewhere : removed.extension_id ≠ other.name := by
      intro same
      have known := (mem_all_iff removed).mp present
      rw [same] at known
      exact shared (consistent.id_named earlier known).symm
    refine ⟨found, (mem_unregister got found).mpr ⟨apart, kept⟩, named, ?_⟩
    rw [unregister_found got, if_neg elsewhere, if_neg (Ne.symm shared), ← get_extension_eq, reached]

theorem unregister_names_registered (consistent : r.Consistent) {name : String} {other : ExtensionMetadata}
    (points : (r.unregister_extension name_or_id).2._extensions_by_name.get? name = some other) :
    other ∈ (r.unregister_extension name_or_id).2.get_all_extensions := by
  rw [unregister_named got] at points
  by_cases same : removed.name = name
  · simp [same] at points
  · rw [if_neg same] at points
    have present := consistent.by_name_registered _ _ points
    refine (mem_unregister got other).mpr ⟨fun taken => ?_, present⟩
    have equal := eq_of_same_id present (consistent.found got) taken
    exact same (equal ▸ r.by_name _ _ points)

omit got in
theorem consistent_unregister (consistent : r.Consistent) (name_or_id : String) :
    (r.unregister_extension name_or_id).2.Consistent ↔ r.RemovesAlone name_or_id := by
  cases got : r.get_extension name_or_id with
  | none =>
    have same : (r.unregister_extension name_or_id).2 = r := by simp only [unregister_extension, got]
    rw [same]
    exact iff_of_true consistent fun removed found => by rw [got] at found; cases found
  | some removed =>
    refine ⟨alone_of_unregister got, fun alone => ⟨?_, fun name other points => unregister_names_registered got consistent points⟩⟩
    intro other member
    obtain ⟨other_id, earlier⟩ := (mem_unregister got other).mp member
    exact alone.reaches got consistent other_id earlier

end Removal

/-! ## Runs -/

theorem consistent_call_iff (consistent : r.Consistent) (made : RegistryCall) : (r.call made).Consistent ↔ r.Fits made := by
  cases made with
  | register_extension metadata => exact consistent_register consistent
  | unregister_extension name_or_id => exact consistent_unregister consistent name_or_id

theorem consistent_empty : empty.Consistent := ⟨fun metadata member => (by cases member), fun name metadata found => (by cases found)⟩

/-- A removal after which the indexes are consistent loses no record. -/
theorem Consistent.loses_none {made : RegistryCall} (after : (r.call made).Consistent) : r.LosesNone made := by
  cases made with
  | register_extension metadata => trivial
  | unregister_extension name_or_id => exact fun metadata member before => after.reachable metadata member

/-- The indexes are consistent in every state of a run, and no removal loses another record, exactly
    if every call of the run fits. -/
theorem consistent_iff (calls : List RegistryCall) :
    Runs.Throughout call Consistent empty calls ∧ Runs.Along call LosesNone empty calls ↔ Runs.Along call Fits empty calls := by
  have keeps : ∀ r made, Consistent r → Fits r made → Consistent (r.call made) := fun r made consistent =>
    (consistent_call_iff consistent made).mpr
  have shows : ∀ r made, Consistent r → Consistent (r.call made) → Fits r made ∧ LosesNone r made := fun r made consistent after =>
    ⟨(consistent_call_iff consistent made).mp after, after.loses_none⟩
  have both (throughout : Runs.Throughout call Consistent empty calls) : Runs.Along call (fun r made => Fits r made ∧ LosesNone r made) empty calls :=
    Runs.along_of_throughout (fun r made consistent fits => keeps r made consistent fits.1) shows consistent_empty throughout
  constructor
  · rintro ⟨throughout, -⟩
    exact (Runs.along_and.mp (both throughout)).1
  · intro along
    have throughout := Runs.throughout_keeps keeps consistent_empty along
    exact ⟨throughout, (Runs.along_and.mp (both throughout)).2⟩

/-- Two records with one name, of which the first is removed: the second one is not found any more. -/
theorem namesake_lost : ∃ calls : List RegistryCall, (∃ metadata ∈ (calls.foldl call empty).get_all_extensions,
      (calls.foldl call empty).get_extension metadata.name = none) ∧
    ¬ (Runs.Throughout call Consistent empty calls ∧ Runs.Along call LosesNone empty calls) := by
  refine ⟨[.register_extension ⟨"tools", [], "1"⟩, .register_extension ⟨"tools", [], "2"⟩, .unregister_extension "1"],
    ⟨⟨"tools", [], "2"⟩, by decide +kernel, by decide +kernel⟩, ?_⟩
  rintro ⟨throughout, -⟩
  have last := Runs.throughout_last throughout
  obtain ⟨found, -, -, got⟩ := last.reachable ⟨"tools", [], "2"⟩ (by decide +kernel)
  have none_found : (List.foldl call empty [.register_extension ⟨"tools", [], "1"⟩, .register_extension ⟨"tools", [], "2"⟩,
      .unregister_extension "1"]).get_extension "tools" = none := by decide +kernel
  rw [none_found] at got
  cases got

end ExtensionRegistry
end RevitPy
