import Mathlib
import RevitPy.Cache

/-!
# The text of a cache key

The text is the only key of a cache. Its parts stand between bars, each under a label
of its own, so keys without bars in their parts are read back from it, up to the parts
that are left out: an id of zero, an empty hash and an empty path, like no part at all.
-/

namespace RevitPy

/-- A character that no numeral has. -/
theorem not_mem_toString {c : Char} (sign : c ≠ '-') (letter : c.isDigit = false) (n : Int) : c ∉ (toString n).toList := by
  have digits (k : Nat) : c ∉ (toString k).toList := fun member => by
    have digit := Nat.isDigit_of_mem_toDigits (n := k) (by decide) (by decide) (Nat.toList_repr ▸ member)
    rw [letter] at digit
    cases digit
  cases n with
  | ofNat k => exact digits k
  | negSucc k =>
    have shape : (toString (Int.negSucc k)).toList = '-' :: (toString (k + 1)).toList := String.toList_append ..
    rw [shape, List.mem_cons, not_or]
    exact ⟨sign, digits (k + 1)⟩

/-- Create cache key for a query result. -/
def create_query_cache_key (entity_type query_hash : String) : CacheKey :=
  { entity_type := entity_type, query_hash := some query_hash }

/-- Create cache key for a relationship. -/
def create_relationship_cache_key (entity_type : String) (entity_id : Option ElementId) (relationship_path : String) : CacheKey :=
  { entity_type := entity_type, entity_id := entity_id, relationship_path := some relationship_path }

namespace CacheKey

/-- No bar in the texts of a key, and an id that is none or an integer. -/
structure Plain (key : CacheKey) : Prop where
  entity_type : '|' ∉ key.entity_type.toList
  entity_id : ∀ id, key.entity_id = some id → ∃ n, id = .int n
  query_hash : ∀ text, key.query_hash = some text → '|' ∉ text.toList
  relationship_path : ∀ text, key.relationship_path = some text → '|' ∉ text.toList

/-- The parts of two keys agree. -/
def Agree (key other : CacheKey) : Prop :=
  key.entity_type = other.entity_type ∧ key.entity_id = other.entity_id ∧ key.query_hash = other.query_hash ∧
    key.relationship_path = other.relationship_path

/-- A key without the parts that are not truthy. -/
def shown (key : CacheKey) : CacheKey where
  entity_type := key.entity_type
  query_hash := key.query_hash.filter fun text => text ≠ ""
  entity_id := key.entity_id.filter ElementId.truthy
  relationship_path := key.relationship_path.filter fun text => text ≠ ""

/-- Keys that differ, but only in ids of zero, empty hashes and empty paths where the
    other key has no such part. -/
def DifferInVain (key other : CacheKey) : Prop := ¬key.Agree other ∧ key.shown.Agree other.shown

/-- What stands between the bars. -/
def parts (key : CacheKey) : List String :=
  [key.entity_type] ++ id_part key.entity_id ++ part "query:" key.query_hash ++ part "rel:" key.relationship_path

/-! ## What the parts say -/

theorem toList_inj {α : Type} {o o' : Option α} : o.toList = o'.toList ↔ o = o' := by
  refine ⟨fun same => ?_, congrArg Option.toList⟩
  rw [← Option.head?_toList (o := o), same, Option.head?_toList]

theorem part_eq (label : String) (text : Option String) :
    part label text = ((text.filter fun text => text ≠ "").map fun text => label ++ text).toList := by
  cases text with
  | none => rfl
  | some text => by_cases empty : text = "" <;> simp [part, Option.filter, empty]

theorem id_part_eq (entity_id : Option ElementId) :
    id_part entity_id = ((entity_id.filter ElementId.truthy).map fun id => "id:" ++ id.text).toList := by
  cases entity_id with
  | none => rfl
  | some id => cases truthy : id.truthy <;> simp [id_part, Option.filter, truthy]

theorem part_inj {label : String} {text other : Option String} :
    part label text = part label other ↔ (text.filter fun text => text ≠ "") = other.filter fun text => text ≠ "" := by
  rw [part_eq, part_eq, toList_inj]
  exact (Option.map_injective fun _ _ same => (String.append_right_inj label).mp same).eq_iff

/-- Integers are told apart by their texts. -/
theorem id_part_inj {entity_id other : Option ElementId} (integer : ∀ id, entity_id = some id → ∃ n, id = .int n)
    (integer' : ∀ id, other = some id → ∃ n, id = .int n) :
    id_part entity_id = id_part other ↔ entity_id.filter ElementId.truthy = other.filter ElementId.truthy := by
  refine ⟨fun same => ?_, fun same => by rw [id_part_eq, id_part_eq, same]⟩
  rw [id_part_eq, id_part_eq, toList_inj] at same
  cases shown : entity_id.filter ElementId.truthy with
  | none =>
    rw [shown, Option.map_none, eq_comm, Option.map_eq_none_iff] at same
    exact same.symm
  | some id =>
    rw [shown, Option.map_some, eq_comm, Option.map_eq_some_iff] at same
    obtain ⟨id', shown', texts⟩ := same
    obtain ⟨n, rfl⟩ := integer id (Option.eq_some_of_filter_eq_some shown)
    obtain ⟨n', rfl⟩ := integer' id' (Option.eq_some_of_filter_eq_some shown')
    obtain rfl : n' = n := Int.repr_injective ((String.append_right_inj "id:").mp texts)
    exact shown'.symm

/-! ## What the text says -/

/-- Every text of a list begins with a character. -/
def Begin (first : Char) (texts : List String) : Prop := ∀ text ∈ texts, text.toList.head? = some first

theorem begin_part (label : String) {first : Char} (begins : ∀ text : String, (label ++ text).toList.head? = some first)
    (text : Option String) : Begin first (part label text) := by
  intro shown member
  rw [part_eq, Option.mem_toList, Option.map_eq_some_iff] at member
  obtain ⟨text, -, rfl⟩ := member
  exact begins text

theorem begin_id_part (entity_id : Option ElementId) : Begin 'i' (id_part entity_id) := by
  intro shown member
  rw [id_part_eq, Option.mem_toList, Option.map_eq_some_iff] at member
  obtain ⟨id, -, rfl⟩ := member
  simp [String.toList_append]

/-- Texts that begin otherwise are not among those that begin with a character. -/
theorem filter_begin {first other : Char} {texts : List String} (begins : Begin other texts) :
    (texts.filter fun text => text.toList.head? = some first) = if other = first then texts else [] := by
  split
  · next same =>
    subst same
    exact List.filter_eq_self.mpr fun text member => decide_eq_true (begins text member)
  · next different =>
    refine List.filter_eq_nil_iff.mpr fun text member => ?_
    simp [begins text member, different]

/-- The labels tell the optional parts of two keys apart. -/
theorem parts_inj {key other : CacheKey} (same : key.parts = other.parts) :
    key.entity_type = other.entity_type ∧ id_part key.entity_id = id_part other.entity_id ∧
      part "query:" key.query_hash = part "query:" other.query_hash ∧
      part "rel:" key.relationship_path = part "rel:" other.relationship_path := by
  have query (text : Option String) : Begin 'q' (part "query:" text) := begin_part "query:" (fun text => by simp) text
  have rel (text : Option String) : Begin 'r' (part "rel:" text) := begin_part "rel:" (fun text => by simp) text
  simp only [parts, List.append_assoc, List.cons_append, List.nil_append, List.cons.injEq] at same
  have kept (first : Char) := congrArg (List.filter fun text : String => text.toList.head? = some first) same.2
  simp only [List.filter_append, filter_begin (begin_id_part _), filter_begin (query _), filter_begin (rel _)] at kept
  exact ⟨same.1, by simpa using kept 'i', by simpa using kept 'q', by simpa using kept 'r'⟩

theorem bar_not_mem_parts {key : CacheKey} (plain : key.Plain) : ∀ text ∈ key.parts, '|' ∉ text.toList := by
  have labelled {label : String} {text : Option String} (clean : '|' ∉ label.toList)
      (bare : ∀ t, text = some t → '|' ∉ t.toList) : ∀ shown ∈ part label text, '|' ∉ shown.toList := by
    intro shown member
    rw [part_eq, Option.mem_toList, Option.map_eq_some_iff] at member
    obtain ⟨t, kept, rfl⟩ := member
    rw [String.toList_append, List.mem_append, not_or]
    exact ⟨clean, bare t (Option.eq_some_of_filter_eq_some kept)⟩
  intro text member
  simp only [parts, List.append_assoc, List.cons_append, List.nil_append, List.mem_cons, List.mem_append] at member
  rcases member with rfl | id | query | rel
  · exact plain.entity_type
  · rw [id_part_eq, Option.mem_toList, Option.map_eq_some_iff] at id
    obtain ⟨id, kept, rfl⟩ := id
    obtain ⟨n, rfl⟩ := plain.entity_id id (Option.eq_some_of_filter_eq_some kept)
    rw [String.toList_append, List.mem_append, not_or]
    exact ⟨by decide, not_mem_toString (by decide) (by decide) n⟩
  · exact labelled (by decide) plain.query_hash text query
  · exact labelled (by decide) plain.relationship_path text rel

/-- The text of a key is read back by its bars. -/
theorem splitOn_str {key : CacheKey} (plain : key.Plain) : key.str.toList.splitOn '|' = key.parts.map String.toList := by
  have text : key.str.toList = ['|'].intercalate (key.parts.map String.toList) := String.toList_intercalate
  rw [text]
  refine List.splitOn_intercalate '|' (fun part member => ?_) (by simp [parts])
  obtain ⟨text, known, rfl⟩ := List.mem_map.mp member
  exact bar_not_mem_parts plain text known

/-- Two keys have one text exactly where they show the same. -/
theorem str_eq_iff {key other : CacheKey} (plain : key.Plain) (plain' : other.Plain) :
    key.str = other.str ↔ key.shown.Agree other.shown := by
  constructor
  · intro same
    have texts := congrArg (fun text : String => text.toList.splitOn '|') same
    simp only [splitOn_str plain, splitOn_str plain'] at texts
    obtain ⟨types, ids, hashes, paths⟩ := parts_inj (List.map_injective_iff.mpr (fun _ _ => String.toList_inj.mp) texts)
    exact ⟨types, (id_part_inj plain.entity_id plain'.entity_id).mp ids, part_inj.mp hashes, part_inj.mp paths⟩
  · rintro ⟨types, ids, hashes, paths⟩
    have types : key.entity_type = other.entity_type := types
    rw [str, str, types, (id_part_inj plain.entity_id plain'.entity_id).mpr ids, part_inj.mpr hashes, part_inj.mpr paths]

theorem Agree.shown {key other : CacheKey} (agree : key.Agree other) : key.shown.Agree other.shown := by
  obtain ⟨types, ids, hashes, paths⟩ := agree
  simp [Agree, CacheKey.shown, types, ids, hashes, paths]

/-- Texts identify keys, apart from those that differ only in parts that are not shown. -/
theorem str_identifies_iff {key other : CacheKey} (plain : key.Plain) (plain' : other.Plain) :
    (key.str = other.str ↔ key.Agree other) ↔ ¬key.DifferInVain other := by
  rw [str_eq_iff plain plain', DifferInVain]
  have shows : key.Agree other → key.shown.Agree other.shown := Agree.shown
  tauto

theorem plain_entity {entity_type : String} (bare : '|' ∉ entity_type.toList) {entity_id : Option ElementId}
    (integer : ∀ id, entity_id = some id → ∃ n, id = .int n) : (create_entity_cache_key entity_type entity_id).Plain where
  entity_type := bare
  entity_id := integer
  query_hash := fun _ known => by cases known
  relationship_path := fun _ known => by cases known

theorem plain_query {entity_type query_hash : String} (bare : '|' ∉ entity_type.toList) (bare' : '|' ∉ query_hash.toList) :
    (create_query_cache_key entity_type query_hash).Plain where
  entity_type := bare
  entity_id := fun _ known => by cases known
  query_hash := fun _ known => Option.some.inj known ▸ bare'
  relationship_path := fun _ known => by cases known

theorem plain_relationship {entity_type path : String} (bare : '|' ∉ entity_type.toList) (n : Int) (bare' : '|' ∉ path.toList) :
    (create_relationship_cache_key entity_type (some (.int n)) path).Plain where
  entity_type := bare
  entity_id := fun _ known => ⟨n, (Option.some.inj known).symm⟩
  query_hash := fun _ known => by cases known
  relationship_path := fun _ known => Option.some.inj known ▸ bare'

/-- The entity with an id of zero has the text of its type. -/
theorem zero_id_unseen : ∃ key other : CacheKey, key.Plain ∧ other.Plain ∧ ¬(key.str = other.str ↔ key.Agree other) := by
  refine ⟨create_entity_cache_key "Wall" (some (.int 0)), create_entity_cache_key "Wall" none, ?_, ?_, fun identifies => ?_⟩
  · exact plain_entity (by decide) fun _ known => ⟨0, (Option.some.inj known).symm⟩
  · exact plain_entity (by decide) fun _ known => by cases known
  · cases (identifies.mp (by decide)).2.1

theorem relationship_and_query :
    ((create_relationship_cache_key "Wall" (some (.int 7)) "doors").str = (create_query_cache_key "Wall" "7").str ↔
      (create_relationship_cache_key "Wall" (some (.int 7)) "doors").Agree (create_query_cache_key "Wall" "7")) ↔
    ¬(create_relationship_cache_key "Wall" (some (.int 7)) "doors").DifferInVain (create_query_cache_key "Wall" "7") :=
  str_identifies_iff (plain_relationship (by decide) 7 (by decide)) (plain_query (by decide) (by decide))

end CacheKey
end RevitPy
