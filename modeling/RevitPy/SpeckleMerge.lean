import RevitPy.SpeckleDiff

/-!
# Merging two lists of elements

A merge calls the modified properties of a comparison its conflicts, and resolving them gives for
each the value of one side. Laid on the elements of the other side, these values make up for all
that the comparison found in the properties of elements that both sides have.
-/

namespace RevitPy.SpeckleMerge
open SpeckleDiff (DiffEntry)

variable {ω : Type}

inductive ConflictResolution
  | LOCAL_WINS
  | REMOTE_WINS
  | MANUAL
  deriving DecidableEq

structure MergeConflictError where
  message : String
  element_id : Option String
  conflicts : List String
  deriving DecidableEq

/-- Result of merging local and remote element sets. -/
structure MergeResult (ω : Type) where
  merged_count : Nat
  conflict_count : Nat
  conflicts : List (DiffEntry ω)
  resolution : ConflictResolution

structure ResolvedProperty (ω : Type) where
  element_id : String
  property_name : Option String
  resolved_value : PyObject ω

/-- `f"{c.element_id}.{c.property_name}"` -/
def conflict_name (c : DiffEntry ω) : String := c.element_id ++ "." ++ c.property_name.getD "None"

def is_conflict (e : DiffEntry ω) : Bool := e.change_type = .modified

/-- Merge local and remote elements according to the strategy. -/
def merge (py : ObjectMethods ω) (resolution : ConflictResolution) (local_elements remote_elements : List (Members ω))
    (diff_entries : Option (List (DiffEntry ω)) := none) : Except MergeConflictError (MergeResult ω) :=
  let diff_entries := diff_entries.getD (SpeckleDiff.compare py local_elements remote_elements)
  let conflicts := diff_entries.filter is_conflict
  if resolution = .MANUAL ∧ conflicts ≠ [] then
    let ids := (conflicts.map (·.element_id)).dedup
    .error {
      message := "Manual resolution required for " ++ toString conflicts.length ++ " conflict(s)"
      element_id := if ids.length = 1 then ids.head? else none
      conflicts := conflicts.map conflict_name }
  else
    let merged_count := diff_entries.countP fun e => e.change_type = .added || e.change_type = .removed
    let merged_count := if conflicts ≠ [] ∧ resolution ≠ .MANUAL then merged_count + conflicts.length else merged_count
    .ok { merged_count, conflict_count := conflicts.length, conflicts, resolution }

/-- Resolve a list of conflict entries using the given strategy. -/
def resolve_conflicts (conflicts : List (DiffEntry ω)) (strategy : ConflictResolution) :
    Except MergeConflictError (List (ResolvedProperty ω)) :=
  if strategy = .MANUAL then
    .error ⟨"Cannot auto-resolve with MANUAL strategy", none, conflicts.map conflict_name⟩
  else .ok (conflicts.map fun c =>
    { element_id := c.element_id
      property_name := c.property_name
      resolved_value := if strategy = .LOCAL_WINS then c.local_value else c.remote_value })

/-! ## What a resolution is for -/

/-- An element with the values that were resolved for it. -/
def lay (resolved : List (ResolvedProperty ω)) (id : String) (element : Members ω) : Members ω :=
  resolved.foldl (fun element r =>
    match r.property_name with
    | some key => if r.element_id = id then element.set key r.resolved_value else element
    | none => element) element

/-- Laid on the element of one side, what was resolved for the other side leaves no difference: a property has
    the value of the winner, or the two agreed before and it is as it was. Ignored keys keep their values. -/
structure Settles (py : ObjectMethods ω) (resolved : List (ResolvedProperty ω)) (id : String) (loser winner : Members ω) : Prop where
  settled : ∀ key, key ∉ SpeckleDiff._ignored_keys → (lay resolved id loser).get key = winner.get key ∨
    (lay resolved id loser).get key = loser.get key ∧ ((loser.get key).eq py (winner.get key) = true ∨ (winner.get key).eq py (loser.get key) = true)
  ignored : ∀ key ∈ SpeckleDiff._ignored_keys, (lay resolved id loser).get key = loser.get key
  unmoved : ∀ key, (lay resolved id winner).get key = winner.get key

/-! ## Laying values -/

theorem get_set (element : Members ω) (key : String) (value : PyObject ω) (other : String) :
    Members.get (element.set key value) other = if key = other then value else element.get other := by
  rw [Members.get, Dict.getD, Dict.get?_set]
  split <;> rfl

/-- Where the values resolved for a property are all the same, it has this value, or what it had where there is none. -/
theorem get_lay {resolved : List (ResolvedProperty ω)} {id key : String} {value : PyObject ω}
    (same : ∀ r ∈ resolved, r.element_id = id → r.property_name = some key → r.resolved_value = value) (element : Members ω) :
    (lay resolved id element).get key =
      if ∃ r ∈ resolved, r.element_id = id ∧ r.property_name = some key then value else element.get key := by
  induction resolved generalizing element with
  | nil => simp [lay]
  | cons first rest ih =>
    have later := ih fun r member => same r (List.mem_cons_of_mem _ member)
    rw [lay, List.foldl_cons]
    refine (later _).trans ?_
    by_cases again : ∃ r ∈ rest, r.element_id = id ∧ r.property_name = some key
    · obtain ⟨r, member, named⟩ := again
      rw [if_pos ⟨r, member, named⟩, if_pos ⟨r, List.mem_cons_of_mem _ member, named⟩]
    · rw [if_neg again]
      by_cases here : first.element_id = id ∧ first.property_name = some key
      · rw [if_pos ⟨first, List.mem_cons_self, here⟩, here.2]
        simp only [here.1, if_true]
        rw [get_set, if_pos rfl, same first List.mem_cons_self here.1 here.2]
      · have nowhere : ¬∃ r ∈ first :: rest, r.element_id = id ∧ r.property_name = some key := by
          rintro ⟨r, member, named⟩
          rcases List.mem_cons.mp member with rfl | member
          · exact here named
          · exact again ⟨r, member, named⟩
        rw [if_neg nowhere]
        cases property : first.property_name with
        | none => rfl
        | some other =>
          dsimp only
          split
          · next own =>
            have different : other ≠ key := fun equal => here ⟨own, equal ▸ property⟩
            rw [get_set, if_neg different]
          · rfl

/-! ## The conflicts of a comparison -/

section
variable {py : ObjectMethods ω} {locals remotes : List (Members ω)} {id : String} {l r : Members ω}

/-- A conflict of an id is in a property in which the elements found under it differ. -/
theorem conflict_of_mem {entry : DiffEntry ω} (member : entry ∈ (SpeckleDiff.compare py locals remotes).filter is_conflict) :
    ∃ l r key, SpeckleDiff.found py entry.element_id locals = some l ∧ SpeckleDiff.found py entry.element_id remotes = some r ∧
      SpeckleDiff.differ py l r key = true ∧ entry.property_name = some key ∧ entry.local_value = l.get key ∧ entry.remote_value = r.get key := by
  obtain ⟨listed, modified⟩ := List.mem_filter.mp member
  have modified : entry.change_type = .modified := of_decide_eq_true modified
  rw [SpeckleDiff.compare, List.mem_append, List.mem_append] at listed
  rcases listed with (added | removed) | changed
  · obtain ⟨eid, -, here⟩ := List.mem_flatMap.mp added
    split at here
    · cases here
    · rw [List.mem_singleton.mp here] at modified
      cases modified
  · obtain ⟨eid, -, here⟩ := List.mem_flatMap.mp removed
    split at here
    · cases here
    · rw [List.mem_singleton.mp here] at modified
      cases modified
  · obtain ⟨eid, -, here⟩ := List.mem_flatMap.mp changed
    split at here
    · next l r left right =>
      obtain ⟨key, among, here⟩ := List.mem_flatMap.mp here
      dsimp only at here
      split at here
      · cases here
      · next unequal =>
        obtain rfl := List.mem_singleton.mp here
        have kept := (List.mergeSort_perm _ _).mem_iff.mp among
        rw [List.mem_dedup, List.mem_filter] at kept
        rw [SpeckleDiff.get?_element_map] at left right
        refine ⟨l, r, key, left, right, ?_, rfl, rfl, rfl⟩
        rw [SpeckleDiff.differ, kept.2, eq_false_of_ne_true unequal]
        rfl
    · cases here

/-- A property in which two elements differ is a conflict. -/
theorem conflict_of_differ (left : SpeckleDiff.found py id locals = some l) (right : SpeckleDiff.found py id remotes = some r) {key : String}
    (differs : SpeckleDiff.differ py l r key = true) :
    ∃ entry ∈ (SpeckleDiff.compare py locals remotes).filter is_conflict, entry.element_id = id ∧ entry.property_name = some key := by
  have counted := @SpeckleDiff.countP_compare _ py locals remotes id .modified (some key)
  rw [SpeckleDiff.get?_element_map, SpeckleDiff.get?_element_map, left, right, SpeckleDiff.calls_for, if_pos differs] at counted
  obtain ⟨entry, member, reported⟩ := List.countP_pos_iff.mp (counted.symm ▸ Nat.one_pos)
  simp only [SpeckleDiff.reports, Bool.and_eq_true, decide_eq_true_eq] at reported
  exact ⟨entry, List.mem_filter.mpr ⟨member, decide_eq_true reported.1.2⟩, reported.1.1, reported.2⟩

/-- What values of one kind, taken from the conflicts, make of the elements. -/
theorem settles_of_values {value_of : DiffEntry ω → PyObject ω} {resolved : List (ResolvedProperty ω)}
    (resolves : resolved = ((SpeckleDiff.compare py locals remotes).filter is_conflict).map fun c => ⟨c.element_id, c.property_name, value_of c⟩)
    (left : SpeckleDiff.found py id locals = some l) (right : SpeckleDiff.found py id remotes = some r) {loser winner : Members ω}
    (wins : ∀ entry key, entry.local_value = l.get key → entry.remote_value = r.get key → value_of entry = winner.get key)
    (sides : ∀ key, (l.get key).eq py (r.get key) = true →
      (loser.get key).eq py (winner.get key) = true ∨ (winner.get key).eq py (loser.get key) = true) :
    Settles py resolved id loser winner := by
  have same (key : String) : ∀ r ∈ resolved, r.element_id = id → r.property_name = some key → r.resolved_value = winner.get key := by
    intro r' member own named
    rw [resolves] at member
    obtain ⟨entry, conflict, rfl⟩ := List.mem_map.mp member
    obtain ⟨l', r', other, left', right', -, property, local_value, remote_value⟩ := conflict_of_mem conflict
    have own : entry.element_id = id := own
    have named : entry.property_name = some key := named
    rw [own] at left' right'
    obtain rfl := Option.some.inj (left'.symm.trans left)
    obtain rfl := Option.some.inj (right'.symm.trans right)
    obtain rfl := Option.some.inj (property.symm.trans named)
    exact wins entry other local_value remote_value
  constructor
  · intro key plain
    rw [get_lay (same key)]
    split
    · exact .inl rfl
    · next nothing =>
      refine .inr ⟨rfl, sides key ?_⟩
      by_contra unequal
      have differs : SpeckleDiff.differ py l r key = true := by
        rw [SpeckleDiff.differ, decide_eq_true plain, eq_false_of_ne_true unequal]
        rfl
      obtain ⟨entry, conflict, own, named⟩ := conflict_of_differ left right differs
      refine nothing ⟨⟨entry.element_id, entry.property_name, value_of entry⟩, ?_, own, named⟩
      rw [resolves]
      exact List.mem_map_of_mem conflict
  · intro key ignored
    rw [get_lay (same key), if_neg]
    rintro ⟨r', member, -, named⟩
    rw [resolves] at member
    obtain ⟨entry, conflict, rfl⟩ := List.mem_map.mp member
    obtain ⟨_, _, other, -, -, differs, property, -⟩ := conflict_of_mem conflict
    obtain rfl := Option.some.inj (property.symm.trans named)
    exact of_decide_eq_true ((Bool.and_eq_true_iff.mp differs).1) ignored
  · intro key
    rw [get_lay (same key)]
    split <;> rfl

/-- An element that only one side has gets no values. -/
theorem lay_of_one_side {value_of : DiffEntry ω → PyObject ω} {resolved : List (ResolvedProperty ω)}
    (resolves : resolved = ((SpeckleDiff.compare py locals remotes).filter is_conflict).map fun c => ⟨c.element_id, c.property_name, value_of c⟩)
    (one_side : SpeckleDiff.found py id locals = none ∨ SpeckleDiff.found py id remotes = none) (element : Members ω) :
    lay resolved id element = element := by
  have others : ∀ r ∈ resolved, r.element_id ≠ id := by
    intro r member own
    rw [resolves] at member
    obtain ⟨entry, conflict, rfl⟩ := List.mem_map.mp member
    obtain ⟨l, r, -, left, right, -⟩ := conflict_of_mem conflict
    have own : entry.element_id = id := own
    rw [own] at left right
    rcases one_side with missing | missing
    · exact nomatch missing.symm.trans left
    · exact nomatch missing.symm.trans right
  clear resolves
  induction resolved with
  | nil => rfl
  | cons first rest ih =>
    have away : first.element_id ≠ id := others first List.mem_cons_self
    rw [lay, List.foldl_cons]
    have skipped : (match first.property_name with
        | some key => if first.element_id = id then element.set key first.resolved_value else element
        | none => element) = element := by
      split
      · rw [if_neg away]
      · rfl
    rw [skipped]
    exact ih fun r member => others r (List.mem_cons_of_mem _ member)

end

/-! ## A merge -/

/-- Every difference is counted as merged, and the conflicts are resolved for the winning side. -/
structure Merges (py : ObjectMethods ω) (strategy : ConflictResolution) (locals remotes : List (Members ω))
    (result : MergeResult ω) (resolved : List (ResolvedProperty ω)) : Prop where
  merged : merge py strategy locals remotes = .ok result
  resolves : resolve_conflicts result.conflicts strategy = .ok resolved
  counted : result.merged_count = (SpeckleDiff.compare py locals remotes).length ∧ result.conflict_count = resolved.length
  settled : ∀ id l r, SpeckleDiff.found py id locals = some l → SpeckleDiff.found py id remotes = some r →
    if strategy = .LOCAL_WINS then Settles py resolved id r l else Settles py resolved id l r
  untouched : ∀ id element, SpeckleDiff.found py id locals = none ∨ SpeckleDiff.found py id remotes = none → lay resolved id element = element

/-- The entries that are no conflicts are the added and the removed ones. -/
theorem counts (entries : List (DiffEntry ω)) :
    entries.countP (fun e => e.change_type = .added || e.change_type = .removed) + (entries.filter is_conflict).length = entries.length := by
  have others : (fun e : DiffEntry ω => decide (e.change_type = .added) || decide (e.change_type = .removed)) = fun e => !is_conflict e := by
    funext e
    cases change : e.change_type <;> simp [is_conflict, change]
  rw [others, ← List.countP_eq_length_filter, Nat.add_comm]
  have all := List.length_eq_countP_add_countP is_conflict (l := entries)
  simp only [Bool.not_eq_true, Bool.decide_eq_false] at all
  exact all.symm

theorem merges (py : ObjectMethods ω) {strategy : ConflictResolution} (automatic : strategy ≠ .MANUAL) (locals remotes : List (Members ω)) :
    ∃ result resolved, Merges py strategy locals remotes result resolved := by
  have merged : ∃ merged_count, merged_count = (SpeckleDiff.compare py locals remotes).length ∧ merge py strategy locals remotes =
      .ok ⟨merged_count, ((SpeckleDiff.compare py locals remotes).filter is_conflict).length,
        (SpeckleDiff.compare py locals remotes).filter is_conflict, strategy⟩ := by
    refine ⟨_, ?_, by rw [merge, if_neg fun both => automatic both.1]; rfl⟩
    have all := counts (SpeckleDiff.compare py locals remotes)
    dsimp only [Option.getD_none]
    split
    · exact all
    · next none =>
      have empty : (SpeckleDiff.compare py locals remotes).filter is_conflict = [] := by
        by_contra some
        exact none ⟨some, automatic⟩
      rw [empty] at all
      exact all
  obtain ⟨merged_count, counted, merged⟩ := merged
  refine ⟨_, ((SpeckleDiff.compare py locals remotes).filter is_conflict).map fun c =>
    ⟨c.element_id, c.property_name, if strategy = .LOCAL_WINS then c.local_value else c.remote_value⟩, merged, ?_, ?_, ?_, ?_⟩
  · rw [resolve_conflicts, if_neg automatic]
  · exact ⟨counted, (List.length_map _).symm⟩
  · intro id l r left right
    split
    · exact settles_of_values rfl left right (fun _ _ local_value _ => local_value) fun _ equal => .inr equal
    · exact settles_of_values rfl left right (fun _ _ _ remote_value => remote_value) fun _ equal => .inl equal
  · exact fun id element one_side => lay_of_one_side rfl one_side element

/-- A merge counts every difference of the two lists, and the values it resolves, laid on the elements of the side that gives way, make up for every
    difference in a property. By hand it goes through only where there is none, and otherwise names the conflicts. -/
theorem merge_settles (py : ObjectMethods ω) (locals remotes : List (Members ω)) :
    (∃ result resolved, Merges py .LOCAL_WINS locals remotes result resolved) ∧
    (∃ result resolved, Merges py .REMOTE_WINS locals remotes result resolved) ∧
    match merge py .MANUAL locals remotes with
    | .ok _ => ∀ id l r key, SpeckleDiff.found py id locals = some l → SpeckleDiff.found py id remotes = some r →
        SpeckleDiff.differ py l r key = false
    | .error e => e.conflicts ≠ [] ∧ ∀ name, name ∈ e.conflicts ↔ ∃ id l r key, SpeckleDiff.found py id locals = some l ∧
        SpeckleDiff.found py id remotes = some r ∧ SpeckleDiff.differ py l r key = true ∧ name = id ++ "." ++ key := by
  refine ⟨merges py (by decide) locals remotes, merges py (by decide) locals remotes, ?_⟩
  by_cases none : (SpeckleDiff.compare py locals remotes).filter is_conflict = []
  · rw [merge, Option.getD_none, if_neg fun both => both.2 none]
    intro id l r key left right
    by_contra differs
    obtain ⟨entry, conflict, -⟩ := conflict_of_differ left right (eq_true_of_ne_false differs)
    rw [none] at conflict
    cases conflict
  · rw [merge, Option.getD_none, if_pos ⟨rfl, none⟩]
    refine ⟨fun empty => none (List.map_eq_nil_iff.mp empty), fun name => ?_⟩
    constructor
    · intro member
      obtain ⟨entry, conflict, rfl⟩ := List.mem_map.mp member
      obtain ⟨l, r, key, left, right, differs, property, -⟩ := conflict_of_mem conflict
      exact ⟨entry.element_id, l, r, key, left, right, differs, by rw [conflict_name, property, Option.getD_some]⟩
    · rintro ⟨id, l, r, key, left, right, differs, rfl⟩
      obtain ⟨entry, conflict, own, property⟩ := conflict_of_differ left right differs
      refine List.mem_map.mpr ⟨entry, conflict, ?_⟩
      rw [conflict_name, own, property, Option.getD_some]

end RevitPy.SpeckleMerge
