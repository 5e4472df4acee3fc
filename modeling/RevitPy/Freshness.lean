import RevitPy.Context

/-!
# What later steps put into caches

No event of a context writes old data into a cache: an entry found later was
there before, or holds an answer that was read since.
-/

namespace RevitPy
variable {α κ ν : Type}

namespace Heap

/-- A heap, and the heap after some steps. -/
structure Advances (h h' : Heap α κ) : Prop where
  clock : h.clock ≤ h'.clock
  reads : h.reads ≤ h'.reads
  caches : ∀ m k entry, (h'.caches.read m).lookup k = some entry →
    (∃ old, (h.caches.read m).lookup k = some old ∧ entry.Agree old) ∨ h.reads ≤ entry.data.read

theorem Advances.refl (h : Heap α κ) : h.Advances h :=
  ⟨Nat.le_refl _, Nat.le_refl _, fun _ _ entry found => Or.inl ⟨entry, found, .refl entry⟩⟩

theorem Advances.trans {a b c : Heap α κ} (left : a.Advances b) (right : b.Advances c) : a.Advances c where
  clock := Nat.le_trans left.clock right.clock
  reads := Nat.le_trans left.reads right.reads
  caches m k entry found := by
    rcases right.caches m k entry found with ⟨middle, found', agree⟩ | recent
    · rcases left.caches m k middle found' with ⟨old, found'', agree'⟩ | recent
      · exact Or.inl ⟨old, found'', agree.trans agree'⟩
      · exact Or.inr (agree.1 ▸ recent)
    · exact Or.inr (Nat.le_trans left.reads recent)

/-- Nothing live under a key of a cache stems from before read `N`. -/
def Fresh (h : Heap α κ) (N m : Nat) (k : String) : Prop :=
  ∀ entry, (h.caches.read m).lookup k = some entry → entry.is_expired h.clock = false → N ≤ entry.data.read

theorem Fresh.advance {h h' : Heap α κ} {N m : Nat} {k : String} (fresh : h.Fresh N m k) (since : N ≤ h.reads)
    (advances : h.Advances h') : h'.Fresh N m k := by
  intro entry found live
  rcases advances.caches m k entry found with ⟨old, found', agree⟩ | recent
  · have unexpired : old.is_expired h.clock = false := by
      by_contra expired
      have later := CacheEntry.is_expired_mono (by simpa using expired) advances.clock
      rw [← agree.is_expired, live] at later
      cases later
    exact agree.1 ▸ fresh old found' unexpired
  · exact Nat.le_trans since recent

/-! ## Steps of builders -/

theorem advances_new_builder (h : Heap α κ) (element_type : Option ElementType) (cache_manager : Nat) :
    h.Advances (h.new_builder element_type (some cache_manager)).2 :=
  ⟨Nat.le_refl _, Nat.le_refl _, fun _ _ entry found => Or.inl ⟨entry, found, .refl entry⟩⟩

theorem Derived.advances {h h' : Heap α κ} {b b' : Nat} {projects : Bool} {operation : QueryOperation α κ}
    (derived : Derived h b projects operation b' h') : h.Advances h' where
  clock := Nat.le_of_eq derived.clock.symm
  reads := Nat.le_of_eq derived.reads.symm
  caches m k entry found := Or.inl ⟨entry, by rwa [derived.caches] at found, .refl entry⟩

theorem Executed.advances {provider : Provider α} {query_hash : List (String × String) → String} {h h' : Heap α κ} {b : Nat}
    {outcome : Except QueryException (Data α)} [DecidableEq α] [LinearOrder κ]
    (executed : Executed provider query_hash h b outcome h') : h.Advances h' where
  clock := Nat.le_of_eq executed.clock.symm
  reads := executed.reads
  caches m k entry found := by
    rcases executed.caches m k entry found with old | ⟨-, -, -, recent⟩
    · exact Or.inl old
    · exact Or.inr (Nat.le_of_eq recent.symm)

/-! ## Steps that leave the builders alone -/

/-- A step of the caches. -/
structure Recaches (h h' : Heap α κ) : Prop extends h.Advances h' where
  builders : h'.builders = h.builders

theorem Recaches.refl (h : Heap α κ) : h.Recaches h := ⟨.refl h, rfl⟩

theorem Recaches.trans {a b c : Heap α κ} (left : a.Recaches b) (right : b.Recaches c) : a.Recaches c :=
  ⟨left.toAdvances.trans right.toAdvances, right.builders.trans left.builders⟩

theorem recaches_write (h : Heap α κ) {m : Nat} {cache : CacheManager (Data α)} (within : cache.Within (h.caches.read m)) :
    h.Recaches (h.write_cache m cache) where
  clock := Nat.le_refl _
  reads := Nat.le_refl _
  builders := rfl
  caches _ _ _ found := Or.inl (within_write within found)

theorem recaches_read (h : Heap α κ) : h.Recaches { h with reads := h.reads + 1 } :=
  ⟨⟨Nat.le_refl _, Nat.le_succ _, fun _ _ entry found => Or.inl ⟨entry, found, .refl entry⟩⟩, rfl⟩

theorem recaches_elapse (h : Heap α κ) (microseconds : Nat) : h.Recaches { h with clock := h.clock + microseconds } :=
  ⟨⟨Nat.le_add_right _ _, Nat.le_refl _, fun _ _ entry found => Or.inl ⟨entry, found, .refl entry⟩⟩, rfl⟩

/-- An answer is cached as it is read. -/
theorem recaches_set (h : Heap α κ) (m : Nat) (key : CacheKey) (value : Value α) :
    h.Recaches ({ h with reads := h.reads + 1 }.write_cache m ((h.caches.read m).set h.clock key ⟨value, h.reads⟩ none [])) where
  clock := Nat.le_refl _
  reads := Nat.le_succ _
  builders := rfl
  caches r k entry found := by
    rcases lookup_write_set (h := { h with reads := h.reads + 1 }) found with ⟨-, -, stored⟩ | old
    · exact Or.inr (by rw [stored])
    · exact Or.inl old

end Heap

theorem Relationship.Loaded.recaches {loader : RelationshipLoader α} {h h' : Heap α κ} {r r' : Relationship α} {entity : Subject}
    {outcome : Except RelationshipException (Data α)} (loaded : Relationship.Loaded loader h r entity outcome r' h') :
    h.Recaches h' where
  clock := Nat.le_of_eq loaded.clock.symm
  reads := loaded.reads
  builders := loaded.builders
  caches m k entry found := by
    rcases loaded.caches m k entry found with old | ⟨-, -, -, -, answer, -, same⟩
    · exact Or.inl old
    · exact Or.inr (Nat.le_of_eq (by rw [same]))

theorem Relationship.recaches_invalidate_cache (h : Heap α κ) (r : Relationship α) (entity : Subject) :
    h.Recaches (r.invalidate_cache h entity).2 := by
  unfold Relationship.invalidate_cache
  simp only
  split
  · exact h.recaches_write (CacheManager.within_delete _ _)
  · exact .refl h

namespace RelationshipManager

theorem recaches_load (loader : RelationshipLoader α) (h : Heap α κ) (m : RelationshipManager α) (entity : Subject)
    (relationship_name : String) (force_reload : Bool) :
    h.Recaches (m.load_relationship loader h entity relationship_name force_reload).2.2 := by
  unfold load_relationship
  split
  · exact .refl h
  · next relationship _ => exact (relationship.load_loaded loader h entity force_reload).recaches

theorem recaches_invalidate_relationship (h : Heap α κ) (m : RelationshipManager α) (entity : Subject) (relationship_name : String) :
    h.Recaches (m.invalidate_relationship h entity relationship_name).2 := by
  unfold invalidate_relationship
  split
  · exact .refl h
  · next relationship _ => exact relationship.recaches_invalidate_cache h entity

theorem recaches_invalidate_entity (h : Heap α κ) (m : RelationshipManager α) (entity : Subject) :
    h.Recaches (m.invalidate_entity h entity).2 := by
  have rounds (names : List String) (state : RelationshipManager α × Heap α κ) :
      state.2.Recaches (names.foldl
        (fun state relationship_name => invalidate_relationship state.2 state.1 entity relationship_name) state).2 := by
    induction names generalizing state with
    | nil => exact .refl _
    | cons name rest ih => exact (recaches_invalidate_relationship _ _ entity name).trans (ih _)
  exact rounds _ (m, h)

end RelationshipManager

namespace RevitContext
variable (env : Environment α κ ν) (c : RevitContext α κ ν)

/-- A part of the context that steps leave as it is, and a heap that they advance. -/
structure Keeps (c c' : RevitContext α κ ν) : Prop where
  heap : c.heap.Recaches c'.heap
  cache_manager : c'.cache_manager = c.cache_manager

theorem Keeps.refl : c.Keeps c := ⟨.refl _, rfl⟩

variable {c} in
theorem Keeps.trans {d e : RevitContext α κ ν} (left : c.Keeps d) (right : d.Keeps e) : c.Keeps e :=
  ⟨left.heap.trans right.heap, right.cache_manager.trans left.cache_manager⟩

theorem keeps_write {cache : CacheManager (Data α)} (within : cache.Within c.cache) : c.Keeps (c.write_cache cache) :=
  ⟨c.heap.recaches_write within, rfl⟩

theorem keeps_auto_attach (element : Value α) (element_id : ElementId) : c.Keeps (c.auto_attach env element element_id) := by
  unfold auto_attach
  split
  · exact ⟨.refl _, rfl⟩
  · exact .refl c

theorem keeps_guarded {β : Type} {go : Except ContextException β × RevitContext α κ ν} (kept : c.Keeps go.2) :
    c.Keeps (c.ensure_not_disposed go).2 := by
  unfold ensure_not_disposed
  split
  · exact .refl c
  · exact kept

theorem keeps_cached_element (element_type : ElementType) (element_id : ElementId) :
    c.Keeps (c.cached_element element_type element_id).2 := by
  unfold cached_element
  split
  · exact .refl c
  · exact c.keeps_write (CacheManager.within_get _ _ _)

theorem heap_auto_attach (element : Value α) (element_id : ElementId) : (c.auto_attach env element element_id).heap = c.heap := by
  unfold auto_attach; split <;> rfl

theorem cache_manager_auto_attach (element : Value α) (element_id : ElementId) :
    (c.auto_attach env element element_id).cache_manager = c.cache_manager := by
  unfold auto_attach; split <;> rfl

theorem keeps_provide_element (element_type : ElementType) (element_id : ElementId) :
    c.Keeps (c.provide_element env element_type element_id).2 := by
  unfold provide_element
  simp only
  split
  · exact ⟨c.heap.recaches_read, rfl⟩
  · exact ⟨c.heap.recaches_read, rfl⟩
  · next reference _ =>
    split
    · split
      · refine ⟨?_, cache_manager_auto_attach env _ _ _⟩
        rw [heap_auto_attach]
        exact c.heap.recaches_read
      · refine ⟨?_, cache_manager_auto_attach env _ _ _⟩
        simp only [write_cache, heap_auto_attach, cache_manager_auto_attach]
        exact c.heap.recaches_set _ _ _
    · exact ⟨c.heap.recaches_read, rfl⟩

theorem keeps_get_by_id (element_type : ElementType) (element_id : ElementId) :
    c.Keeps (c.get_by_id env element_type element_id).2 := by
  have looked := c.keeps_cached_element element_type element_id
  unfold get_by_id
  apply keeps_guarded
  split
  · next found => rw [found] at looked; exact looked.trans (keeps_auto_attach env _ _ _)
  · next absent => rw [absent] at looked; exact looked.trans (keeps_provide_element env _ _ _)

theorem keeps_invalidate_change (change : ChangeSet ν) : c.Keeps (c.invalidate_change env change) := by
  have deleted := c.keeps_write
    (CacheManager.within_delete c.cache (create_entity_cache_key change.entity_type change.entity_id))
  unfold invalidate_change
  simp only
  split
  · exact deleted
  · exact deleted.trans ⟨RelationshipManager.recaches_invalidate_entity _ _ _, rfl⟩

theorem keeps_invalidate_cache_for_changes (changes : List (ChangeSet ν)) :
    c.Keeps (c.invalidate_cache_for_changes env changes) := by
  unfold invalidate_cache_for_changes
  induction changes generalizing c with
  | nil => exact .refl c
  | cons change rest ih => exact (c.keeps_invalidate_change env change).trans (ih _)

theorem keeps_commit (changes : List (ChangeSet ν)) : c.Keeps (c.commit env changes).2 := by
  unfold commit
  split
  · exact .refl c
  · split <;> exact ⟨.refl _, rfl⟩

theorem keeps_save_changes : c.Keeps (c.save_changes env).2 := by
  unfold save_changes
  apply keeps_guarded
  split
  · have committed := c.keeps_commit env c.change_tracker.get_all_changes
    simp only
    split
    · next raised => rw [raised] at committed; exact committed
    · next d done =>
      rw [done] at committed
      have accepted : d.Keeps { d with change_tracker := d.change_tracker.accept_changes none } := ⟨.refl _, rfl⟩
      exact (committed.trans accepted).trans (keeps_invalidate_cache_for_changes env _ _)
  · exact .refl c

theorem keeps_load_relationship (entity : Subject) (relationship_name : String) :
    c.Keeps (c.load_relationship env entity relationship_name).2 := by
  unfold load_relationship
  apply keeps_guarded
  split
  · exact .refl c
  · exact ⟨RelationshipManager.recaches_load _ _ _ _ _ _, rfl⟩

theorem keeps_clear_cache : c.Keeps c.clear_cache.2 := c.keeps_guarded (c.keeps_write (CacheManager.within_clear _))

theorem keeps_invalidate_cache (entity_type : Option ElementType) (entity_id : Option ElementId) :
    c.Keeps (c.invalidate_cache entity_type entity_id).2 := by
  unfold invalidate_cache
  apply keeps_guarded
  split
  · exact c.keeps_write (CacheManager.within_clear _)
  · split
    · exact c.keeps_write (CacheManager.within_delete _ _)
    · exact c.keeps_write (CacheManager.within_invalidate_by_pattern _ _)

theorem keeps_dispose : c.Keeps c.dispose := by
  unfold dispose
  split
  · exact .refl c
  · exact ⟨(c.keeps_write (CacheManager.within_clear c.cache)).heap, rfl⟩

end RevitContext

end RevitPy
