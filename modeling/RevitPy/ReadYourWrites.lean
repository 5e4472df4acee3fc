import RevitPy.Freshness

/-!
# Queries after a save

A save invalidates the keys of the changed entities, never those of queries. So a
query that is begun after the save is evaluated on what the provider answers then
if no list for its type was cached before.
-/

namespace RevitPy

namespace RevitContext

section
variable {α κ ν : Type} [DecidableEq α] [LinearOrder κ]

/-- The key under which the results of a plan are cached. -/
def query_key (env : Environment α κ ν) (element_type : Option ElementType) (plan : QueryPlan α κ) : String :=
  (Heap.cache_key env.query_hash element_type plan).str

/-- No list is live under a query key of a type, or of the queries without a type. -/
def Unqueried (env : Environment α κ ν) (c : RevitContext α κ ν) (T : ElementType) : Prop :=
  ∀ element_type, element_type = some T ∨ element_type = none → ∀ (plan : QueryPlan α κ) entry,
    c.cache.lookup (query_key env element_type plan) = some entry → entry.is_expired c.heap.clock = true

/-- A builder of a chain that starts with `query(T)` after the context was `saved`. -/
inductive Chain (env : Environment α κ ν) (T : ElementType) (saved : RevitContext α κ ν) : RevitContext α κ ν → Nat → Prop
  | query (events : List (ContextEvent α κ ν)) {b : Nat} {c : RevitContext α κ ν}
      (begun : (saved.run env events).query (some T) = (.ok b, c)) : Chain env T saved c b
  | call {c : RevitContext α κ ν} {b b' : Nat} {call : FluentCall α κ} {heap : Heap α κ} (chain : Chain env T saved c b)
      (called : c.heap.call b call = .ok (b', heap)) : Chain env T saved { c with heap := heap } b'
  | step {c : RevitContext α κ ν} {b : Nat} (chain : Chain env T saved c b) (event : ContextEvent α κ ν) :
      Chain env T saved (c.step env event) b

/-! ## What a chain depends on -/

/-- Nothing that queries of type `T` may find in the cache stems from before read `N`. -/
structure Refreshed (env : Environment α κ ν) (N : Nat) (T : ElementType) (c : RevitContext α κ ν) : Prop where
  since : N ≤ c.heap.reads
  fresh : ∀ element_type, element_type = some T ∨ element_type = none → ∀ plan : QueryPlan α κ,
    c.heap.Fresh N c.cache_manager (query_key env element_type plan)

/-- A builder whose results cannot stem from before read `N`. -/
structure Current (N : Nat) (T : ElementType) (c : RevitContext α κ ν) (b : Nat) : Prop where
  known : b < c.heap.builders.next
  cache : (c.heap.builders.read b).cache_manager = c.cache_manager
  executor_cache : (c.heap.builders.read b).executor.cache_manager = c.cache_manager
  type : (c.heap.builders.read b).element_type = some T ∨ (c.heap.builders.read b).element_type = none
  executor_type : (c.heap.builders.read b).executor.element_type = (c.heap.builders.read b).element_type
  results : ∀ results, (c.heap.builders.read b).executor.results = some results → N ≤ results.read

variable {env : Environment α κ ν} {N : Nat} {T : ElementType} {c c' : RevitContext α κ ν} {b : Nat}

omit [DecidableEq α] [LinearOrder κ] in
theorem Refreshed.advance (refreshed : Refreshed env N T c) (advances : c.heap.Advances c'.heap)
    (same : c'.cache_manager = c.cache_manager) : Refreshed env N T c' where
  since := Nat.le_trans refreshed.since advances.reads
  fresh element_type among plan := by
    rw [same]
    exact (refreshed.fresh element_type among plan).advance refreshed.since advances

omit [DecidableEq α] [LinearOrder κ] in
theorem Current.keeps (current : Current N T c b) (keeps : c.Keeps c') : Current N T c' b where
  known := by rw [keeps.heap.builders]; exact current.known
  cache := by rw [keeps.heap.builders, keeps.cache_manager]; exact current.cache
  executor_cache := by rw [keeps.heap.builders, keeps.cache_manager]; exact current.executor_cache
  type := by rw [keeps.heap.builders]; exact current.type
  executor_type := by rw [keeps.heap.builders]; exact current.executor_type
  results := by rw [keeps.heap.builders]; exact current.results

/-- What a current builder answers was read since. -/
theorem Current.source {results : Data α} (current : Current N T c b) (refreshed : Refreshed env N T c)
    (source : Heap.Source env.provider env.query_hash c.heap b results) : N ≤ results.read := by
  cases source with
  | kept found => exact current.results results found
  | cached _ entry found live same =>
    rw [current.executor_cache, current.executor_type] at found
    exact same ▸ refreshed.fresh _ current.type _ entry found live
  | fetched _ _ _ value => rw [value]; exact refreshed.since

theorem Current.execute (current : Current N T c b) (refreshed : Refreshed env N T c) (r : Nat) :
    Current N T { c with heap := (c.heap.execute env.provider env.query_hash r).2 } b := by
  have executed := c.heap.execute_executed env.provider env.query_hash r
  by_cases same : b = r
  · subst same
    obtain ⟨kept, builder, outcome⟩ := executed.builder
    exact {
      known := by rw [executed.next]; exact current.known
      cache := by rw [builder]; exact current.cache
      executor_cache := by rw [builder]; exact current.executor_cache
      type := by rw [builder]; exact current.type
      executor_type := by rw [builder]; exact current.executor_type
      results := fun results found => by
        rw [builder] at found
        exact current.source refreshed (executed.source results ((outcome results).mp found)) }
  · have unchanged := executed.others b same
    exact {
      known := by rw [executed.next]; exact current.known
      cache := by rw [unchanged]; exact current.cache
      executor_cache := by rw [unchanged]; exact current.executor_cache
      type := by rw [unchanged]; exact current.type
      executor_type := by rw [unchanged]; exact current.executor_type
      results := by rw [unchanged]; exact current.results }

omit [DecidableEq α] [LinearOrder κ] in
/-- A fluent call on a current builder returns another one. -/
theorem Current.derived {projects : Bool} {operation : QueryOperation α κ} {b' : Nat} {heap : Heap α κ}
    (current : Current N T c b) (derived : Heap.Derived c.heap b projects operation b' heap) :
    Current N T { c with heap := heap } b' where
  known := by rw [derived.next, derived.fresh]; exact Nat.lt_succ_self _
  cache := derived.cache_manager.trans current.cache
  executor_cache := derived.executor_cache.trans current.cache
  type := by
    rw [derived.element_type]
    split
    · exact Or.inr rfl
    · exact current.type
  executor_type := derived.executor_type
  results := fun results found => by rw [derived.results] at found; cases found

omit [DecidableEq α] [LinearOrder κ] in
/-- The builders there were are left alone by a fluent call. -/
theorem Current.beside {projects : Bool} {operation : QueryOperation α κ} {r b' : Nat} {heap : Heap α κ}
    (current : Current N T c b) (derived : Heap.Derived c.heap r projects operation b' heap) :
    Current N T { c with heap := heap } b := by
  have unchanged := derived.builders b current.known
  exact {
    known := by rw [derived.next]; exact Nat.lt_succ_of_lt current.known
    cache := by rw [unchanged]; exact current.cache
    executor_cache := by rw [unchanged]; exact current.executor_cache
    type := by rw [unchanged]; exact current.type
    executor_type := by rw [unchanged]; exact current.executor_type
    results := by rw [unchanged]; exact current.results }

omit [DecidableEq α] [LinearOrder κ] in
theorem current_query (begun : c.query (some T) = (.ok b, c')) : Current N T c' b ∧ c.heap.Advances c'.heap ∧
    c'.cache_manager = c.cache_manager := by
  unfold query ensure_not_disposed at begun
  split at begun
  · cases begun
  · obtain ⟨returned, rfl⟩ := Prod.mk.inj begun
    obtain rfl := Except.ok.inj returned
    refine ⟨?_, c.heap.advances_new_builder _ _, rfl⟩
    exact {
      known := Nat.lt_succ_self _
      cache := by simp [Heap.alloc_builder, Heap.alloc_plan]
      executor_cache := by simp [Heap.alloc_builder, Heap.alloc_plan]
      type := by simp [Heap.alloc_builder, Heap.alloc_plan]
      executor_type := by simp [Heap.alloc_builder, Heap.alloc_plan]
      results := by simp [Heap.alloc_builder, Heap.alloc_plan] }

/-! ## What events keep -/

/-- An event advances the heap and leaves current builders current. -/
theorem step_kept (refreshed : Refreshed env N T c) (event : ContextEvent α κ ν) :
    Refreshed env N T (c.step env event) ∧ ∀ b, Current N T c b → Current N T (c.step env event) b := by
  have kept {d : RevitContext α κ ν} (keeps : c.Keeps d) : Refreshed env N T d ∧ ∀ b, Current N T c b → Current N T d b :=
    ⟨refreshed.advance keeps.heap.toAdvances keeps.cache_manager, fun _ current => current.keeps keeps⟩
  have executed (r : Nat) : Refreshed env N T { c with heap := (c.heap.execute env.provider env.query_hash r).2 } ∧
      ∀ b, Current N T c b → Current N T { c with heap := (c.heap.execute env.provider env.query_hash r).2 } b :=
    ⟨refreshed.advance (c.heap.execute_executed env.provider env.query_hash r).advances rfl,
      fun _ current => current.execute refreshed r⟩
  cases event with
  | query element_type =>
    simp only [step, query, ensure_not_disposed]
    split
    · exact kept (.refl c)
    · refine ⟨refreshed.advance (c.heap.advances_new_builder element_type c.cache_manager) rfl, fun b current => ?_⟩
      have unchanged : (c.heap.new_builder element_type (some c.cache_manager)).2.builders.read b = c.heap.builders.read b :=
        Store.read_alloc_old _ _ current.known
      exact {
        known := Nat.lt_succ_of_lt current.known
        cache := by rw [unchanged]; exact current.cache
        executor_cache := by rw [unchanged]; exact current.executor_cache
        type := by rw [unchanged]; exact current.type
        executor_type := by rw [unchanged]; exact current.executor_type
        results := by rw [unchanged]; exact current.results }
  | fluent r call =>
    simp only [step]
    rcases c.heap.call_spec r call with ⟨exception, -, raised⟩ | ⟨operation, b', heap, -, called, derived⟩
    · rw [raised]
      exact kept (.refl c)
    · rw [called]
      exact ⟨refreshed.advance derived.advances rfl, fun _ current => current.beside derived⟩
  | to_list r => exact executed r
  | count r => exact executed r
  | get_by_id element_type element_id => exact kept (c.keeps_get_by_id env element_type element_id)
  | tracking change => exact kept ⟨.refl _, rfl⟩
  | save_changes => exact kept (c.keeps_save_changes env)
  | load_relationship entity name => exact kept (c.keeps_load_relationship env entity name)
  | clear_cache => exact kept c.keeps_clear_cache
  | invalidate_cache element_type element_id => exact kept (c.keeps_invalidate_cache element_type element_id)
  | dispose => exact kept c.keeps_dispose
  | elapse microseconds => exact kept ⟨c.heap.recaches_elapse microseconds, rfl⟩

theorem run_refreshed (refreshed : Refreshed env N T c) (events : List (ContextEvent α κ ν)) :
    Refreshed env N T (c.run env events) :=
  List.foldlRecOn (motive := Refreshed env N T) events _ refreshed fun _ kept event _ => (step_kept kept event).1

theorem chain_current {saved : RevitContext α κ ν} (refreshed : Refreshed env N T saved) (chain : Chain env T saved c b) :
    Refreshed env N T c ∧ Current N T c b := by
  induction chain with
  | query events begun =>
    obtain ⟨current, advances, same⟩ := current_query begun
    exact ⟨(run_refreshed refreshed events).advance advances same, current⟩
  | @call c b b' call heap chain called ih =>
    obtain ⟨before, current⟩ := ih
    rcases c.heap.call_spec b call with ⟨exception, -, raised⟩ | ⟨operation, r, heap', -, called', derived⟩
    · rw [raised] at called
      cases called
    · rw [called'] at called
      cases called
      exact ⟨before.advance derived.advances rfl, current.derived derived⟩
  | step chain event ih =>
    obtain ⟨before, current⟩ := ih
    exact ⟨(step_kept before event).1, (step_kept before event).2 _ current⟩

/-- After a save, a chain of queries for a type answers what is read since, if at
    the save no list was live under a query key of that type. -/
theorem read_your_writes (env : Environment α κ ν) (T : ElementType) (c : RevitContext α κ ν) {saved later : RevitContext α κ ν}
    {count b : Nat} {results : Data α} (commits : c.save_changes env = (.ok count, saved)) (unqueried : c.Unqueried env T)
    (chain : Chain env T saved later b) (listed : (later.heap.to_list env.provider env.query_hash b).1 = .ok results) :
    c.heap.reads ≤ results.read := by
  have start : Refreshed env c.heap.reads T c := by
    refine ⟨Nat.le_refl _, fun element_type among plan entry found live => ?_⟩
    have expired := unqueried element_type among plan entry found
    rw [live] at expired
    cases expired
  have refreshed : Refreshed env c.heap.reads T saved := by
    have keeps := c.keeps_save_changes env
    rw [commits] at keeps
    exact start.advance keeps.heap.toAdvances keeps.cache_manager
  obtain ⟨now, current⟩ := chain_current refreshed chain
  exact current.source now ((later.heap.execute_executed env.provider env.query_hash b).source results listed)

end

/-! ## A stale list -/

/-- Walls are answered as `[1]` at the first read and as `[2]` at the second. -/
def walls : Environment Nat Nat Nat where
  provider := ⟨fun read => .ok [read + 1], fun read _ => .ok [read + 1], fun _ _ => .ok none⟩
  loader := ⟨fun read _ _ _ => .ok (.object read), fun _ => true⟩
  unit_of_work := none
  query_hash := fun _ => "d751713988987e9331980363e24189ce"
  view := fun _ _ => { address := 0, type := ⟨0, "Wall"⟩ }
  change_set_type := ⟨1, "ChangeSet"⟩
  address := fun _ _ => 0

def wall : Entity Nat := { address := 7, type := ⟨0, "Wall"⟩, id := some (some (.int 1)) }

/-- A new context with its own cache. -/
def project : RevitContext Nat Nat Nat :=
  { heap := { (Heap.init : Heap Nat Nat) with caches := ⟨1, fun _ => {}⟩ }, cache_manager := 0 }

/-- Walls have been listed, and one of them is changed. -/
def listed : RevitContext Nat Nat Nat :=
  project.run walls [.query (some ⟨0, "Wall"⟩), .to_list 0, .tracking fun tracker => tracker.track_property_change wall "Width" 1 2]

theorem walls_reread :
    (listed.clear_cache.2.save_changes walls).1 = .ok 1 ∧ listed.heap.reads = 1 ∧ (1 : Nat) ≤ (⟨.list [2], 1⟩ : Data Nat).read := by
  have commits : listed.clear_cache.2.save_changes walls = (.ok 1, (listed.clear_cache.2.save_changes walls).2) := rfl
  have unqueried : listed.clear_cache.2.Unqueried walls ⟨0, "Wall"⟩ := fun _ _ _ _ found => by cases found
  exact ⟨rfl, rfl, read_your_writes walls ⟨0, "Wall"⟩ listed.clear_cache.2 commits unqueried (.query [] rfl) rfl⟩

/-- The list that was cached before the save is served after it. -/
theorem stale_walls :
    ¬∀ (env : Environment Nat Nat Nat) (T : ElementType) (c saved later : RevitContext Nat Nat Nat) (count b : Nat)
        (results : Data Nat),
      c.save_changes env = (.ok count, saved) → (∃ change ∈ c.change_tracker.get_all_changes, change.entity_type = T.name) →
        Chain env T saved later b → (later.heap.to_list env.provider env.query_hash b).1 = .ok results →
          c.heap.reads ≤ results.read := by
  intro current
  have chain : Chain walls ⟨0, "Wall"⟩ (listed.save_changes walls).2
      ((listed.save_changes walls).2.query (some ⟨0, "Wall"⟩)).2 1 := .query [] rfl
  have old := current walls ⟨0, "Wall"⟩ listed _ _ 1 1 ⟨.list [1], 0⟩ rfl ⟨_, List.mem_singleton.mpr rfl, rfl⟩ chain rfl
  have reads : listed.heap.reads = 1 := rfl
  rw [reads] at old
  cases old

end RevitContext

end RevitPy
