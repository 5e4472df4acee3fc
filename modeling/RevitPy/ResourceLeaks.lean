import RevitPy.ResourceManager

/-!
# No pooled resource leaks

Each resource that a factory returned is in one place: with the call that will store it,
in the pool, with the call that removed it and will dispose of it, or among those that
were disposed of. A turn that meets the condition moves it from one place to the next.
-/

namespace RevitPy.Host
open Runs

variable {ρ : Type}

/-- The resource that a call has in hand, with its key. -/
def Operation.held : Operation ρ → List (String × ρ)
  | .adding resourceKey pooledResource | .disposing resourceKey pooledResource _ => [(resourceKey, pooledResource.resource)]
  | _ => []

/-- A call that has stored a resource that is not yet counted. -/
def Operation.uncounted : Operation ρ → Nat
  | .added => 1
  | _ => 0

/-- A call that has removed a resource that is still counted. -/
def Operation.overcounted : Operation ρ → Nat
  | .disposing .. | .destroyed _ => 1
  | _ => 0

namespace ResourceManager

variable [DecidableEq ρ] (disposable : ρ → Bool)

/-- The resources of the pool, with their keys. -/
def pooled (m : ResourceManager ρ) : List (String × ρ) := m.connectionPool.entries.map fun entry => (entry.1, entry.2.resource)

/-- In how many places a resource is. -/
def places (m : ResourceManager ρ) (x : String × ρ) : Nat :=
  m.pooled.count x + (m.operations.flatMap Operation.held).count x + m.disposed.count x

structure Accounted (m : ResourceManager ρ) : Prop where
  places : ∀ x, disposable x.2 = true → m.places x = m.produced.count x
  new : ∀ resource, disposable resource = true → (m.produced.map Prod.snd).count resource ≤ 1
  counted : m.stats.currentResourcesInUse + (m.operations.map Operation.uncounted).sum =
    m.connectionPool.length + (m.operations.map Operation.overcounted).sum

/-- What a turn changes in the manager balances what it changes in the call. -/
structure Balanced (m after : ResourceManager ρ) (phase next : Operation ρ) : Prop where
  places : ∀ x, disposable x.2 = true →
    after.pooled.count x + next.held.count x + after.disposed.count x + m.produced.count x =
      m.pooled.count x + phase.held.count x + m.disposed.count x + after.produced.count x
  new : (∀ resource, disposable resource = true → (m.produced.map Prod.snd).count resource ≤ 1) →
    ∀ resource, disposable resource = true → (after.produced.map Prod.snd).count resource ≤ 1
  counted : after.stats.currentResourcesInUse + next.uncounted + m.connectionPool.length + phase.overcounted =
    m.stats.currentResourcesInUse + phase.uncounted + after.connectionPool.length + next.overcounted

variable {disposable} {m after : ResourceManager ρ} {phase next : Operation ρ} {operation : Nat}

theorem Accounted.go (accounted : m.Accounted disposable) (found : m.operations[operation]? = some phase)
    (balanced : Balanced disposable m after phase next) :
    { after with operations := m.operations.set operation next }.Accounted disposable := by
  constructor
  · intro x disposes
    have before := accounted.places x disposes
    have moved := balanced.places x disposes
    have held := count_flatMap_set (f := Operation.held) (b := next) found x
    simp only [ResourceManager.places, pooled] at before moved ⊢
    omega
  · exact balanced.new accounted.new
  · have before := accounted.counted
    have moved := balanced.counted
    have uncounted := sum_map_set (b := next) found Operation.uncounted
    have overcounted := sum_map_set (b := next) found Operation.overcounted
    simp only at before moved ⊢
    omega

/-! ## The turns -/

/-- A turn that only changes the count changes by as much what is not counted yet, or counted still. -/
theorem Balanced.count (pool : after.connectionPool = m.connectionPool) (produced : after.produced = m.produced)
    (disposed : after.disposed = m.disposed) (held : next.held = phase.held)
    (counted : after.stats.currentResourcesInUse + next.uncounted + phase.overcounted =
      m.stats.currentResourcesInUse + phase.uncounted + next.overcounted) : Balanced disposable m after phase next := by
  constructor
  · intro x _
    rw [pooled, pooled, pool, produced, disposed, held]
  · rw [produced]
    exact id
  · rw [pool]
    omega

/-- A turn that changes neither the pool nor what was produced, disposed of and counted. -/
theorem Balanced.idle (pool : after.connectionPool = m.connectionPool) (produced : after.produced = m.produced)
    (disposed : after.disposed = m.disposed) (current : after.stats.currentResourcesInUse = m.stats.currentResourcesInUse)
    (held : next.held = phase.held) (uncounted : next.uncounted = phase.uncounted) (overcounted : next.overcounted = phase.overcounted) :
    Balanced disposable m after phase next :=
  .count pool produced disposed held (by rw [current, uncounted, overcounted])

omit [DecidableEq ρ] in
theorem pooled_set {key : String} {p : PooledResource ρ} (absent : m.connectionPool.get? key = none) :
    ({ m with connectionPool := m.connectionPool.set key p }).pooled = m.pooled ++ [(key, p.resource)] := by
  simp [pooled, Dict.entries_set_of_fresh absent]

theorem count_pooled_erase {key : String} {p : PooledResource ρ} (found : m.connectionPool.get? key = some p) (x : String × ρ) :
    m.pooled.count x = ({ m with connectionPool := m.connectionPool.erase key }).pooled.count x + [(key, p.resource)].count x := by
  have split := ((Dict.perm_erase found).map fun entry => (entry.1, entry.2.resource)).count_eq x
  rw [List.map_cons, List.count_cons] at split
  simpa only [pooled, List.count_singleton] using split

/-- What a call removes from the pool it has in hand. -/
theorem Balanced.remove {key : String} {p : PooledResource ρ} (found : m.connectionPool.get? key = some p) (expiredKeys : List String)
    (held : phase.held = []) (uncounted : phase.uncounted = 0) (overcounted : phase.overcounted = 0) :
    Balanced disposable m { m with connectionPool := m.connectionPool.erase key } phase (.disposing key p expiredKeys) := by
  constructor
  · intro x _
    have split := count_pooled_erase found x
    rw [held]
    simp only [Operation.held, List.count_nil] at split ⊢
    omega
  · exact id
  · have shorter := Dict.length_erase_of_mem (Dict.mem_keys_of_get? found)
    rw [uncounted, overcounted]
    simp only [Operation.uncounted, Operation.overcounted]
    omega

/-- What a factory returns the call has in hand. -/
theorem Balanced.produce {resourceKey : String} {resource : ρ} (new : disposable resource = true → resource ∉ m.produced.map Prod.snd)
    (expiresAt : Int) :
    Balanced disposable m { m with produced := m.produced ++ [(resourceKey, resource)] } (.creating resourceKey)
      (.adding resourceKey { number := m.produced.length, resource, expiresAt }) := by
  constructor
  · intro x _
    simp only [Operation.held, pooled, List.count_append, List.count_nil]
    omega
  · intro once other disposes
    have before := once other disposes
    rw [List.map_append, List.count_append]
    by_cases same : resource = other
    · subst same
      have absent := List.count_eq_zero.mpr (new disposes)
      simp [absent]
    · simpa [same] using before
  · rfl

/-- What a call adds under a key that has nothing it has in hand no more. -/
theorem Balanced.add {resourceKey : String} (absent : m.connectionPool.get? resourceKey = none) (newPooledResource : PooledResource ρ) :
    Balanced disposable m { m with connectionPool := m.connectionPool.set resourceKey newPooledResource }
      (.adding resourceKey newPooledResource) .added := by
  constructor
  · intro x _
    simp only [pooled_set absent, List.count_append, Operation.held, List.count_nil]
    omega
  · exact id
  · have longer := Dict.length_set_of_not_mem ((Dict.get?_none_iff _ _).mp absent) newPooledResource
    simp only [longer, Operation.uncounted, Operation.overcounted]
    omega

theorem Balanced.dispose {met : Circumstances ρ} {resourceKey : String} {pooledResource : PooledResource ρ} {expiredKeys : List String}
    (returns : disposable pooledResource.resource = true → met.disposeThrows = false) :
    Balanced disposable m (m.advance disposable met (.disposing resourceKey pooledResource expiredKeys)).1
      (.disposing resourceKey pooledResource expiredKeys) (m.advance disposable met (.disposing resourceKey pooledResource expiredKeys)).2 := by
  simp only [advance]
  split
  · next plain =>
    constructor
    · intro x disposes
      have other : (resourceKey, pooledResource.resource) ≠ x := by
        rintro rfl
        simp [disposes] at plain
      simp [Operation.held, other]
    · exact id
    · rfl
  · next disposes =>
    rw [if_neg (by simp [returns (by simpa using disposes)])]
    constructor
    · intro x _
      simp only [Operation.held, pooled, List.count_append, List.count_nil]
      omega
    · exact id
    · rfl

theorem balanced_advance {met : Circumstances ρ} (found : m.operations[operation]? = some phase)
    (careful : m.Careful disposable (.go operation met)) :
    Balanced disposable m (m.advance disposable met phase).1 phase (m.advance disposable met phase).2 := by
  simp only [Careful, found] at careful
  cases phase with
  | waiting resourceKey isT =>
    simp only [advance]
    split
    · exact .idle rfl rfl rfl rfl rfl rfl rfl
    · split <;> exact .idle rfl rfl rfl rfl rfl rfl rfl
  | lookingUp resourceKey isT =>
    simp only [advance]
    split <;> exact .idle rfl rfl rfl rfl rfl rfl rfl
  | found resourceKey isT pooledResource =>
    simp only [advance]
    split <;> exact .idle rfl rfl rfl rfl rfl rfl rfl
  | countingUse pooledResource useCount => exact .idle rfl rfl rfl rfl rfl rfl rfl
  | hit => exact .idle rfl rfl rfl rfl rfl rfl rfl
  | creating resourceKey =>
    simp only [advance]
    split
    · exact .idle rfl rfl rfl rfl rfl rfl rfl
    · next resource made => exact .produce (careful resource made) _
  | adding resourceKey newPooledResource => exact .add careful newPooledResource
  | added =>
    refine .count rfl rfl rfl rfl ?_
    simp only [advance, Operation.uncounted, Operation.overcounted]
    omega
  | leaving => exact .idle rfl rfl rfl rfl rfl rfl rfl
  | releasing resourceKey forceDispose =>
    simp only [advance]
    split <;> exact .idle rfl rfl rfl rfl rfl rfl rfl
  | deciding resourceKey forceDispose pooledResource =>
    simp only [advance]
    split <;> exact .idle rfl rfl rfl rfl rfl rfl rfl
  | removing resourceKey pooledResource => exact .remove careful [] rfl rfl rfl
  | collecting disposeAll expiredKeys =>
    simp only [advance]
    split
    · exact .idle rfl rfl rfl rfl rfl rfl rfl
    · split <;> exact .idle rfl rfl rfl rfl rfl rfl rfl
  | cleaning expiredKeys =>
    cases expiredKeys with
    | nil => exact .idle rfl rfl rfl rfl rfl rfl rfl
    | cons key expiredKeys =>
      simp only [advance]
      split
      · next pooledResource stored => exact .remove stored expiredKeys rfl rfl rfl
      · exact .idle rfl rfl rfl rfl rfl rfl rfl
  | disposing resourceKey pooledResource expiredKeys => exact .dispose careful
  | destroyed expiredKeys =>
    refine .count rfl rfl rfl rfl ?_
    simp only [advance, Operation.uncounted, Operation.overcounted]
    omega
  | ended => exact .idle rfl rfl rfl rfl rfl rfl rfl

theorem accounted_step (m : ResourceManager ρ) (turn : Turn ρ) (accounted : m.Accounted disposable) (careful : m.Careful disposable turn) :
    (m.step disposable turn).Accounted disposable := by
  cases turn with
  | call c =>
    have held : c.start.held = [] := by cases c <;> rfl
    have uncounted : c.start.uncounted = 0 := by cases c <;> rfl
    have overcounted : c.start.overcounted = 0 := by cases c <;> rfl
    constructor
    · intro x disposes
      simpa [places, pooled, step, held] using accounted.places x disposes
    · exact accounted.new
    · simpa [step, uncounted, overcounted] using accounted.counted
  | go operation met =>
    unfold step
    cases found : m.operations[operation]? with
    | none => simpa only [found] using accounted
    | some phase => simpa only [found] using accounted.go found (balanced_advance found careful)

theorem accounted_start (maxConcurrentOperations : Nat) : (start maxConcurrentOperations : ResourceManager ρ).Accounted disposable :=
  ⟨fun _ _ => rfl, fun _ _ => Nat.zero_le _, rfl⟩

/-! ## Between the calls -/

omit [DecidableEq ρ] in
theorem stored_iff (m : ResourceManager ρ) (key : String) (resource : ρ) : m.stored key = some resource ↔ (key, resource) ∈ m.pooled := by
  unfold stored pooled
  constructor
  · intro here
    obtain ⟨p, found, rfl⟩ := Option.map_eq_some_iff.mp here
    exact List.mem_map.mpr ⟨(key, p), (Dict.get?_some_iff _ _ _).mp found, rfl⟩
  · intro member
    obtain ⟨⟨k, p⟩, inside, same⟩ := List.mem_map.mp member
    cases same
    rw [(Dict.get?_some_iff _ _ _).mpr inside]
    rfl

/-- A resource was produced for one key only. -/
theorem Accounted.one_key (accounted : m.Accounted disposable) {key other : String} {resource : ρ} (disposes : disposable resource = true)
    (produced : (key, resource) ∈ m.produced) (again : (other, resource) ∈ m.produced) : other = key := by
  by_contra different
  have two : [(key, resource), (other, resource)].Subperm m.produced := by
    refine List.subperm_of_subset (by simp [Ne.symm different]) fun x member => ?_
    rcases List.mem_cons.mp member with rfl | member
    · exact produced
    · exact List.mem_singleton.mp member ▸ again
  obtain ⟨both, same, part⟩ := two
  have more := (part.map Prod.snd).count_le resource
  have once := accounted.new resource disposes
  rw [(same.map Prod.snd).count_eq] at more
  simp at more
  omega

/-- What was disposed of under a key was produced for it. -/
theorem Accounted.produced_of_disposed (accounted : m.Accounted disposable) {x : String × ρ} (disposes : disposable x.2 = true)
    (member : x ∈ m.disposed) : x ∈ m.produced := by
  have one_place := accounted.places x disposes
  have some := List.count_pos_iff.mpr member
  rw [ResourceManager.places] at one_place
  exact List.count_pos_iff.mp (by omega)

/-- Where no call is in progress, a produced resource is in the pool or was disposed of. -/
theorem Accounted.noLeaks (accounted : m.Accounted disposable) (quiescent : m.Quiescent) : m.NoLeaks disposable := by
  have idle {f : Operation ρ → Nat} (ended : f .ended = 0) : (m.operations.map f).sum = 0 :=
    List.sum_eq_zero fun n member => by
      obtain ⟨phase, inside, rfl⟩ := List.mem_map.mp member
      rw [quiescent phase inside, ended]
  constructor
  · intro key resource produced disposes
    have once : m.produced.count (key, resource) = 1 := by
      have some := List.count_pos_iff.mpr produced
      have most := List.count_le_count_map (f := Prod.snd) (x := (key, resource)) (l := m.produced)
      have least := accounted.new resource disposes
      simp only at most
      omega
    have held : (m.operations.flatMap Operation.held).count (key, resource) = 0 := by
      refine List.count_eq_zero.mpr fun member => ?_
      obtain ⟨phase, inside, there⟩ := List.mem_flatMap.mp member
      rw [quiescent phase inside] at there
      cases there
    have one_place := accounted.places (key, resource) disposes
    rw [ResourceManager.places, held, once] at one_place
    -- under another key it was not disposed of
    have disposals : (m.disposed.map Prod.snd).count resource = m.disposed.count (key, resource) := by
      rw [List.count, List.countP_map, List.count]
      refine List.countP_congr fun x member => ?_
      simp only [Function.comp_apply, beq_iff_eq]
      constructor
      · rintro rfl
        exact Prod.ext (accounted.one_key disposes produced (accounted.produced_of_disposed disposes member)) rfl
      · rintro rfl
        rfl
    rw [disposals]
    by_cases stored : m.stored key = some resource
    · have inside := List.count_pos_iff.mpr ((stored_iff m key resource).mp stored)
      exact .inl ⟨stored, by omega⟩
    · have outside := List.count_eq_zero.mpr fun member => stored ((stored_iff m key resource).mpr member)
      exact .inr ⟨stored, by omega⟩
  · have counted := accounted.counted
    rw [idle rfl, idle rfl] at counted
    simpa using counted

/-- In a run whose turns are all careful, no resource leaks where no call is in progress. -/
theorem no_resource_leaks (disposable : ρ → Bool) (maxConcurrentOperations : Nat) (turns : List (Turn ρ))
    (careful : Along (step disposable) (Careful disposable) (start maxConcurrentOperations) turns) :
    Throughout (step disposable) (fun m => m.Quiescent → m.NoLeaks disposable) (start maxConcurrentOperations) turns :=
  throughout_mono (fun _ accounted quiescent => accounted.noLeaks quiescent)
    (throughout_keeps accounted_step (accounted_start maxConcurrentOperations) careful)

/-- A resource that is acquired, and disposed of by a forced release. -/
theorem forced_release_disposes : Throughout (step fun _ : Nat => true) (fun m => m.Quiescent → m.NoLeaks fun _ => true) (start 10)
    [.call (.acquireResource "db" fun _ => true), .go 0 {}, .go 0 {}, .go 0 { resource := some 7 }, .go 0 {}, .go 0 {}, .go 0 {},
      .call (.releaseResource "db" true), .go 1 {}, .go 1 {}, .go 1 {}, .go 1 {}, .go 1 {}, .go 1 {}] := by
  refine no_resource_leaks _ _ _ ⟨trivial, trivial, trivial, fun resource _ _ => ?_, rfl, trivial, trivial, trivial, trivial, trivial, rfl,
    fun _ => rfl, trivial, trivial, trivial⟩
  exact List.not_mem_nil

/-- An acquisition that finds its resource expired, and stores another without disposing of it. -/
def expiredAndReplaced : List (Turn Nat) :=
  let later : Circumstances Nat := { now := defaultExpiration + 1, resource := some 1 }
  [.call (.acquireResource "db" fun _ => true), .go 0 {}, .go 0 {}, .go 0 { resource := some 0 }, .go 0 {}, .go 0 {}, .go 0 {},
    .call (.acquireResource "db" fun _ => true), .go 1 later, .go 1 later, .go 1 later, .go 1 later, .go 1 later, .go 1 later, .go 1 later]

theorem replaced_leaks : ¬∀ turns : List (Turn Nat),
    Throughout (step fun _ => true) (fun m => m.Quiescent → m.NoLeaks fun _ => true) (start 10) turns := by
  intro kept
  have ended : (expiredAndReplaced.foldl (step fun _ => true) (start 10)).operations = [.ended, .ended] := rfl
  have quiescent : (expiredAndReplaced.foldl (step fun _ => true) (start 10)).Quiescent := by
    intro phase member
    rw [ended] at member
    simpa using member
  rcases (throughout_last (kept expiredAndReplaced) quiescent).resources "db" 0 (by decide) rfl with ⟨stored, _⟩ | ⟨_, disposed⟩
  · exact absurd stored (by decide)
  · exact absurd disposed (by decide)

end ResourceManager

end RevitPy.Host
