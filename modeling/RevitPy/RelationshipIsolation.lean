import RevitPy.Freshness

/-!
# Relationships that share a cache

The cache key of relationship data names the target type, the entity id and the
relationship, not the source type. Data loaded for one source type is answered
for another one where the keys are the same.
-/

namespace RevitPy
variable {α κ : Type}

/-- A relationship manager at work. For every read of the loader it is known what
    was asked for; the code does not keep that. -/
structure LoadSession (α κ : Type) where
  manager : RelationshipManager α
  heap : Heap α κ
  asked : Nat → Option (Subject × String) := fun _ => none

inductive LoadEvent
  | load (entity : Subject) (relationship_name : String) (force_reload : Bool)
  | elapse (microseconds : Nat)

namespace LoadSession

/-- A manager with a cache of its own and some registered relationships. -/
def start (h : Heap α κ) (config : CacheConfiguration) (registrations : List (ElementType × RelationshipConfiguration)) :
    LoadSession α κ where
  manager := registrations.foldl (fun m item => m.register item.1 item.2) { cache_manager := h.caches.next }
  heap := { h with caches := h.caches.alloc ⟨{ config := config }⟩ }

def load (loader : RelationshipLoader α) (s : LoadSession α κ) (entity : Subject) (relationship_name : String)
    (force_reload : Bool) : Except RelationshipException (Data α) × LoadSession α κ :=
  let (related, manager, heap) := s.manager.load_relationship loader s.heap entity relationship_name force_reload
  (related,
    { manager := manager
      heap := heap
      asked := if heap.reads = s.heap.reads then s.asked
        else Function.update s.asked s.heap.reads (some (entity, relationship_name)) })

def step (loader : RelationshipLoader α) (s : LoadSession α κ) : LoadEvent → LoadSession α κ
  | .load entity relationship_name force_reload => (s.load loader entity relationship_name force_reload).2
  | .elapse microseconds => { s with heap := { s.heap with clock := s.heap.clock + microseconds } }

def run (loader : RelationshipLoader α) (s : LoadSession α κ) (events : List LoadEvent) : LoadSession α κ :=
  events.foldl (step loader) s

/-- What a load of a run is about. -/
def loads (events : List LoadEvent) : List (Subject × String) := events.filterMap fun
  | .load entity relationship_name _ => some (entity, relationship_name)
  | .elapse _ => none

/-- Two loads use the cache, and use it under one key. -/
def Shares (m : RelationshipManager α) (a b : Subject × String) : Prop :=
  ∃ r s, m.get_relationship a.1.type a.2 = some r ∧ m.get_relationship b.1.type b.2 = some s ∧
    r.should_use_cache a.1 = true ∧ s.should_use_cache b.1 = true ∧ (r.get_cache_key a.1).str = (s.get_cache_key b.1).str

/-- Two loads are about one relationship of one entity: the same source type, id and
    relationship name. -/
def SameLoad (a b : Subject × String) : Prop := a.1.type = b.1.type ∧ a.1.entity_id = b.1.entity_id ∧ a.2 = b.2

/-- Loads that share a cache key are about the same. -/
def Separate (m : RelationshipManager α) (loads : List (Subject × String)) : Prop :=
  ∀ a ∈ loads, ∀ b ∈ loads, Shares m a b → SameLoad a b

/-- Data that the loader has produced for this entity and name. -/
def Produced (loader : RelationshipLoader α) (s : LoadSession α κ) (r : Relationship α) (a : Subject × String)
    (related : Data α) : Prop :=
  related.read < s.heap.reads ∧ ∃ b answer, s.asked related.read = some b ∧ SameLoad a b ∧
    loader.load_relationship related.read b.1 b.2 r.config.load_strategy = .ok answer ∧
    related.value = Relationship.collect loader.truthy r.config.relationship_type answer

/-! ## The invariant -/

/-- Everything kept was produced for what it is kept for. -/
structure Isolated (loader : RelationshipLoader α) (m : RelationshipManager α) (loads : List (Subject × String))
    (s : LoadSession α κ) : Prop where
  registered : ∀ T name r, s.manager.get_relationship T name = some r →
    ∃ r₀, m.get_relationship T name = some r₀ ∧ r.config = r₀.config ∧ r.config.name = name ∧ r.cache_manager = m.cache_manager
  loaded : ∀ (e : Subject) name r related, s.manager.get_relationship e.type name = some r →
    r.loaded_entities.get? e.entity_id = some related → Produced loader s r (e, name) related
  cached : ∀ k entry, (s.heap.caches.read m.cache_manager).lookup k = some entry →
    ∃ a ∈ loads, ∃ r, m.get_relationship a.1.type a.2 = some r ∧ r.should_use_cache a.1 = true ∧
      k = (r.get_cache_key a.1).str ∧ Produced loader s r a entry.data

variable {loader : RelationshipLoader α} {m : RelationshipManager α} {all : List (Subject × String)} {s t : LoadSession α κ}

/-- What was produced stays produced. -/
theorem Produced.later {r r' : Relationship α} {a : Subject × String} {related : Data α} (produced : Produced loader s r a related)
    (config : r'.config = r.config) (reads : s.heap.reads ≤ t.heap.reads)
    (asked : ∀ read < s.heap.reads, t.asked read = s.asked read) : Produced loader t r' a related := by
  obtain ⟨before, b, answer, same, about, answered, value⟩ := produced
  refine ⟨Nat.lt_of_lt_of_le before reads, b, answer, ?_, about, ?_, ?_⟩
  · rw [asked _ before, same]
  · rw [config, answered]
  · rw [config, value]

theorem Produced.same {r : Relationship α} {a b : Subject × String} {related : Data α} (produced : Produced loader s r a related)
    (about : SameLoad b a) : Produced loader s r b related := by
  obtain ⟨before, c, answer, same, about', rest⟩ := produced
  exact ⟨before, c, answer, same, ⟨about.1.trans about'.1, about.2.1.trans about'.2.1, about.2.2.trans about'.2.2⟩, rest⟩

/-- What a load of a registered relationship answers was produced for it. -/
theorem Isolated.source (isolated : Isolated loader m all s) (separate : Separate m all) (manager : RelationshipManager α) {a : Subject × String} (among : a ∈ all)
    {r : Relationship α} (registered : s.manager.get_relationship a.1.type a.2 = some r) {related : Data α} {h' : Heap α κ}
    {asked : Nat → Option (Subject × String)} (reads : s.heap.reads ≤ h'.reads)
    (before : ∀ read < s.heap.reads, asked read = s.asked read) (now : h'.reads = s.heap.reads + 1 → asked s.heap.reads = some a)
    (source : Relationship.Source loader s.heap r a.1 related h') : Produced loader ⟨manager, h', asked⟩ r a related := by
  obtain ⟨r₀, registered₀, config, name, cache⟩ := isolated.registered _ _ r registered
  cases source with
  | kept found => exact (isolated.loaded a.1 a.2 r related registered found).later rfl reads before
  | cached used entry found live same =>
    rw [cache] at found
    obtain ⟨b, member, rb, registered_b, used_b, key, produced⟩ := isolated.cached _ entry found
    have shares : Shares m a b := by
      refine ⟨r₀, rb, registered₀, registered_b, ?_, used_b, ?_⟩
      · rw [Relationship.should_use_cache, ← config]; exact used
      · rw [← key, Relationship.get_cache_key, Relationship.get_cache_key, Relationship.cache_key, Relationship.cache_key, config]
    have about := separate a among b member shares
    have alike : rb = r₀ := by
      rw [← about.1, ← about.2.2, registered₀] at registered_b
      exact (Option.some.inj registered_b).symm
    exact same ▸ (produced.same about).later (by rw [config, alike]) reads before
  | fetched fetched =>
    obtain ⟨next, answer, answered, rfl⟩ := fetched
    rw [name] at answered
    exact ⟨by simp [next], a, answer, now next, ⟨rfl, rfl, rfl⟩, answered, rfl⟩

theorem Isolated.load (isolated : Isolated loader m all s) (separate : Separate m all) {a : Subject × String} (among : a ∈ all)
    (force_reload : Bool) :
    Isolated loader m all (s.load loader a.1 a.2 force_reload).2 ∧
      ∀ related, (s.load loader a.1 a.2 force_reload).1 = .ok related →
        ∃ r, m.get_relationship a.1.type a.2 = some r ∧ Produced loader (s.load loader a.1 a.2 force_reload).2 r a related := by
  unfold LoadSession.load
  rcases s.manager.load_relationship_cases loader s.heap a.1 a.2 force_reload with
    ⟨exception, -, raised⟩ | ⟨r, outcome, r', h', registered, loads, answered⟩
  · simp only [raised, if_true]
    exact ⟨isolated, fun _ ok => by cases ok⟩
  · simp only [answered]
    have before (read : Nat) (old : read < s.heap.reads) :
        (if h'.reads = s.heap.reads then s.asked else Function.update s.asked s.heap.reads (some a)) read = s.asked read := by
      split
      · rfl
      · exact Function.update_of_ne (Nat.ne_of_lt old) _ _
    have now (next : h'.reads = s.heap.reads + 1) :
        (if h'.reads = s.heap.reads then s.asked else Function.update s.asked s.heap.reads (some a)) s.heap.reads = some a := by
      rw [if_neg (by omega), Function.update_self]
    have produced (related : Data α) (ok : outcome = .ok related) := isolated.source separate
      (s.manager.put a.1.type a.2 r') among registered loads.reads before now (loads.source related ok)
    obtain ⟨r₀, registered₀, config, name, cache⟩ := isolated.registered _ _ r registered
    refine ⟨⟨fun T other q found => ?_, fun e other q related found kept => ?_, fun k entry found => ?_⟩,
      fun related ok => ⟨r₀, registered₀, (produced related ok).later config.symm (Nat.le_refl _) fun _ _ => rfl⟩⟩
    · rcases RelationshipManager.get_relationship_put_some found with ⟨rfl, rfl, rfl⟩ | found
      · exact ⟨r₀, registered₀, loads.config.trans config, by rw [loads.config]; exact name, loads.cache_manager.trans cache⟩
      · exact isolated.registered T other q found
    · rcases RelationshipManager.get_relationship_put_some found with ⟨type, rfl, rfl⟩ | found
      · rcases loads.loaded _ related kept with old | ⟨id, ok⟩
        · exact (isolated.loaded e a.2 r related (type ▸ registered) old).later loads.config loads.reads before
        · exact ((produced related ok).same (b := (e, a.2)) ⟨type.symm, id, rfl⟩).later loads.config (Nat.le_refl _) fun _ _ => rfl
      · exact (isolated.loaded e other q related found kept).later rfl loads.reads before
    · rcases loads.caches _ k entry found with ⟨old, found', agree⟩ | ⟨-, used, key, fetched⟩
      · obtain ⟨b, member, rb, registered_b, used_b, key, produced_b⟩ := isolated.cached k old found'
        exact ⟨b, member, rb, registered_b, used_b, key, agree.1 ▸ produced_b.later rfl loads.reads before⟩
      · have produced_a := isolated.source separate (s.manager.put a.1.type a.2 r') among registered loads.reads
          before now (.fetched fetched)
        refine ⟨a, among, r₀, registered₀, ?_, ?_, produced_a.later config.symm (Nat.le_refl _) fun _ _ => rfl⟩
        · rw [Relationship.should_use_cache, ← config]; exact used
        · rw [key, Relationship.get_cache_key, Relationship.get_cache_key, Relationship.cache_key, Relationship.cache_key, config]

theorem run_isolated (isolated : Isolated loader m all s) (separate : Separate m all) (events : List LoadEvent)
    (among : ∀ a ∈ loads events, a ∈ all) : Isolated loader m all (s.run loader events) := by
  induction events generalizing s with
  | nil => exact isolated
  | cons event rest ih =>
    have later : ∀ a ∈ loads rest, a ∈ all := by
      intro a member
      apply among
      cases event with
      | load entity name force_reload => exact List.mem_cons_of_mem _ member
      | elapse microseconds => exact member
    cases event with
    | load entity name force_reload =>
      have first : (entity, name) ∈ all := among _ List.mem_cons_self
      exact ih (isolated.load separate first force_reload).1 later
    | elapse microseconds => exact ih ⟨isolated.registered, isolated.loaded, isolated.cached⟩ later

/-- A relationship that has just been registered has loaded nothing. -/
theorem registered_new (registrations : List (ElementType × RelationshipConfiguration)) {m : RelationshipManager α}
    (new : ∀ T name r, m.get_relationship T name = some r →
      r.config.name = name ∧ r.cache_manager = m.cache_manager ∧ r.loaded_entities = ∅) :
    (registrations.foldl (fun m item => m.register item.1 item.2) m).cache_manager = m.cache_manager ∧
      ∀ T name r, (registrations.foldl (fun m item => m.register item.1 item.2) m).get_relationship T name = some r →
        r.config.name = name ∧ r.cache_manager = m.cache_manager ∧ r.loaded_entities = ∅ := by
  induction registrations generalizing m with
  | nil => exact ⟨rfl, new⟩
  | cons item rest ih =>
    have registered : ∀ T name r, (m.register item.1 item.2).get_relationship T name = some r →
        r.config.name = name ∧ r.cache_manager = m.cache_manager ∧ r.loaded_entities = ∅ := by
      intro T name r found
      have put : m.register item.1 item.2 = m.put item.1 item.2.name { config := item.2, cache_manager := m.cache_manager } := rfl
      rw [put] at found
      rcases RelationshipManager.get_relationship_put_some found with ⟨-, same, rfl⟩ | found
      · exact ⟨same, rfl, rfl⟩
      · exact new T name r found
    exact ih registered

theorem start_isolated (loader : RelationshipLoader α) (h : Heap α κ) (config : CacheConfiguration)
    (registrations : List (ElementType × RelationshipConfiguration)) (all : List (Subject × String)) :
    Isolated loader (start h config registrations).manager all (start h config registrations) := by
  have new : ∀ T name r, ({ cache_manager := h.caches.next } : RelationshipManager α).get_relationship T name = some r →
      r.config.name = name ∧ r.cache_manager = h.caches.next ∧ r.loaded_entities = ∅ := fun _ _ _ found => by cases found
  obtain ⟨cache, registered⟩ := registered_new registrations new
  refine ⟨fun T name r found => ?_, fun e name r related found kept => ?_, fun k entry found => ?_⟩
  · obtain ⟨same, given, -⟩ := registered T name r found
    exact ⟨r, found, rfl, same, given.trans cache.symm⟩
  · rw [(registered _ name r found).2.2] at kept
    cases kept
  · have empty : (start h config registrations).heap.caches.read (start h config registrations).manager.cache_manager =
        ⟨{ config := config }⟩ := by
      rw [start, cache]
      exact Store.read_alloc_new _ _
    rw [empty] at found
    cases found

/-- What a load answers was produced for the same relationship of the same entity,
    if loads of the run that share a cache key are about the same. -/
theorem relationships_isolated (loader : RelationshipLoader α) (h : Heap α κ) (config : CacheConfiguration)
    (registrations : List (ElementType × RelationshipConfiguration)) (events : List LoadEvent) (e : Subject) (name : String)
    (force_reload : Bool) (separate : Separate (start h config registrations).manager (loads events ++ [(e, name)]))
    {related : Data α} (ok : (((start h config registrations).run loader events).load loader e name force_reload).1 = .ok related) :
    ∃ r, (start h config registrations).manager.get_relationship e.type name = some r ∧
      Produced loader (((start h config registrations).run loader events).load loader e name force_reload).2 r (e, name) related := by
  have start := start_isolated loader h config registrations (loads events ++ [(e, name)])
  have isolated := run_isolated start separate events fun a member => List.mem_append_left _ member
  exact (isolated.load separate (List.mem_append_right _ (List.mem_singleton.mpr rfl)) force_reload).2 related ok

end LoadSession

/-! ## Two source types -/

namespace LoadSession

/-- Walls and doors both have tags. -/
def tagged : LoadSession Nat Nat :=
  start Heap.init .defaults [(⟨0, "Wall"⟩, ⟨"tags", .ONE_TO_ONE, ⟨2, "Tag"⟩, .LAZY, true⟩),
    (⟨1, "Door"⟩, ⟨"tags", .ONE_TO_ONE, ⟨2, "Tag"⟩, .LAZY, true⟩)]

/-- The answers are the addresses of the objects asked for. -/
def tags : RelationshipLoader Nat := ⟨fun _ entity _ _ => .ok (.object entity.address.toNat), fun _ => true⟩

def some_wall : Subject := { address := 10, type := ⟨0, "Wall"⟩, id := some (some (.int 1)) }

def some_door (id : Int) : Subject := { address := 20, type := ⟨1, "Door"⟩, id := some (some (.int id)) }

theorem door_tag_on_door :
    ((tagged.run tags [.load some_wall "tags" false]).load tags (some_door 2) "tags" false).1 = .ok ⟨.object 20, 1⟩ ∧
      ∃ r, tagged.manager.get_relationship (some_door 2).type "tags" = some r ∧
        Produced tags ((tagged.run tags [.load some_wall "tags" false]).load tags (some_door 2) "tags" false).2 r
          (some_door 2, "tags") ⟨.object 20, 1⟩ := by
  have answered : ((tagged.run tags [.load some_wall "tags" false]).load tags (some_door 2) "tags" false).1 =
      .ok ⟨.object 20, 1⟩ := by decide +kernel
  have wall_key : (tagged.manager.get_relationship some_wall.type "tags").map (fun r => (r.get_cache_key some_wall).str) =
      some "Tag|id:1|rel:tags" := by decide +kernel
  have door_key : (tagged.manager.get_relationship (some_door 2).type "tags").map (fun r => (r.get_cache_key (some_door 2)).str) =
      some "Tag|id:2|rel:tags" := by decide +kernel
  have separate : Separate tagged.manager (loads [.load some_wall "tags" false] ++ [(some_door 2, "tags")]) := by
    intro a among b among' shares
    simp only [loads, List.filterMap_cons, List.filterMap_nil, List.singleton_append, List.mem_cons, List.not_mem_nil,
      or_false] at among among'
    obtain ⟨r, r', registered, registered', -, -, key⟩ := shares
    rcases among with rfl | rfl <;> rcases among' with rfl | rfl
    · exact ⟨rfl, rfl, rfl⟩
    · simp only [registered, registered', Option.map_some, Option.some.injEq] at wall_key door_key
      rw [wall_key, door_key] at key
      exact absurd key (by decide)
    · simp only [registered, registered', Option.map_some, Option.some.injEq] at wall_key door_key
      rw [wall_key, door_key] at key
      exact absurd key (by decide)
    · exact ⟨rfl, rfl, rfl⟩
  exact ⟨answered, relationships_isolated tags Heap.init {} _ [.load some_wall "tags" false] (some_door 2) "tags" false separate
    answered⟩

/-- The door is answered with the tag of the wall that has the same id. -/
theorem wall_tag_on_door :
    ¬∀ (loader : RelationshipLoader Nat) (h : Heap Nat Nat) (config : CacheConfiguration)
        (registrations : List (ElementType × RelationshipConfiguration)) (events : List LoadEvent) (e : Subject) (name : String)
        (force_reload : Bool) (related : Data Nat),
      (((start h config registrations).run loader events).load loader e name force_reload).1 = .ok related →
        ∃ r, (start h config registrations).manager.get_relationship e.type name = some r ∧
          Produced loader (((start h config registrations).run loader events).load loader e name force_reload).2 r (e, name)
            related := by
  intro isolated
  have answered : ((tagged.run tags [.load some_wall "tags" false]).load tags (some_door 1) "tags" false).1 =
      .ok ⟨.object 10, 0⟩ := by decide +kernel
  have asked : (((tagged.run tags [.load some_wall "tags" false]).load tags (some_door 1) "tags" false).2.asked 0).map
      (fun b => b.1.type) = some ⟨0, "Wall"⟩ := by decide +kernel
  obtain ⟨r, -, -, b, answer, same, about, -⟩ := isolated tags Heap.init {} _ [.load some_wall "tags" false] (some_door 1) "tags"
    false _ answered
  have door : (some b).map (fun b => b.1.type) = some ⟨0, "Wall"⟩ := by rw [← same]; exact asked
  have types : (some_door 1).type ≠ ⟨0, "Wall"⟩ := by decide
  exact types (about.1.trans (Option.some.inj door))

end LoadSession

end RevitPy
