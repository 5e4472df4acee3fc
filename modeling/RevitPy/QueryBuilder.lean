import RevitPy.Cache
import RevitPy.QueryPlan
import RevitPy.Store

/-!
# Query builders

A builder refers to a plan, and the fluent methods make new builders from it.
All of them but `select` copy the plan. Execution optimizes the plan and looks
for its result in the executor, then in the cache, before it asks the provider.
-/

namespace RevitPy

/-- A class of elements. Classes are told apart by identity, cache keys know only
    their names. -/
structure ElementType where
  identity : Nat
  name : String
  deriving DecidableEq

inductive QueryException
  | ValueError (message : String)
  | QueryError (message : String)
  | TypeError
  deriving DecidableEq

/-- A cached value: `None`, one object, or a list of objects. -/
inductive Value (α : Type)
  | none
  | object (reference : α)
  | list (elements : List α)
  deriving DecidableEq

def Value.is_none {α : Type} : Value α → Bool
  | .none => true
  | _ => false

/-- The elements of a list; nothing else can be counted and iterated. -/
def Value.elements {α : Type} : Value α → Except QueryException (List α)
  | .list elements => .ok elements
  | _ => .error .TypeError

/-- A value, and which of all reads of the provider or of a relationship loader it
    comes from. The code does not count the reads, the model does. -/
structure Data (α : Type) where
  value : Value α
  read : Nat
  deriving DecidableEq

/-- The source of elements. An answer is a list, or the text of an exception, and
    may be another one at every read. -/
structure Provider (α : Type) where
  get_all_elements : Nat → Except String (List α)
  get_elements_of_type : Nat → ElementType → Except String (List α)
  get_element_by_id : Nat → ElementId → Except String (Option α)

/-- Executor that provides lazy evaluation of queries. Its plan is set before
    every execution, its results are kept. -/
structure LazyQueryExecutor (α : Type) where
  element_type : Option ElementType
  cache_manager : Nat
  results : Option (Data α) := none

structure QueryBuilder (α : Type) where
  element_type : Option ElementType
  cache_manager : Nat
  query_plan : Nat
  executor : LazyQueryExecutor α

/-- The objects that queries share. Every builder refers to a plan of the heap;
    the cells not in use refer to some plan, too. -/
structure Heap (α κ : Type) where
  plans : Store (QueryPlan α κ)
  builders : Store (QueryBuilder α)
  caches : Store (CacheManager (Data α))
  clock : Nat
  reads : Nat
  plan_known : ∀ b, (builders.read b).query_plan < plans.next

/-- A call of a fluent method. -/
inductive FluentCall (α κ : Type)
  | «where» (predicate : Callback α Bool)
  | select (selector : Callback α α)
  | order_by (key_selector : Callback α κ)
  | order_by_descending (key_selector : Callback α κ)
  | skip (count : Int)
  | take (count : Int)
  | distinct (key_selector : Option (Callback α κ))

variable {α κ : Type}

def FluentCall.isSelect : FluentCall α κ → Bool
  | .select _ => true
  | _ => false

/-- An operation and the text of its details, as they are hashed. -/
def QueryOperation.details : QueryOperation α κ → String × String
  | .filter predicate => ("filter", predicate.text)
  | .select selector => ("select", selector.text)
  | .order_by key_selector reverse =>
    ("order_by", "(" ++ key_selector.text ++ ", " ++ (if reverse then "True" else "False") ++ ")")
  | .skip count => ("skip", toString count)
  | .take count => ("take", toString count)
  | .distinct none => ("distinct", "None")
  | .distinct (some key_selector) => ("distinct", key_selector.text)

namespace Heap

/-- No builder has been made yet. -/
def init : Heap α κ where
  plans := { next := 1, cell := fun _ => {} }
  builders := { next := 0, cell := fun _ => ⟨none, 0, 0, none, 0, none⟩ }
  caches := { next := 0, cell := fun _ => {} }
  clock := 0
  reads := 0
  plan_known := fun _ => Nat.one_pos

def plan (h : Heap α κ) (b : Nat) : QueryPlan α κ := h.plans.read (h.builders.read b).query_plan

/-- The operation list of a builder. -/
def operations (h : Heap α κ) (b : Nat) : List (QueryOperation α κ) := (h.plan b).operations

/-- A builder object that refers to a given plan and to given caches. -/
def alloc_builder (h : Heap α κ) (element_type : Option ElementType) (cache_manager executor_cache query_plan : Nat)
    (known : query_plan < h.plans.next) : Heap α κ :=
  { h with
    builders := h.builders.alloc
      { element_type := element_type
        cache_manager := cache_manager
        query_plan := query_plan
        executor := { element_type := element_type, cache_manager := executor_cache } }
    plan_known := by
      intro b
      by_cases new : b = h.builders.next
      · rw [new, Store.read_alloc_new]
        exact known
      · rw [Store.read_alloc_ne _ _ new]
        exact h.plan_known b }

def alloc_plan (h : Heap α κ) (plan : QueryPlan α κ) : Heap α κ :=
  { h with
    plans := h.plans.alloc plan
    plan_known := fun b => Nat.lt_succ_of_lt (h.plan_known b) }

/-- `QueryBuilder(provider, element_type, cache_manager)`. Without a cache manager
    the builder makes one, and its executor another. -/
def new_builder (h : Heap α κ) (element_type : Option ElementType) (cache_manager : Option Nat) : Nat × Heap α κ :=
  let allocated := match cache_manager with
    | some cache_manager =>
      (h.alloc_plan {}).alloc_builder element_type cache_manager cache_manager h.plans.next (Nat.lt_succ_self _)
    | none =>
      let cached := { h with caches := (h.caches.alloc {}).alloc {} }
      (cached.alloc_plan {}).alloc_builder element_type h.caches.next (h.caches.next + 1) h.plans.next (Nat.lt_succ_self _)
  (h.builders.next, allocated)

/-! ## Fluent interface methods -/

/-- Create a copy of a query builder. -/
def clone (h : Heap α κ) (b : Nat) : Nat × Heap α κ :=
  let source := h.builders.read b
  let copy : QueryPlan α κ := { operations := h.operations b, cache_strategy := (h.plan b).cache_strategy }
  (h.builders.next,
    (h.alloc_plan copy).alloc_builder source.element_type source.cache_manager source.cache_manager h.plans.next
      (Nat.lt_succ_self _))

/-- The plan object of a builder is changed in place. -/
def add_operation (h : Heap α κ) (b : Nat) (operation : QueryOperation α κ) : Heap α κ :=
  { h with plans := h.plans.write (h.builders.read b).query_plan ((h.plan b).add_operation operation) }

/-- What all fluent methods but `select` do: clone, then add an operation to the
    plan of the clone. -/
def derive (h : Heap α κ) (b : Nat) (operation : QueryOperation α κ) : Nat × Heap α κ :=
  let (clone, h) := h.clone b
  (clone, h.add_operation clone operation)

/-- Filter elements using a predicate function. -/
def «where» (h : Heap α κ) (b : Nat) (predicate : Callback α Bool) : Nat × Heap α κ := h.derive b (.filter predicate)

/-- Project elements using a selector function. The new builder has the plan
    object of the old one, and no element type. -/
def select (h : Heap α κ) (b : Nat) (selector : Callback α α) : Nat × Heap α κ :=
  let source := h.builders.read b
  let allocated := h.alloc_builder none source.cache_manager source.cache_manager source.query_plan (h.plan_known b)
  (h.builders.next, allocated.add_operation h.builders.next (.select selector))

/-- Sort elements in ascending order by key. -/
def order_by (h : Heap α κ) (b : Nat) (key_selector : Callback α κ) : Nat × Heap α κ :=
  h.derive b (.order_by key_selector false)

/-- Sort elements in descending order by key. -/
def order_by_descending (h : Heap α κ) (b : Nat) (key_selector : Callback α κ) : Nat × Heap α κ :=
  h.derive b (.order_by key_selector true)

/-- Skip the specified number of elements. -/
def skip (h : Heap α κ) (b : Nat) (count : Int) : Except QueryException (Nat × Heap α κ) :=
  if count < 0 then .error (.ValueError "Skip count cannot be negative") else .ok (h.derive b (.skip count.toNat))

/-- Take only the specified number of elements. -/
def take (h : Heap α κ) (b : Nat) (count : Int) : Except QueryException (Nat × Heap α κ) :=
  if count ≤ 0 then .error (.ValueError "Take count must be positive") else .ok (h.derive b (.take count.toNat))

/-- Get distinct elements, optionally by key. -/
def distinct (h : Heap α κ) (b : Nat) (key_selector : Option (Callback α κ)) : Nat × Heap α κ :=
  h.derive b (.distinct key_selector)

/-- A fluent call on a builder: the builder it returns, or the exception. A call
    that raises leaves the heap as it is. -/
def call (h : Heap α κ) (b : Nat) : FluentCall α κ → Except QueryException (Nat × Heap α κ)
  | .where predicate => .ok (h.where b predicate)
  | .select selector => .ok (h.select b selector)
  | .order_by key_selector => .ok (h.order_by b key_selector)
  | .order_by_descending key_selector => .ok (h.order_by_descending b key_selector)
  | .skip count => h.skip b count
  | .take count => h.take b count
  | .distinct key_selector => .ok (h.distinct b key_selector)

/-! ## What a fluent call does -/

end Heap

/-- The operation that a fluent call adds, or what it raises. -/
def FluentCall.operation : FluentCall α κ → Except QueryException (QueryOperation α κ)
  | .where predicate => .ok (.filter predicate)
  | .select selector => .ok (.select selector)
  | .order_by key_selector => .ok (.order_by key_selector false)
  | .order_by_descending key_selector => .ok (.order_by key_selector true)
  | .skip count => if count < 0 then .error (.ValueError "Skip count cannot be negative") else .ok (.skip count.toNat)
  | .take count => if count ≤ 0 then .error (.ValueError "Take count must be positive") else .ok (.take count.toNat)
  | .distinct key_selector => .ok (.distinct key_selector)

namespace Heap

/-- The heap `h'` after a fluent call on `b` that returns the builder `b'`: that
    builder has one operation more. Of the objects there were, only the plan of a
    projected builder changes. -/
structure Derived (h : Heap α κ) (b : Nat) (projects : Bool) (operation : QueryOperation α κ) (b' : Nat) (h' : Heap α κ) :
    Prop where
  fresh : b' = h.builders.next
  next : h'.builders.next = h.builders.next + 1
  builders : ∀ r < h.builders.next, h'.builders.read r = h.builders.read r
  caches : h'.caches = h.caches
  clock : h'.clock = h.clock
  reads : h'.reads = h.reads
  element_type : (h'.builders.read b').element_type = if projects then none else (h.builders.read b).element_type
  executor_type : (h'.builders.read b').executor.element_type = (h'.builders.read b').element_type
  results : (h'.builders.read b').executor.results = none
  cache_manager : (h'.builders.read b').cache_manager = (h.builders.read b).cache_manager
  executor_cache : (h'.builders.read b').executor.cache_manager = (h.builders.read b).cache_manager
  query_plan : (h'.builders.read b').query_plan = if projects then (h.builders.read b).query_plan else h.plans.next
  operations : h'.operations b' = h.operations b ++ [operation]
  strategy : (h'.plan b').cache_strategy = (h.plan b).cache_strategy
  plans_next : h.plans.next ≤ h'.plans.next
  plans : ∀ r < h.plans.next, (projects = true → r ≠ (h.builders.read b).query_plan) → h'.plans.read r = h.plans.read r

theorem derive_derived (h : Heap α κ) (b : Nat) (operation : QueryOperation α κ) :
    Derived h b false operation (h.derive b operation).1 (h.derive b operation).2 where
  fresh := rfl
  next := rfl
  builders := fun r old => by simp [derive, add_operation, clone, alloc_builder, alloc_plan, Store.read_alloc_old _ _ old]
  caches := rfl
  clock := rfl
  reads := rfl
  element_type := by simp [derive, add_operation, clone, alloc_builder, alloc_plan]
  executor_type := by simp [derive, add_operation, clone, alloc_builder, alloc_plan]
  results := by simp [derive, add_operation, clone, alloc_builder, alloc_plan]
  cache_manager := by simp [derive, add_operation, clone, alloc_builder, alloc_plan]
  executor_cache := by simp [derive, add_operation, clone, alloc_builder, alloc_plan]
  query_plan := by simp [derive, add_operation, clone, alloc_builder, alloc_plan]
  operations := by simp [derive, add_operation, clone, alloc_builder, alloc_plan, operations, plan, QueryPlan.add_operation]
  strategy := by simp [derive, add_operation, clone, alloc_builder, alloc_plan, plan, QueryPlan.add_operation]
  plans_next := Nat.le_succ _
  plans := fun r old _ => by
    simp [derive, add_operation, clone, alloc_builder, alloc_plan, Store.read_write_ne _ _ (Nat.ne_of_lt old),
      Store.read_alloc_old _ _ old]

theorem select_derived (h : Heap α κ) (b : Nat) (selector : Callback α α) :
    Derived h b true (.select selector) (h.select b selector).1 (h.select b selector).2 where
  fresh := rfl
  next := rfl
  builders := fun r old => by simp [select, add_operation, alloc_builder, Store.read_alloc_old _ _ old]
  caches := rfl
  clock := rfl
  reads := rfl
  element_type := by simp [select, add_operation, alloc_builder]
  executor_type := by simp [select, add_operation, alloc_builder]
  results := by simp [select, add_operation, alloc_builder]
  cache_manager := by simp [select, add_operation, alloc_builder]
  executor_cache := by simp [select, add_operation, alloc_builder]
  query_plan := by simp [select, add_operation, alloc_builder]
  operations := by simp [select, add_operation, alloc_builder, operations, plan, QueryPlan.add_operation]
  strategy := by simp [select, add_operation, alloc_builder, plan, QueryPlan.add_operation]
  plans_next := Nat.le_refl _
  plans := fun r _ other => by simp [select, add_operation, alloc_builder, Store.read_write_ne _ _ (other rfl)]

/-- A fluent call raises what its argument makes it raise, or derives a builder. -/
theorem call_spec (h : Heap α κ) (b : Nat) (c : FluentCall α κ) :
    (∃ exception, c.operation = .error exception ∧ h.call b c = .error exception) ∨
      ∃ operation b' h', c.operation = .ok operation ∧ h.call b c = .ok (b', h') ∧
        Derived h b c.isSelect operation b' h' := by
  cases c with
  | select selector => exact Or.inr ⟨_, _, _, rfl, rfl, h.select_derived b selector⟩
  | skip count =>
    by_cases negative : count < 0
    · exact Or.inl ⟨_, by rw [FluentCall.operation, if_pos negative], by rw [call, skip, if_pos negative]⟩
    · exact Or.inr ⟨_, _, _, by rw [FluentCall.operation, if_neg negative], by rw [call, skip, if_neg negative],
        h.derive_derived b _⟩
  | take count =>
    by_cases unpositive : count ≤ 0
    · exact Or.inl ⟨_, by rw [FluentCall.operation, if_pos unpositive], by rw [call, take, if_pos unpositive]⟩
    · exact Or.inr ⟨_, _, _, by rw [FluentCall.operation, if_neg unpositive], by rw [call, take, if_neg unpositive],
        h.derive_derived b _⟩
  | «where» | order_by | order_by_descending | distinct => exact Or.inr ⟨_, _, _, rfl, rfl, h.derive_derived b _⟩

/-! ## Execution -/

/-- The results that an executor keeps. -/
def remember (h : Heap α κ) (b : Nat) (results : Data α) : Heap α κ :=
  let builder := h.builders.read b
  { h with
    builders := h.builders.write b { builder with executor := { builder.executor with results := some results } }
    plan_known := by
      intro r
      by_cases same : r = b
      · rw [same, Store.read_write_self]
        exact h.plan_known b
      · rw [Store.read_write_ne _ _ same]
        exact h.plan_known r }

def write_cache (h : Heap α κ) (cache_manager : Nat) (cache : CacheManager (Data α)) : Heap α κ :=
  { h with caches := h.caches.write cache_manager cache }

/-- An entry of a cache is one of the cache that was written, or was there. -/
theorem lookup_write {h : Heap α κ} {m r : Nat} {cache : CacheManager (Data α)} {k : String} {entry : CacheEntry (Data α)}
    (found : ((h.write_cache m cache).caches.read r).lookup k = some entry) :
    r = m ∧ cache.lookup k = some entry ∨ r ≠ m ∧ (h.caches.read r).lookup k = some entry := by
  by_cases same : r = m
  · subst same
    rw [write_cache, Store.read_write_self] at found
    exact Or.inl ⟨rfl, found⟩
  · rw [write_cache, Store.read_write_ne _ _ same] at found
    exact Or.inr ⟨same, found⟩

theorem within_write {h : Heap α κ} {m r : Nat} {cache : CacheManager (Data α)} {k : String} {entry : CacheEntry (Data α)}
    (within : cache.Within (h.caches.read m)) (found : ((h.write_cache m cache).caches.read r).lookup k = some entry) :
    ∃ old, (h.caches.read r).lookup k = some old ∧ entry.Agree old := by
  rcases lookup_write found with ⟨rfl, kept⟩ | ⟨-, other⟩
  · exact within k entry kept
  · exact ⟨entry, other, .refl entry⟩

/-- The only new entry is the one that is set. -/
theorem lookup_write_set {h : Heap α κ} {m r now : Nat} {key : CacheKey} {value : Data α} {k : String}
    {entry : CacheEntry (Data α)}
    (found : ((h.write_cache m ((h.caches.read m).set now key value none [])).caches.read r).lookup k = some entry) :
    r = m ∧ k = key.str ∧ entry.data = value ∨ ∃ old, (h.caches.read r).lookup k = some old ∧ entry.Agree old := by
  rcases lookup_write found with ⟨rfl, written⟩ | ⟨-, other⟩
  · rcases CacheManager.lookup_set written with ⟨same, stored⟩ | kept
    · exact Or.inl ⟨rfl, same, stored⟩
    · exact Or.inr kept
  · exact Or.inr ⟨entry, other, .refl entry⟩

/-- The cache key of a plan. `query_hash` stands for the md5 digest of the JSON
    text of the operations. -/
def cache_key (query_hash : List (String × String) → String) (element_type : Option ElementType)
    (plan : QueryPlan α κ) : CacheKey :=
  { entity_type := match element_type with
      | some element_type => element_type.name
      | none => "Element"
    query_hash := some (query_hash (plan.operations.map QueryOperation.details)) }

/-- Result sets of this size or more are not cached. -/
def LAZY_EVAL_THRESHOLD : Nat := 1000

section
variable [DecidableEq α] [LinearOrder κ] (provider : Provider α) (query_hash : List (String × String) → String)

omit [DecidableEq α] [LinearOrder κ] in
/-- The cached result, if the plan may be cached and there is one that is not `None`. -/
def cached (h : Heap α κ) (b : Nat) (plan : QueryPlan α κ) : Option (Data α) × Heap α κ :=
  if plan.cache_strategy = .NONE then (none, h)
  else
    let executor := (h.builders.read b).executor
    let (cached_result, cache) :=
      (h.caches.read executor.cache_manager).get h.clock (cache_key query_hash executor.element_type plan)
    (cached_result.filter fun results => !results.value.is_none, h.write_cache executor.cache_manager cache)

/-- The elements that the provider answers at this read. -/
def get_elements (h : Heap α κ) (element_type : Option ElementType) : Except String (List α) := match element_type with
  | some element_type => provider.get_elements_of_type h.reads element_type
  | none => provider.get_all_elements h.reads

/-- Ask the provider, apply the plan and keep the results. -/
def fetch (h : Heap α κ) (b : Nat) (plan : QueryPlan α κ) : Except QueryException (Data α) × Heap α κ :=
  let executor := (h.builders.read b).executor
  let asked := { h with reads := h.reads + 1 }
  match h.get_elements provider executor.element_type with
  | .error e => (.error (.QueryError ("Failed to execute query: " ++ e)), asked)
  | .ok elements =>
    let current := apply_operations plan.operations elements
    let results : Data α := { value := .list current, read := h.reads }
    let kept := asked.remember b results
    if plan.cache_strategy ≠ .NONE ∧ current.length < LAZY_EVAL_THRESHOLD then
      let cache := (h.caches.read executor.cache_manager).set h.clock (cache_key query_hash executor.element_type plan) results none []
      (.ok results, kept.write_cache executor.cache_manager cache)
    else (.ok results, kept)

/-- Execute the query synchronously. -/
def execute (h : Heap α κ) (b : Nat) : Except QueryException (Data α) × Heap α κ :=
  let plan := (h.plan b).optimize
  match (h.builders.read b).executor.results with
  | some results => (.ok results, h)
  | none => match h.cached query_hash b plan with
    | (some results, h) => (.ok results, h.remember b results)
    | (none, h) => h.fetch provider query_hash b plan

/-- Execute query and return results as list. -/
def to_list (h : Heap α κ) (b : Nat) : Except QueryException (Data α) × Heap α κ := h.execute provider query_hash b

/-- Get count of elements. -/
def count (h : Heap α κ) (b : Nat) : Except QueryException Nat × Heap α κ :=
  let (results, h) := h.execute provider query_hash b
  (results.bind fun results => results.value.elements.map List.length, h)

section
omit [DecidableEq α] [LinearOrder κ]
variable (h : Heap α κ) (b : Nat) (p : QueryPlan α κ)

@[simp] theorem builders_cached : (h.cached query_hash b p).2.builders = h.builders := by unfold cached; split <;> rfl

@[simp] theorem plans_cached : (h.cached query_hash b p).2.plans = h.plans := by unfold cached; split <;> rfl

@[simp] theorem clock_cached : (h.cached query_hash b p).2.clock = h.clock := by unfold cached; split <;> rfl

@[simp] theorem reads_cached : (h.cached query_hash b p).2.reads = h.reads := by unfold cached; split <;> rfl

end

/-- What `fetch` answers. -/
theorem fetch_fst (h : Heap α κ) (b : Nat) (plan : QueryPlan α κ) :
    (h.fetch provider query_hash b plan).1 = match h.get_elements provider (h.builders.read b).executor.element_type with
      | .error e => .error (.QueryError ("Failed to execute query: " ++ e))
      | .ok elements => .ok ⟨.list (apply_operations plan.operations elements), h.reads⟩ := by
  unfold fetch
  simp only
  split
  · rfl
  · split <;> rfl

section
variable {h : Heap α κ} {b : Nat}

theorem execute_kept {results : Data α} (kept : (h.builders.read b).executor.results = some results) :
    h.execute provider query_hash b = (.ok results, h) := by simp only [execute, kept]

theorem execute_hit {results : Data α} (unexecuted : (h.builders.read b).executor.results = none)
    (hit : (h.cached query_hash b (h.plan b).optimize).1 = some results) :
    h.execute provider query_hash b = (.ok results, (h.cached query_hash b (h.plan b).optimize).2.remember b results) := by
  simp only [execute, unexecuted]
  split
  · next looked => rw [looked] at hit ⊢; cases hit; rfl
  · next looked => rw [looked] at hit; cases hit

theorem execute_miss (unexecuted : (h.builders.read b).executor.results = none)
    (miss : (h.cached query_hash b (h.plan b).optimize).1 = none) :
    h.execute provider query_hash b =
      (h.cached query_hash b (h.plan b).optimize).2.fetch provider query_hash b (h.plan b).optimize := by
  simp only [execute, unexecuted]
  split
  · next looked => rw [looked] at miss; cases miss
  · next looked => rw [looked]

end

/-- Where the results of a builder come from: its executor has kept them, or they
    are live in the cache, or the provider was asked now. -/
inductive Source (h : Heap α κ) (b : Nat) (results : Data α) : Prop
  | kept (found : (h.builders.read b).executor.results = some results)
  | cached (unexecuted : (h.builders.read b).executor.results = none) (entry : CacheEntry (Data α))
      (found : (h.caches.read (h.builders.read b).executor.cache_manager).lookup
        (cache_key query_hash (h.builders.read b).executor.element_type (h.plan b).optimize).str = some entry)
      (live : entry.is_expired h.clock = false) (same : entry.data = results)
  | fetched (unexecuted : (h.builders.read b).executor.results = none) (elements : List α)
      (answer : h.get_elements provider (h.builders.read b).executor.element_type = .ok elements)
      (value : results = ⟨.list (apply_operations (h.plan b).optimize.operations elements), h.reads⟩)

/-- The heap `h'` after the execution of `b`. -/
structure Executed (h : Heap α κ) (b : Nat) (outcome : Except QueryException (Data α)) (h' : Heap α κ) : Prop where
  plans : h'.plans = h.plans
  clock : h'.clock = h.clock
  reads : h.reads ≤ h'.reads
  next : h'.builders.next = h.builders.next
  others : ∀ r ≠ b, h'.builders.read r = h.builders.read r
  builder : ∃ results, h'.builders.read b =
    { h.builders.read b with executor := { (h.builders.read b).executor with results := results } } ∧
      ∀ data, results = some data ↔ outcome = .ok data
  raised : ∀ e, outcome = .error e → ∃ message, h.get_elements provider (h.builders.read b).executor.element_type = .error message
  source : ∀ results, outcome = .ok results → Source provider query_hash h b results
  caches : ∀ r k entry, (h'.caches.read r).lookup k = some entry →
    (∃ old, (h.caches.read r).lookup k = some old ∧ entry.Agree old) ∨
      r = (h.builders.read b).executor.cache_manager ∧
        k = (cache_key query_hash (h.builders.read b).executor.element_type (h.plan b).optimize).str ∧
        (h.builders.read b).executor.results = none ∧ entry.data.read = h.reads

omit [DecidableEq α] [LinearOrder κ] in
theorem cached_hit {h : Heap α κ} {b : Nat} {p : QueryPlan α κ} {results : Data α}
    (hit : (h.cached query_hash b p).1 = some results) :
    ∃ entry, (h.caches.read (h.builders.read b).executor.cache_manager).lookup
        (cache_key query_hash (h.builders.read b).executor.element_type p).str = some entry ∧
      entry.is_expired h.clock = false ∧ entry.data = results := by
  unfold cached at hit
  split at hit
  · cases hit
  · obtain ⟨entry, found, same, live⟩ := CacheManager.get_hit (Option.filter_eq_some_iff.mp hit).1
    exact ⟨entry, found, live, same⟩

omit [DecidableEq α] [LinearOrder κ] in
theorem cached_within {h : Heap α κ} {b : Nat} {p : QueryPlan α κ} {r : Nat} {k : String} {entry : CacheEntry (Data α)}
    (found : ((h.cached query_hash b p).2.caches.read r).lookup k = some entry) :
    ∃ old, (h.caches.read r).lookup k = some old ∧ entry.Agree old := by
  unfold cached at found
  split at found
  · exact ⟨entry, found, .refl entry⟩
  · exact within_write (CacheManager.within_get _ _ _) found

theorem fetch_executed (h : Heap α κ) (b : Nat) (unexecuted : (h.builders.read b).executor.results = none) :
    Executed provider query_hash h b (h.fetch provider query_hash b (h.plan b).optimize).1
      (h.fetch provider query_hash b (h.plan b).optimize).2 := by
  unfold fetch
  cases answer : h.get_elements provider (h.builders.read b).executor.element_type with
  | error e =>
    simp only [answer]
    exact {
      plans := rfl
      clock := rfl
      reads := Nat.le_succ _
      next := rfl
      others := fun _ _ => rfl
      builder := ⟨none, by rw [← unexecuted], by simp⟩
      raised := fun _ _ => ⟨e, answer⟩
      source := fun _ ok => by cases ok
      caches := fun _ _ entry found => Or.inl ⟨entry, found, .refl entry⟩ }
  | ok elements =>
    let results : Data α := ⟨.list (apply_operations (h.plan b).optimize.operations elements), h.reads⟩
    have source : Source provider query_hash h b results := .fetched unexecuted elements answer rfl
    let kept := { h with reads := h.reads + 1 }.remember b results
    -- The results are remembered with any caches that come from the fetch.
    have remembered (caches : Store (CacheManager (Data α))) (come : ∀ r k entry, (caches.read r).lookup k = some entry →
        (∃ old, (h.caches.read r).lookup k = some old ∧ entry.Agree old) ∨
          r = (h.builders.read b).executor.cache_manager ∧
            k = (cache_key query_hash (h.builders.read b).executor.element_type (h.plan b).optimize).str ∧
            (h.builders.read b).executor.results = none ∧ entry.data.read = h.reads) :
        Executed provider query_hash h b (.ok results) { kept with caches := caches } := {
      plans := rfl
      clock := rfl
      reads := Nat.le_succ _
      next := rfl
      others := fun r other => Store.read_write_ne _ _ other
      builder := ⟨some results, Store.read_write_self _ _ _, by simp [results]⟩
      raised := fun _ error => by cases error
      source := fun _ ok => by cases ok; exact source
      caches := come }
    simp only [answer]
    split
    · refine remembered _ fun r k entry found => ?_
      rcases lookup_write_set (h := { h with reads := h.reads + 1 }) found with ⟨same, key, stored⟩ | kept
      · exact Or.inr ⟨same, key, unexecuted, by rw [stored]⟩
      · exact Or.inl kept
    · exact remembered _ fun _ _ entry found => Or.inl ⟨entry, found, .refl entry⟩

/-- To look for a result in the cache changes nothing that the results come from. -/
theorem Source.after_cached {h : Heap α κ} {b : Nat} {results : Data α}
    (source : Source provider query_hash (h.cached query_hash b (h.plan b).optimize).2 b results) :
    Source provider query_hash h b results := by
  have same : (h.cached query_hash b (h.plan b).optimize).2.plan b = h.plan b := by simp [plan]
  cases source with
  | kept found =>
    rw [builders_cached] at found
    exact .kept found
  | cached unexecuted entry found live stored =>
    rw [builders_cached] at unexecuted
    rw [builders_cached, same] at found
    rw [clock_cached] at live
    obtain ⟨old, found', agree⟩ := cached_within query_hash found
    exact .cached unexecuted old found' (agree.is_expired h.clock ▸ live) (agree.1 ▸ stored)
  | fetched unexecuted elements answer value =>
    rw [builders_cached] at unexecuted
    simp only [get_elements, builders_cached, reads_cached] at answer
    rw [same, reads_cached] at value
    exact .fetched unexecuted elements answer value

/-- What an execution answers, and what it leaves. -/
theorem execute_executed (h : Heap α κ) (b : Nat) :
    Executed provider query_hash h b (h.execute provider query_hash b).1 (h.execute provider query_hash b).2 := by
  cases executed : (h.builders.read b).executor.results with
  | some results =>
    rw [execute_kept provider query_hash executed]
    exact {
      plans := rfl
      clock := rfl
      reads := Nat.le_refl _
      next := rfl
      others := fun _ _ => rfl
      builder := ⟨some results, by rw [← executed], by simp⟩
      raised := fun _ error => by cases error
      source := fun _ ok => by cases ok; exact .kept executed
      caches := fun _ _ entry found => Or.inl ⟨entry, found, .refl entry⟩ }
  | none =>
    cases hit : (h.cached query_hash b (h.plan b).optimize).1 with
    | some results =>
      rw [execute_hit provider query_hash executed hit]
      obtain ⟨entry, found, live, same⟩ := cached_hit query_hash hit
      exact {
        plans := plans_cached ..
        clock := clock_cached ..
        reads := Nat.le_of_eq (reads_cached ..).symm
        next := by simp [remember]
        others := fun r other => by simp [remember, Store.read_write_ne _ _ other]
        builder := ⟨some results, by simp [remember], by simp⟩
        raised := fun _ error => by cases error
        source := fun _ ok => by cases ok; exact .cached executed entry found live same
        caches := fun _ _ _ found => Or.inl (cached_within query_hash found) }
    | none =>
      rw [execute_miss provider query_hash executed hit]
      have same : (h.cached query_hash b (h.plan b).optimize).2.plan b = h.plan b := by simp [plan]
      have fetched := (h.cached query_hash b (h.plan b).optimize).2.fetch_executed provider query_hash b (by rwa [builders_cached])
      rw [same] at fetched
      exact {
        plans := fetched.plans.trans (plans_cached ..)
        clock := fetched.clock.trans (clock_cached ..)
        reads := Nat.le_trans (Nat.le_of_eq (reads_cached ..).symm) fetched.reads
        next := by rw [fetched.next, builders_cached]
        others := fun r other => by rw [fetched.others r other, builders_cached]
        builder := by simpa only [builders_cached] using fetched.builder
        raised := fun e error => by simpa only [get_elements, builders_cached, reads_cached] using fetched.raised e error
        source := fun results ok => (fetched.source results ok).after_cached
        caches := fun r k entry found => by
          rcases fetched.caches r k entry found with ⟨old, found', agree⟩ | set
          · obtain ⟨older, found'', agree'⟩ := cached_within query_hash found'
            exact Or.inl ⟨older, found'', agree.trans agree'⟩
          · rw [builders_cached, same, reads_cached] at set
            exact Or.inr set }

/-- The results depend on the builder, its plan, the caches, the clock and the
    number of the read. -/
theorem to_list_congr {h h' : Heap α κ} {b : Nat} (builder : h'.builders.read b = h.builders.read b)
    (plan : h'.plan b = h.plan b) (caches : h'.caches = h.caches) (clock : h'.clock = h.clock) (reads : h'.reads = h.reads) :
    (h'.to_list provider query_hash b).1 = (h.to_list provider query_hash b).1 := by
  have looked (p : QueryPlan α κ) : (h'.cached query_hash b p).1 = (h.cached query_hash b p).1 := by
    unfold cached
    split
    · rfl
    · simp [builder, caches, clock]
  unfold to_list
  cases executed : (h.builders.read b).executor.results with
  | some results => rw [h.execute_kept provider query_hash executed, h'.execute_kept provider query_hash (builder ▸ executed)]
  | none =>
    have executed' := (congrArg (fun builder => builder.executor.results) builder).trans executed
    cases hit : (h.cached query_hash b (h.plan b).optimize).1 with
    | some results =>
      have hit' := (looked (h.plan b).optimize).trans hit
      rw [execute_hit provider query_hash executed hit, execute_hit provider query_hash executed' (plan ▸ hit')]
    | none =>
      have miss := (looked (h.plan b).optimize).trans hit
      rw [execute_miss provider query_hash executed hit, execute_miss provider query_hash executed' (plan ▸ miss)]
      simp only [fetch_fst, get_elements, builders_cached, reads_cached, builder, plan, reads]

end

end Heap

end RevitPy
