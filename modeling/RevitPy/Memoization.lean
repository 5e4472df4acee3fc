import Mathlib
import RevitPy.AdaptiveCache
import RevitPy.CacheKeys
import RevitPy.QueryPlan

/-!
# Memoized functions

The functions that are decorated with `cached_operation()` share the cache of their
optimizer, in which a call is told apart by the bare name of the function and the hash
of the arguments. The decoration goes unnoticed exactly where no other call of that name
and hash would have returned something else.
-/

namespace RevitPy.Performance

/-- The arguments of a call, keyword arguments in the order in which they are passed. -/
structure Arguments (ν : Type) where
  args : List ν := []
  kwargs : Dict String ν := ∅

/-- A call of a decorated function, with what the clock reads when the cache is looked
    up and when the result is stored. -/
structure Call (ι ν : Type) where
  function : ι
  arguments : Arguments ν
  looked_up : Int := 0
  stored : Int := 0

structure PerformanceOptimizer (ω : Type) where
  cache : AdaptiveCache ω := .init
  cache_hits : Nat := 0
  cache_misses : Nat := 0

section
variable {ι ν ω ε : Type} (config : OptimizationConfig) (name : ι → String) (hash : List ν × List (String × ν) → Int)
  (func : ι → Arguments ν → Except ε (Object ω))

/-- The hash of the arguments and the sorted keyword arguments. -/
def digest (arguments : Arguments ν) : Int := hash (arguments.args, sorted Prod.fst false arguments.kwargs.entries)

/-- The generated cache key. -/
def cache_key (i : ι) (arguments : Arguments ν) : String := name i ++ ":" ++ toString (digest hash arguments)

/-- A call of a function that is decorated with `cached_operation()`. -/
def wrapper (call : Call ι ν) (o : PerformanceOptimizer ω) : Except ε (Object ω) × PerformanceOptimizer ω :=
  let key := cache_key name hash call.function call.arguments
  let (result, cache) := o.cache.get config key .none call.looked_up
  if !result.is_none then (.ok result, { o with cache := cache, cache_hits := o.cache_hits + 1 })
  else match func call.function call.arguments with
    | .error e => (.error e, { o with cache := cache })
    | .ok result =>
      let (stored, cache) := cache.set config key result call.stored
      (.ok result, { o with cache := cache, cache_misses := if stored then o.cache_misses + 1 else o.cache_misses })

/-- What the calls return or raise, one after the other. -/
def run : List (Call ι ν) → PerformanceOptimizer ω → List (Except ε (Object ω))
  | [], _ => []
  | call :: calls, o => (wrapper config name hash func call o).1 :: run calls (wrapper config name hash func call o).2

/-- Every call returns what the undecorated function does. -/
def Transparent : Prop :=
  ∀ calls : List (Call ι ν), run config name hash func calls {} = calls.map fun call => func call.function call.arguments

/-- Where a call has a result that can be stored and is not `None`, every call with the
    same name and hash has this result. -/
def Determined : Prop :=
  ∀ i arguments j arguments', name i = name j → digest hash arguments = digest hash arguments' →
    ∀ result, func i arguments = .ok result → result.is_none = false → AdaptiveCache.Storable config result → func j arguments' = .ok result

end

/-! ## Keys -/

/-- A text is split at its last colon in one way. -/
theorem append_colon_inj {before after before' after' : List Char} (last : ':' ∉ after) (last' : ':' ∉ after')
    (same : before ++ ':' :: after = before' ++ ':' :: after') : before = before' ∧ after = after' := by
  rcases List.append_eq_append_iff.mp same with ⟨between, rfl, rest⟩ | ⟨between, rfl, rest⟩
  · cases between with
    | nil => exact ⟨(List.append_nil _).symm, (List.cons.inj rest).2⟩
    | cons c between =>
      obtain ⟨-, split⟩ := List.cons.inj rest
      exact absurd (split ▸ List.mem_append_right _ List.mem_cons_self) last
  · cases between with
    | nil => exact ⟨List.append_nil _, (List.cons.inj rest).2.symm⟩
    | cons c between =>
      obtain ⟨-, split⟩ := List.cons.inj rest
      exact absurd (split ▸ List.mem_append_right _ List.mem_cons_self) last'

variable {ι ν ω ε : Type} {config : OptimizationConfig} {name : ι → String} {hash : List ν × List (String × ν) → Int}
  {func : ι → Arguments ν → Except ε (Object ω)}

/-- Two calls share a key exactly where they share a name and a hash. -/
theorem cache_key_eq_iff {i j : ι} {arguments arguments' : Arguments ν} :
    cache_key name hash i arguments = cache_key name hash j arguments' ↔ name i = name j ∧
      digest hash arguments = digest hash arguments' := by
  constructor
  · intro same
    have shape (n : String) (h : Int) : (n ++ ":" ++ toString h).toList = n.toList ++ ':' :: (toString h).toList := by
      simp [String.toList_append]
    have texts := congrArg String.toList same
    rw [cache_key, cache_key, shape, shape] at texts
    obtain ⟨names, hashes⟩ := append_colon_inj (not_mem_toString (by decide) (by decide) _) (not_mem_toString (by decide) (by decide) _) texts
    exact ⟨String.toList_injective names, Int.repr_injective (String.toList_injective hashes)⟩
  · rintro ⟨names, hashes⟩
    rw [cache_key, cache_key, names, hashes]

/-! ## Calls -/

/-- Every stored value is what some call under its key returns, and has fitted. -/
structure Sourced (config : OptimizationConfig) (name : ι → String) (hash : List ν × List (String × ν) → Int)
    (func : ι → Arguments ν → Except ε (Object ω)) (c : AdaptiveCache ω) : Prop where
  accounted : c.Accounted
  source : ∀ k v, c.cache.get? k = some v →
    ∃ i arguments, cache_key name hash i arguments = k ∧ func i arguments = .ok v ∧ AdaptiveCache.Storable config v

theorem sourced_init : Sourced config name hash func .init := ⟨AdaptiveCache.accounted_init, fun _ _ found => by cases found⟩

theorem Sourced.get {c : AdaptiveCache ω} (sourced : Sourced config name hash func c) (key : String) (now : Int) :
    Sourced config name hash func (c.get config key .none now).2 :=
  ⟨AdaptiveCache.accounted_get sourced.accounted key .none now, fun k v found => sourced.source k v (AdaptiveCache.get?_of_get found)⟩

theorem Sourced.set {c : AdaptiveCache ω} (sourced : Sourced config name hash func c) {i : ι} {arguments : Arguments ν} {result : Object ω}
    (returned : func i arguments = .ok result) (now : Int) :
    Sourced config name hash func (c.set config (cache_key name hash i arguments) result now).2 := by
  obtain ⟨accounted, within⟩ : (c.set config (cache_key name hash i arguments) result now).2.Accounted ∧ _ :=
    AdaptiveCache.set_spec sourced.accounted (cache_key name hash i arguments) result now
  refine ⟨accounted, fun k v found => ?_⟩
  rcases within k v found with old | ⟨rfl, rfl, storable⟩
  · exact sourced.source k v old
  · exact ⟨i, arguments, rfl, returned, storable⟩

/-- One call returns what the undecorated function does, and leaves values with a source. -/
theorem Sourced.wrapper {o : PerformanceOptimizer ω} (sourced : Sourced config name hash func o.cache)
    (determined : Determined config name hash func) (call : Call ι ν) :
    (wrapper config name hash func call o).1 = func call.function call.arguments ∧
      Sourced config name hash func (wrapper config name hash func call o).2.cache := by
  have looked := sourced.get (cache_key name hash call.function call.arguments) call.looked_up
  unfold Performance.wrapper
  simp only
  split
  · next hit =>
    rw [Bool.not_eq_true'] at hit
    obtain ⟨i, arguments, same, returned, storable⟩ := sourced.source _ _ (AdaptiveCache.get?_of_hit rfl hit)
    obtain ⟨names, hashes⟩ := cache_key_eq_iff.mp same
    exact ⟨(determined i arguments call.function call.arguments names hashes _ returned hit storable).symm, looked⟩
  · split
    · next e raised => exact ⟨raised.symm, looked⟩
    · next result returned => exact ⟨returned.symm, looked.set returned call.stored⟩

theorem Sourced.run (determined : Determined config name hash func) (calls : List (Call ι ν)) {o : PerformanceOptimizer ω}
    (sourced : Sourced config name hash func o.cache) :
    run config name hash func calls o = calls.map fun call => func call.function call.arguments := by
  induction calls generalizing o with
  | nil => rfl
  | cons call calls ih =>
    obtain ⟨same, kept⟩ := sourced.wrapper determined call
    rw [Performance.run, List.map_cons, same, ih kept]

/-- The first call of all asks the function, and stores what there is room for. -/
theorem wrapper_first {i : ι} {arguments : Arguments ν} {result : Object ω} (returned : func i arguments = .ok result)
    (storable : AdaptiveCache.Storable config result) :
    (wrapper config name hash func ⟨i, arguments, 0, 0⟩ {}).2.cache =
      (AdaptiveCache.init : AdaptiveCache ω).add (cache_key name hash i arguments) result 0 := by
  have missed : (AdaptiveCache.init : AdaptiveCache ω).get config (cache_key name hash i arguments) .none 0 = (.none, .init) := rfl
  rw [← AdaptiveCache.set_init storable, wrapper]
  simp only [missed, returned]
  rfl

/-- The cache goes unnoticed exactly where the name and the hash of a call determine
    its result. -/
theorem transparent_iff (config : OptimizationConfig) (name : ι → String) (hash : List ν × List (String × ν) → Int)
    (func : ι → Arguments ν → Except ε (Object ω)) : Transparent config name hash func ↔ Determined config name hash func := by
  constructor
  · intro transparent i arguments j arguments' names hashes result returned proper storable
    -- The second call comes when the first result is as old as it may get.
    have outcomes := transparent [⟨i, arguments, 0, 0⟩, ⟨j, arguments', config.cache_ttl_seconds, 0⟩]
    have second : (wrapper config name hash func ⟨j, arguments', config.cache_ttl_seconds, 0⟩
        (wrapper config name hash func ⟨i, arguments, 0, 0⟩ {}).2).1 = func j arguments' :=
      (List.cons.inj (List.cons.inj outcomes).2).1
    have young : config.cache_ttl_seconds - 0 ≤ config.cache_ttl_seconds := Int.le_of_eq (Int.sub_zero _)
    have read := AdaptiveCache.get_add .init (cache_key name hash i arguments) result .none young
    rw [wrapper, wrapper_first returned storable, ← cache_key_eq_iff.mpr ⟨names, hashes⟩] at second
    simp only [read, proper] at second
    exact second.symm
  · intro determined calls
    exact sourced_init.run determined calls

/-- Two functions of one name, such as two lambdas, share what the first call returns. -/
theorem lambdas_share :
    ¬∀ (config : OptimizationConfig) (name : Bool → String) (hash : List Nat × List (String × Nat) → Int)
        (func : Bool → Arguments Nat → Except Empty (Object Nat)), Transparent config name hash func := by
  intro transparent
  let func : Bool → Arguments Nat → Except Empty (Object Nat) := fun i _ => .ok (.str (if i then "wall" else "door"))
  have outcomes := transparent {} (fun _ => "<lambda>") (fun _ => 0) func [⟨true, {}, 0, 0⟩, ⟨false, {}, 1, 1⟩]
  have returned : run {} (fun _ => "<lambda>") (fun _ => 0) func [⟨true, {}, 0, 0⟩, ⟨false, {}, 1, 1⟩] {} =
      [.ok (.str "wall"), .ok (.str "wall")] := by rfl
  rw [returned] at outcomes
  have second : Except.ok (.str "wall") = func false {} := (List.cons.inj (List.cons.inj outcomes).2).1
  exact absurd (Object.str.inj (Except.ok.inj second)) (by decide)

end RevitPy.Performance
