import Mathlib.Logic.Function.Basic
import RevitPy.Dict
import RevitPy.ListEntries
import RevitPy.Runs

/-!
# Pooled resources

Calls that acquire, release and clean up go on side by side, and each access to the pool,
to a use count or to the statistics is a turn of its own. The dictionary holds a pooled
resource, but it does not dispose of what a new one replaces.
-/

namespace RevitPy.Host
open Runs

/-- An object of the pool, with its number among those that were made. The uses are counted beside. -/
structure PooledResource (ρ : Type) where
  number : Nat
  resource : ρ
  expiresAt : Int
  deriving DecidableEq

def PooledResource.isExpired {ρ : Type} (p : PooledResource ρ) (now : Int) : Bool := decide (p.expiresAt < now)

/-- Thirty minutes, in ticks of the clock. -/
def defaultExpiration : Int := 30 * 60 * 10000000

structure ResourceManagerStats where
  totalResourcesCreated : Nat := 0
  totalResourcesDestroyed : Nat := 0
  currentResourcesInUse : Int := 0
  peakResourceUsage : Int := 0
  resourcePoolHits : Nat := 0
  resourcePoolMisses : Nat := 0

/-- Where a call stands. -/
inductive Operation (ρ : Type)
  -- `AcquireResourceAsync`; the test is that of the type parameter
  | waiting (resourceKey : String) (isT : ρ → Bool)
  | lookingUp (resourceKey : String) (isT : ρ → Bool)
  | found (resourceKey : String) (isT : ρ → Bool) (pooledResource : PooledResource ρ)
  | countingUse (pooledResource : PooledResource ρ) (useCount : Int32)
  | hit
  | creating (resourceKey : String)
  | adding (resourceKey : String) (newPooledResource : PooledResource ρ)
  | added
  | leaving
  -- `ReleaseResourceAsync`
  | releasing (resourceKey : String) (forceDispose : Bool)
  | deciding (resourceKey : String) (forceDispose : Bool) (pooledResource : PooledResource ρ)
  | removing (resourceKey : String) (pooledResource : PooledResource ρ)
  -- `CleanupExpiredResourcesAsync`
  | collecting (disposeAll : Bool) (expiredKeys : List String)
  | cleaning (expiredKeys : List String)
  -- what a release and a cleanup do with what they removed, with the keys that are left then
  | disposing (resourceKey : String) (pooledResource : PooledResource ρ) (expiredKeys : List String)
  | destroyed (expiredKeys : List String)
  | ended

inductive Call (ρ : Type)
  | acquireResource (resourceKey : String) (isT : ρ → Bool)
  | releaseResource (resourceKey : String) (forceDispose : Bool)
  | cleanupExpiredResources (disposeAll : Bool)

def Call.start {ρ : Type} : Call ρ → Operation ρ
  | .acquireResource resourceKey isT => .waiting resourceKey isT
  | .releaseResource resourceKey forceDispose => .releasing resourceKey forceDispose
  | .cleanupExpiredResources disposeAll => .collecting disposeAll []

/-- What a turn meets, as far as it looks: the time, whether the wait is cancelled, what the factory returns unless
    it throws, whether the call of `Dispose` throws, and the key the enumeration visits unless it is at its end.
    An enumeration takes no snapshot, so any key may be the next. -/
structure Circumstances (ρ : Type) where
  now : Int := 0
  cancelled : Bool := false
  resource : Option ρ := none
  disposeThrows : Bool := false
  visited : Option String := none

inductive Turn (ρ : Type)
  | call (c : Call ρ)
  | go (operation : Nat) (met : Circumstances ρ)

structure ResourceManager (ρ : Type) where
  connectionPool : Dict String (PooledResource ρ) := ∅
  useCounts : Nat → Int32 := fun _ => 1
  stats : ResourceManagerStats := {}
  /-- The free places. -/
  maxConcurrentOperations : Nat
  operations : List (Operation ρ) := []
  /-- What the factories returned, with the key it was for. -/
  produced : List (String × ρ) := []
  /-- What was disposed of, with the key it was removed under. -/
  disposed : List (String × ρ) := []

namespace ResourceManager

variable {ρ : Type} (disposable : ρ → Bool)

/-- One turn of a call. -/
def advance (m : ResourceManager ρ) (met : Circumstances ρ) : Operation ρ → ResourceManager ρ × Operation ρ
  | .waiting resourceKey isT =>
    if met.cancelled then (m, .ended)
    else if m.maxConcurrentOperations = 0 then (m, .waiting resourceKey isT)
    else ({ m with maxConcurrentOperations := m.maxConcurrentOperations - 1 }, .lookingUp resourceKey isT)
  | .lookingUp resourceKey isT => match m.connectionPool.get? resourceKey with
    | some pooledResource => (m, .found resourceKey isT pooledResource)
    | none => (m, .creating resourceKey)
  | .found resourceKey isT pooledResource =>
    if isT pooledResource.resource && !pooledResource.isExpired met.now then
      (m, .countingUse pooledResource (m.useCounts pooledResource.number))
    else (m, .creating resourceKey)
  | .countingUse pooledResource useCount =>
    ({ m with useCounts := Function.update m.useCounts pooledResource.number (useCount + 1) }, .hit)
  | .hit => ({ m with stats := { m.stats with resourcePoolHits := m.stats.resourcePoolHits + 1 } }, .leaving)
  | .creating resourceKey => match met.resource with
    | none => (m, .leaving)
    | some resource =>
      ({ m with produced := m.produced ++ [(resourceKey, resource)] },
        .adding resourceKey { number := m.produced.length, resource, expiresAt := met.now + defaultExpiration })
  | .adding resourceKey newPooledResource =>
    ({ m with connectionPool := m.connectionPool.set resourceKey newPooledResource }, .added)
  | .added =>
    let current := m.stats.currentResourcesInUse + 1
    ({ m with stats := { m.stats with
        totalResourcesCreated := m.stats.totalResourcesCreated + 1
        currentResourcesInUse := current
        resourcePoolMisses := m.stats.resourcePoolMisses + 1
        peakResourceUsage := if current > m.stats.peakResourceUsage then current else m.stats.peakResourceUsage } },
      .leaving)
  | .leaving => ({ m with maxConcurrentOperations := m.maxConcurrentOperations + 1 }, .ended)
  | .releasing resourceKey forceDispose => match m.connectionPool.get? resourceKey with
    | some pooledResource => (m, .deciding resourceKey forceDispose pooledResource)
    | none => (m, .ended)
  | .deciding resourceKey forceDispose pooledResource =>
    if forceDispose || pooledResource.isExpired met.now || 1000 < m.useCounts pooledResource.number then
      (m, .removing resourceKey pooledResource)
    else (m, .ended)
  | .removing resourceKey pooledResource =>
    -- disposes of what was looked up, whatever is removed
    ({ m with connectionPool := m.connectionPool.erase resourceKey }, .disposing resourceKey pooledResource [])
  | .collecting disposeAll expiredKeys => match met.visited with
    | none => (m, .cleaning expiredKeys)
    | some key => match m.connectionPool.get? key with
      | some pooledResource =>
        (m, .collecting disposeAll (if disposeAll || pooledResource.isExpired met.now then expiredKeys ++ [key] else expiredKeys))
      | none => (m, .collecting disposeAll expiredKeys)
  | .cleaning [] => (m, .ended)
  | .cleaning (key :: expiredKeys) => match m.connectionPool.get? key with
    | some pooledResource =>
      ({ m with connectionPool := m.connectionPool.erase key }, .disposing key pooledResource expiredKeys)
    | none => (m, .cleaning expiredKeys)
  | .disposing resourceKey pooledResource expiredKeys =>
    if !disposable pooledResource.resource then (m, .destroyed expiredKeys)
    -- the exception ends the call
    else if met.disposeThrows then (m, .ended)
    else ({ m with disposed := m.disposed ++ [(resourceKey, pooledResource.resource)] }, .destroyed expiredKeys)
  | .destroyed expiredKeys =>
    ({ m with stats := { m.stats with
        totalResourcesDestroyed := m.stats.totalResourcesDestroyed + 1
        currentResourcesInUse := m.stats.currentResourcesInUse - 1 } },
      .cleaning expiredKeys)
  | .ended => (m, .ended)

def step (m : ResourceManager ρ) : Turn ρ → ResourceManager ρ
  | .call c => { m with operations := m.operations ++ [c.start] }
  | .go operation met => match m.operations[operation]? with
    | none => m
    | some phase =>
      let (after, next) := m.advance disposable met phase
      { after with operations := m.operations.set operation next }

def start (maxConcurrentOperations : Nat) : ResourceManager ρ := { maxConcurrentOperations }

/-- The resource that is stored under a key. -/
def stored (m : ResourceManager ρ) (key : String) : Option ρ := (m.connectionPool.get? key).map (·.resource)

/-- No call is in progress. -/
def Quiescent (m : ResourceManager ρ) : Prop := ∀ phase ∈ m.operations, phase = .ended

/-- A disposable resource is stored under its key or was disposed of once, and the count is that of the pool. -/
structure NoLeaks [DecidableEq ρ] (m : ResourceManager ρ) : Prop where
  resources : ∀ key resource, (key, resource) ∈ m.produced → disposable resource = true →
    (m.stored key = some resource ∧ (m.disposed.map Prod.snd).count resource = 0) ∨
      (m.stored key ≠ some resource ∧ (m.disposed.map Prod.snd).count resource = 1)
  counted : m.stats.currentResourcesInUse = m.connectionPool.length

/-- A factory returns a new resource, a resource is added where none is stored, a release removes what it looked up,
    and `Dispose` does not throw. -/
def Careful (m : ResourceManager ρ) : Turn ρ → Prop
  | .call _ => True
  | .go operation met => match m.operations[operation]? with
    | some (.creating _) => ∀ resource ∈ met.resource, disposable resource = true → resource ∉ m.produced.map Prod.snd
    | some (.adding resourceKey _) => m.connectionPool.get? resourceKey = none
    | some (.removing resourceKey pooledResource) => m.connectionPool.get? resourceKey = some pooledResource
    | some (.disposing _ pooledResource _) => disposable pooledResource.resource = true → met.disposeThrows = false
    | _ => True

end ResourceManager

end RevitPy.Host
