import RevitPy.Dict

/-!
# Computations that are cached

A call of `GetOrComputeAsync` that misses the cache gets the semaphore of its key, waits for
it, looks again, and computes. `OptimizeMemoryAsync` removes the expired entries and then the
semaphores of the keys without an entry. Times are ticks. Everything between two awaits
happens at once, and a call may also be interrupted before it begins to wait.
-/

namespace RevitPy.Bridge

inductive ComputeException
  | argument | computeFunc | operationCanceled | objectDisposed | invalidCast | argumentOutOfRange | semaphoreFull

structure CacheEntry (ν : Type) where
  value : ν
  expirationTime : Int

def CacheEntry.isExpired {ν : Type} (entry : CacheEntry ν) (utcNow : Int) : Bool := decide (utcNow > entry.expirationTime)

structure SemaphoreSlim where
  currentCount : Nat := 1
  isDisposed : Bool := false

/-- Where a call stands, and the semaphore it got. -/
inductive CallPhase (ν : Type)
  | obtained (semaphore : Nat)
  | waiting (semaphore : Nat)
  | computing (semaphore : Nat)
  | ended (result : Except ComputeException ν)

structure ComputeCall (τ ν : Type) where
  cacheKey : String
  resultType : τ
  expiration : Option Int
  phase : CallPhase ν

structure PerformanceOptimizer (τ ν : Type) where
  computationCache : Dict String (CacheEntry ν) := ∅
  /-- From the key to the place of its semaphore. -/
  computationSemaphores : Dict String Nat := ∅
  /-- All semaphores that were made. -/
  semaphores : List SemaphoreSlim := []
  calls : List (ComputeCall τ ν) := []

namespace PerformanceOptimizer
variable {τ ν : Type}

/-- Ten minutes. -/
def defaultCacheExpiration : Int := 6000000000

/-- `DateTime.Add`, which raises beyond the range of a `DateTime`. -/
def addTime (utcNow span : Int) : Option Int :=
  if 0 ≤ utcNow + span ∧ utcNow + span ≤ 3155378975999999999 then some (utcNow + span) else none

section
variable (s : PerformanceOptimizer τ ν)

/-- The entry of a key, where it is not expired. -/
def lookup (cacheKey : String) (utcNow : Int) : Option ν := match s.computationCache.get? cacheKey with
  | none => none
  | some entry => if entry.isExpired utcNow then none else some entry.value

def setPhase (call : Nat) (phase : CallPhase ν) : PerformanceOptimizer τ ν :=
  { s with calls := s.calls.modify call fun c => { c with phase } }

/-- The call ends with a result, after it has released its semaphore. -/
def release (call semaphore : Nat) (result : Except ComputeException ν) : PerformanceOptimizer τ ν := match s.semaphores[semaphore]? with
  | none => s
  | some { currentCount, isDisposed } =>
    if isDisposed then s.setPhase call (.ended (.error .objectDisposed))
    else if 1 ≤ currentCount then s.setPhase call (.ended (.error .semaphoreFull))
    else { s.setPhase call (.ended result) with
      semaphores := s.semaphores.modify semaphore fun x => { x with currentCount := x.currentCount + 1 } }

def waitAsync (call : Nat) : PerformanceOptimizer τ ν := match s.calls[call]? with
  | some { phase := .obtained semaphore, .. } =>
    if s.semaphores[semaphore]?.any SemaphoreSlim.isDisposed then s.setPhase call (.ended (.error .objectDisposed))
    else s.setPhase call (.waiting semaphore)
  | _ => s

/-- The token of a call is cancelled while it waits. -/
def cancel (call : Nat) : PerformanceOptimizer τ ν := match s.calls[call]? with
  | some { phase := .waiting _, .. } => s.setPhase call (.ended (.error .operationCanceled))
  | _ => s

/-- `computeFunc` returns a value or raises. -/
def computeEnds (call : Nat) (outcome : Option ν) (utcNow : Int) : PerformanceOptimizer τ ν := match s.calls[call]? with
  | some { cacheKey, expiration, phase := .computing semaphore, .. } => match outcome with
    | none => s.release call semaphore (.error .computeFunc)
    | some value => match addTime utcNow (expiration.getD defaultCacheExpiration) with
      | none => s.release call semaphore (.error .argumentOutOfRange)
      | some expirationTime =>
        { s with computationCache := s.computationCache.set cacheKey { value, expirationTime } }.release call semaphore (.ok value)
  | _ => s

def removeEntry (cacheKey : String) : PerformanceOptimizer τ ν :=
  { s with computationCache := s.computationCache.erase cacheKey }

def removeSemaphore (cacheKey : String) : PerformanceOptimizer τ ν := match s.computationSemaphores.get? cacheKey with
  | none => s
  | some semaphore => { s with
    computationSemaphores := s.computationSemaphores.erase cacheKey
    semaphores := s.semaphores.modify semaphore fun x => { x with isDisposed := true } }

def optimizeMemoryAsync (utcNow : Int) : PerformanceOptimizer τ ν :=
  let expiredKeys := (s.computationCache.entries.filter fun entry => entry.2.isExpired utcNow).map Prod.fst
  let s := expiredKeys.foldl removeEntry s
  let unusedSemaphores := s.computationSemaphores.keys.filter fun cacheKey => !s.computationCache.contains cacheKey
  unusedSemaphores.foldl removeSemaphore s

end

section
variable (fits : τ → ν → Bool) (s : PerformanceOptimizer τ ν)

/-- A cached value as the call's type of result. -/
def castTo (resultType : τ) (value : ν) : Except ComputeException ν := if fits resultType value then .ok value else .error .invalidCast

def getOrComputeAsync (cacheKey : String) (resultType : τ) (expiration : Option Int) (utcNow : Int) : PerformanceOptimizer τ ν :=
  if cacheKey = "" then { s with calls := s.calls ++ [{ cacheKey, resultType, expiration, phase := .ended (.error .argument) }] }
  else match s.lookup cacheKey utcNow with
    | some value => { s with calls := s.calls ++ [{ cacheKey, resultType, expiration, phase := .ended (castTo fits resultType value) }] }
    | none => match s.computationSemaphores.get? cacheKey with
      | some semaphore => { s with calls := s.calls ++ [{ cacheKey, resultType, expiration, phase := .obtained semaphore }] }
      | none => { s with
        computationSemaphores := s.computationSemaphores.set cacheKey s.semaphores.length
        semaphores := s.semaphores ++ [({} : SemaphoreSlim)]
        calls := s.calls ++ [{ cacheKey, resultType, expiration, phase := .obtained s.semaphores.length }] }

/-- A call that waits gets the semaphore and looks into the cache again. A permit that was granted
    before the semaphore was disposed is still the call's. -/
def acquire (call : Nat) (utcNow : Int) : PerformanceOptimizer τ ν := match s.calls[call]? with
  | some { cacheKey, resultType, phase := .waiting semaphore, .. } =>
    if s.semaphores[semaphore]?.any fun x => 1 ≤ x.currentCount then
      let s := { s.setPhase call (.computing semaphore) with
        semaphores := s.semaphores.modify semaphore fun x => { x with currentCount := x.currentCount - 1 } }
      match s.lookup cacheKey utcNow with
      | some value => s.release call semaphore (castTo fits resultType value)
      | none => s
    else s
  | _ => s

inductive OptimizerEvent (τ ν : Type)
  | getOrComputeAsync (cacheKey : String) (resultType : τ) (expiration : Option Int) (utcNow : Int)
  | waitAsync (call : Nat)
  | cancel (call : Nat)
  | acquire (call : Nat) (utcNow : Int)
  | computeEnds (call : Nat) (outcome : Option ν) (utcNow : Int)
  | optimizeMemoryAsync (utcNow : Int)

def step : OptimizerEvent τ ν → PerformanceOptimizer τ ν
  | .getOrComputeAsync cacheKey resultType expiration utcNow => s.getOrComputeAsync fits cacheKey resultType expiration utcNow
  | .waitAsync call => s.waitAsync call
  | .cancel call => s.cancel call
  | .acquire call utcNow => s.acquire fits call utcNow
  | .computeEnds call outcome utcNow => s.computeEnds call outcome utcNow
  | .optimizeMemoryAsync utcNow => s.optimizeMemoryAsync utcNow

end
end PerformanceOptimizer
end RevitPy.Bridge
