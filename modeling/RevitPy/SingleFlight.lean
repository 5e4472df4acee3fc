import RevitPy.PerformanceOptimizer
import RevitPy.Runs

/-!
# One computation a key

The semaphore of a key is held by the call that computes it, as long as it stays registered
while a call has it. The cleanup of memory looks only at the cache.
-/

namespace RevitPy.Bridge
open Runs
variable {τ ν : Type}

/-- The semaphore that a call got and has not given up. -/
def CallPhase.semaphore? : CallPhase ν → Option Nat
  | .obtained semaphore | .waiting semaphore | .computing semaphore => some semaphore
  | .ended _ => none

/-- A call that fails, fails with the exception of its computation or of its token. -/
def CallPhase.IsOwn (phase : CallPhase ν) : Prop := ∀ e : ComputeException, phase = .ended (.error e) → e = .computeFunc ∨ e = .operationCanceled

namespace PerformanceOptimizer

/-- No two calls compute the same key. -/
def SingleFlight (s : PerformanceOptimizer τ ν) : Prop :=
  ∀ (i j : Nat) (c d : ComputeCall τ ν) (x y : Nat), s.calls[i]? = some c → s.calls[j]? = some d →
    c.phase = .computing x → d.phase = .computing y → c.cacheKey = d.cacheKey → i = j

def OwnFailures (s : PerformanceOptimizer τ ν) : Prop := ∀ c ∈ s.calls, c.phase.IsOwn

variable (fits : τ → ν → Bool) (s : PerformanceOptimizer τ ν)

/-- What an unexpired entry of the key holds is of the call's type. -/
def HitFits (cacheKey : String) (resultType : τ) (utcNow : Int) : Prop := ∀ value, s.lookup cacheKey utcNow = some value → fits resultType value = true

/-- What must hold when an event happens. -/
def Undisturbed : OptimizerEvent τ ν → Prop
  | .getOrComputeAsync cacheKey resultType _ utcNow => cacheKey ≠ "" ∧ s.HitFits fits cacheKey resultType utcNow
  | .acquire call utcNow => ∀ c x, s.calls[call]? = some c → c.phase = .waiting x → s.HitFits fits c.cacheKey c.resultType utcNow
  | .computeEnds call outcome utcNow => outcome.isSome = true → ∀ c x, s.calls[call]? = some c → c.phase = .computing x →
      (addTime utcNow (c.expiration.getD defaultCacheExpiration)).isSome = true
  | .optimizeMemoryAsync utcNow => ∀ c ∈ s.calls, c.phase.semaphore?.isSome = true → (s.lookup c.cacheKey utcNow).isSome = true
  | .waitAsync _ | .cancel _ => True

structure Orderly : Prop where
  tracked : ∀ (i : Nat) (c : ComputeCall τ ν) (x : Nat), s.calls[i]? = some c → c.phase.semaphore? = some x →
    s.computationSemaphores.get? c.cacheKey = some x
  live : ∀ (k : String) (x : Nat), s.computationSemaphores.get? k = some x →
    ∃ semaphore, s.semaphores[x]? = some semaphore ∧ semaphore.isDisposed = false ∧ semaphore.currentCount ≤ 1
  apart : ∀ (k j : String) (x : Nat), s.computationSemaphores.get? k = some x → s.computationSemaphores.get? j = some x → k = j
  alone : ∀ (i j : Nat) (c d : ComputeCall τ ν) (x : Nat), s.calls[i]? = some c → s.calls[j]? = some d →
    c.phase = .computing x → d.phase = .computing x → i = j
  held : ∀ (i : Nat) (c : ComputeCall τ ν) (x : Nat) (semaphore : SemaphoreSlim), s.calls[i]? = some c → c.phase = .computing x →
    s.semaphores[x]? = some semaphore → semaphore.currentCount = 0
  own : s.OwnFailures

variable {fits s} {t : PerformanceOptimizer τ ν}

theorem singleFlight_of_orderly (inv : s.Orderly) : s.SingleFlight := by
  intro i j c d x y first second first_computing second_computing same
  have first_has := inv.tracked i c x first (by rw [first_computing]; rfl)
  have second_has := inv.tracked j d y second (by rw [second_computing]; rfl)
  rw [same, second_has] at first_has
  obtain rfl := Option.some.inj first_has
  exact inv.alone i j c d y first second first_computing second_computing

/-! ## What the parts of a step keep -/

/-- The cache does not matter. -/
theorem orderly_of_eq (inv : s.Orderly) (calls : t.calls = s.calls) (registered : t.computationSemaphores = s.computationSemaphores)
    (semaphores : t.semaphores = s.semaphores) : t.Orderly where
  tracked := calls ▸ registered ▸ inv.tracked
  live := registered ▸ semaphores ▸ inv.live
  apart := registered ▸ inv.apart
  alone := calls ▸ inv.alone
  held := calls ▸ semaphores ▸ inv.held
  own := fun c there => inv.own c (calls ▸ there)

/-- A new call, which is at its end or has the semaphore of its key. -/
theorem orderly_append (inv : s.Orderly) {c : ComputeCall τ ν} (own : c.phase.IsOwn) (idle : ∀ x, c.phase ≠ .computing x)
    (tracked : ∀ x, c.phase.semaphore? = some x → s.computationSemaphores.get? c.cacheKey = some x) :
    Orderly { s with calls := s.calls ++ [c] } := by
  have known {i : Nat} {d : ComputeCall τ ν} (found : (s.calls ++ [c])[i]? = some d) : s.calls[i]? = some d ∨ d = c := by
    rw [List.getElem?_append] at found
    split at found
    · exact Or.inl found
    · exact Or.inr (List.mem_singleton.mp (List.mem_of_getElem? found))
  refine ⟨?_, inv.live, inv.apart, ?_, ?_, ?_⟩
  · intro i d x found has
    rcases known found with old | rfl
    · exact inv.tracked i d x old has
    · exact tracked x has
  · intro i j d e x first second first_computing second_computing
    rcases known first with first_old | rfl
    · rcases known second with second_old | rfl
      · exact inv.alone i j d e x first_old second_old first_computing second_computing
      · exact absurd second_computing (idle x)
    · exact absurd first_computing (idle x)
  · intro i d x semaphore found computing there
    rcases known found with old | rfl
    · exact inv.held i d x semaphore old computing there
    · exact absurd computing (idle x)
  · intro d there e failed
    rcases List.mem_append.mp there with old | new
    · exact inv.own d old e failed
    · exact own e (List.mem_singleton.mp new ▸ failed)

/-- What is known of a call after the phase of one call was set. -/
theorem calls_setPhase {call i : Nat} {phase : CallPhase ν} {c : ComputeCall τ ν} (found : (s.setPhase call phase).calls[i]? = some c) :
    ∃ d, s.calls[i]? = some d ∧ c.cacheKey = d.cacheKey ∧ (i = call ∧ c.phase = phase ∨ i ≠ call ∧ c = d) := by
  simp only [setPhase, List.getElem?_modify] at found
  obtain ⟨d, there, rfl⟩ := Option.map_eq_some_iff.mp found
  refine ⟨d, there, ?_⟩
  by_cases same : call = i
  · simp [same]
  · simp [same, Ne.symm same]

/-- A call moves on without computing. -/
theorem orderly_setPhase (inv : s.Orderly) {call : Nat} {phase : CallPhase ν} (own : phase.IsOwn) (idle : ∀ x, phase ≠ .computing x)
    (tracked : ∀ c x, s.calls[call]? = some c → phase.semaphore? = some x → c.phase.semaphore? = some x) : (s.setPhase call phase).Orderly := by
  refine ⟨?_, inv.live, inv.apart, ?_, ?_, ?_⟩
  · intro i c x found has
    obtain ⟨d, there, key, ⟨rfl, set⟩ | ⟨_, rfl⟩⟩ := calls_setPhase found
    · exact key ▸ inv.tracked i d x there (tracked d x there (set ▸ has))
    · exact inv.tracked i c x there has
  · intro i j c d x first second first_computing second_computing
    obtain ⟨_, first_there, _, ⟨_, set⟩ | ⟨_, rfl⟩⟩ := calls_setPhase first
    · exact absurd (set.symm.trans first_computing) (idle x)
    · obtain ⟨_, second_there, _, ⟨_, set⟩ | ⟨_, rfl⟩⟩ := calls_setPhase second
      · exact absurd (set.symm.trans second_computing) (idle x)
      · exact inv.alone i j _ _ x first_there second_there first_computing second_computing
  · intro i c x semaphore found computing there
    obtain ⟨_, call_there, _, ⟨_, set⟩ | ⟨_, rfl⟩⟩ := calls_setPhase found
    · exact absurd (set.symm.trans computing) (idle x)
    · exact inv.held i c x semaphore call_there computing there
  · intro c there e failed
    obtain ⟨i, found⟩ := List.getElem?_of_mem there
    obtain ⟨_, call_there, _, ⟨_, set⟩ | ⟨_, rfl⟩⟩ := calls_setPhase found
    · exact own e (set.symm.trans failed)
    · exact inv.own c (List.mem_of_getElem? call_there) e failed

theorem mem_setPhase {call : Nat} {phase : CallPhase ν} (own : phase.IsOwn) (before : s.OwnFailures) : (s.setPhase call phase).OwnFailures := by
  intro c there e failed
  obtain ⟨i, found⟩ := List.getElem?_of_mem there
  obtain ⟨_, call_there, _, ⟨_, set⟩ | ⟨_, rfl⟩⟩ := calls_setPhase found
  · exact own e (set.symm.trans failed)
  · exact before c (List.mem_of_getElem? call_there) e failed

theorem semaphores_modify {x y : Nat} {f : SemaphoreSlim → SemaphoreSlim} {semaphore : SemaphoreSlim}
    (found : (s.semaphores.modify x f)[y]? = some semaphore) :
    ∃ before, s.semaphores[y]? = some before ∧ (y = x ∧ semaphore = f before ∨ y ≠ x ∧ semaphore = before) := by
  rw [List.getElem?_modify] at found
  obtain ⟨before, there, rfl⟩ := Option.map_eq_some_iff.mp found
  refine ⟨before, there, ?_⟩
  by_cases same : x = y
  · simp [same]
  · simp [same, Ne.symm same]

/-- The call that waits gets the permit. No call computed with it. -/
theorem orderly_acquired (inv : s.Orderly) {call x : Nat} {c : ComputeCall τ ν} {semaphore : SemaphoreSlim} (found : s.calls[call]? = some c)
    (waiting : c.phase = .waiting x) (there : s.semaphores[x]? = some semaphore) (free : 1 ≤ semaphore.currentCount) :
    Orderly { s.setPhase call (.computing x) with semaphores := s.semaphores.modify x fun y => { y with currentCount := y.currentCount - 1 } } := by
  have registered : s.computationSemaphores.get? c.cacheKey = some x := inv.tracked call c x found (by rw [waiting]; rfl)
  have unheld (i : Nat) (d : ComputeCall τ ν) (at_i : s.calls[i]? = some d) : d.phase ≠ .computing x := by
    intro computing
    have none_free := inv.held i d x semaphore at_i computing there
    omega
  refine ⟨?_, ?_, inv.apart, ?_, ?_, mem_setPhase (by simp [CallPhase.IsOwn]) inv.own⟩
  · intro i d y at_i has
    obtain ⟨before, before_at, key, ⟨rfl, set⟩ | ⟨_, rfl⟩⟩ := calls_setPhase at_i
    · obtain rfl := Option.some.inj (found.symm.trans before_at)
      rw [set] at has
      exact key ▸ Option.some.inj has ▸ registered
    · exact inv.tracked i d y before_at has
  · intro k y has
    obtain ⟨before, before_at, enabled, count⟩ := inv.live k y has
    by_cases same : x = y
    · exact ⟨{ before with currentCount := before.currentCount - 1 }, by simp [same, before_at], enabled, by simp; omega⟩
    · exact ⟨before, by simp [same, before_at], enabled, count⟩
  · intro i j d e y first second first_computing second_computing
    obtain ⟨_, first_at, _, ⟨rfl, first_set⟩ | ⟨_, rfl⟩⟩ := calls_setPhase first
    · obtain ⟨_, second_at, _, ⟨rfl, _⟩ | ⟨_, rfl⟩⟩ := calls_setPhase second
      · rfl
      · obtain rfl : x = y := CallPhase.computing.inj (first_set.symm.trans first_computing)
        exact absurd second_computing (unheld j _ second_at)
    · obtain ⟨_, second_at, _, ⟨rfl, second_set⟩ | ⟨_, rfl⟩⟩ := calls_setPhase second
      · obtain rfl : x = y := CallPhase.computing.inj (second_set.symm.trans second_computing)
        exact absurd first_computing (unheld i _ first_at)
      · exact inv.alone i j _ _ y first_at second_at first_computing second_computing
  · intro i d y after at_i computing after_at
    obtain ⟨before, before_at, ⟨rfl, rfl⟩ | ⟨other, rfl⟩⟩ := semaphores_modify after_at
    · obtain ⟨live, live_at, _, count⟩ := inv.live c.cacheKey y registered
      obtain rfl := Option.some.inj (live_at.symm.trans before_at)
      simp only
      omega
    · obtain ⟨_, call_at, _, ⟨_, set⟩ | ⟨_, rfl⟩⟩ := calls_setPhase at_i
      · exact absurd (CallPhase.computing.inj (set.symm.trans computing)).symm other
      · exact inv.held i d y after call_at computing before_at

/-- The call that computes ends and gives the permit back. -/
theorem orderly_release (inv : s.Orderly) {call x : Nat} {c : ComputeCall τ ν} {result : Except ComputeException ν}
    (found : s.calls[call]? = some c) (computing : c.phase = .computing x) (own : (CallPhase.ended result).IsOwn) :
    (s.release call x result).Orderly := by
  have registered : s.computationSemaphores.get? c.cacheKey = some x := inv.tracked call c x found (by rw [computing]; rfl)
  obtain ⟨semaphore, there, enabled, _⟩ := inv.live c.cacheKey x registered
  have none_free : semaphore.currentCount = 0 := inv.held call c x semaphore found computing there
  have released : s.release call x result = { s.setPhase call (.ended result) with
      semaphores := s.semaphores.modify x fun y => { y with currentCount := y.currentCount + 1 } } := by
    simp [release, there, enabled, none_free]
  rw [released]
  have ended : (s.setPhase call (.ended result)).Orderly := orderly_setPhase inv own (by simp) (by simp [CallPhase.semaphore?])
  refine ⟨ended.tracked, ?_, inv.apart, ended.alone, ?_, ended.own⟩
  · intro k y has
    obtain ⟨before, before_at, before_enabled, count⟩ := inv.live k y has
    by_cases same : x = y
    · subst same
      obtain rfl := Option.some.inj (there.symm.trans before_at)
      exact ⟨{ semaphore with currentCount := semaphore.currentCount + 1 }, by simp [there], enabled, by simp [none_free]⟩
    · exact ⟨before, by simp [same, before_at], before_enabled, count⟩
  · intro i d y after at_i d_computing after_at
    obtain ⟨_, call_at, _, ⟨_, set⟩ | ⟨other, rfl⟩⟩ := calls_setPhase at_i
    · exact absurd (set.symm.trans d_computing) (by simp)
    · obtain ⟨before, before_at, ⟨rfl, _⟩ | ⟨_, rfl⟩⟩ := semaphores_modify after_at
      · exact absurd (inv.alone i call d c y call_at found d_computing computing) other
      · exact inv.held i d y after call_at d_computing before_at

/-! ## The cleanup -/

/-- The semaphore of a key that no open call has may go. -/
theorem orderly_removeSemaphore (inv : s.Orderly) {k : String} (unused : ∀ c ∈ s.calls, c.phase.semaphore?.isSome = true → c.cacheKey ≠ k) :
    (s.removeSemaphore k).Orderly := by
  unfold removeSemaphore
  split
  · exact inv
  · next gone registered =>
    refine ⟨?_, ?_, ?_, inv.alone, ?_, inv.own⟩
    · intro i c x found has
      have other : k ≠ c.cacheKey := Ne.symm (unused c (List.mem_of_getElem? found) (by rw [has]; rfl))
      rw [Dict.get?_erase_ne _ other]
      exact inv.tracked i c x found has
    · intro j x has
      rw [Dict.get?_erase] at has
      split at has
      · cases has
      · next other =>
        obtain ⟨semaphore, there, enabled, count⟩ := inv.live j x has
        have apart : gone ≠ x := by
          rintro rfl
          exact other (inv.apart k j gone registered has)
        exact ⟨semaphore, by simp [apart, there], enabled, count⟩
    · intro i j x first second
      exact inv.apart i j x (Dict.get?_of_erase first) (Dict.get?_of_erase second)
    · intro i c x after found computing after_at
      obtain ⟨before, before_at, ⟨rfl, rfl⟩ | ⟨_, rfl⟩⟩ := semaphores_modify after_at
      · exact inv.held i c x before found computing before_at
      · exact inv.held i c x after found computing before_at

theorem calls_removeSemaphore (k : String) : (s.removeSemaphore k).calls = s.calls := by
  unfold removeSemaphore
  split
  · rfl
  · rfl

theorem orderly_foldl_removeSemaphore (inv : s.Orderly) {keys : List String}
    (unused : ∀ k ∈ keys, ∀ c ∈ s.calls, c.phase.semaphore?.isSome = true → c.cacheKey ≠ k) : (keys.foldl removeSemaphore s).Orderly := by
  induction keys generalizing s with
  | nil => exact inv
  | cons k rest ih =>
    refine ih (orderly_removeSemaphore inv (unused k List.mem_cons_self)) fun j later c there => ?_
    rw [calls_removeSemaphore] at there
    exact unused j (List.mem_cons_of_mem k later) c there

theorem foldl_removeEntry (keys : List String) : ∃ cache, keys.foldl removeEntry s = { s with computationCache := cache } ∧
    ∀ k, k ∉ keys → cache.get? k = s.computationCache.get? k := by
  induction keys generalizing s with
  | nil => exact ⟨s.computationCache, rfl, fun _ _ => rfl⟩
  | cons j rest ih =>
    obtain ⟨cache, after, kept⟩ := ih (s := s.removeEntry j)
    refine ⟨cache, after, fun k other => ?_⟩
    rw [kept k (fun later => other (List.mem_cons_of_mem j later)), removeEntry, Dict.get?_erase_ne]
    rintro rfl
    exact other List.mem_cons_self

/-- The cleanup leaves an open call its semaphore where the cache has an entry of its key that is not expired. -/
theorem orderly_optimizeMemoryAsync (inv : s.Orderly) {utcNow : Int}
    (cached : ∀ c ∈ s.calls, c.phase.semaphore?.isSome = true → (s.lookup c.cacheKey utcNow).isSome = true) :
    (s.optimizeMemoryAsync utcNow).Orderly := by
  unfold optimizeMemoryAsync
  obtain ⟨cache, after, kept⟩ :=
    foldl_removeEntry (s := s) ((s.computationCache.entries.filter fun entry => entry.2.isExpired utcNow).map Prod.fst)
  simp only [after]
  have cleaned : Orderly { s with computationCache := cache } := orderly_of_eq inv rfl rfl rfl
  refine orderly_foldl_removeSemaphore cleaned fun k unused c there has same => ?_
  have absent : k ∉ cache.keys := by
    intro there
    simpa [(Dict.contains_iff cache k).mpr there] using (List.mem_filter.mp unused).2
  have hit := cached c there has
  rw [same, lookup] at hit
  cases found : s.computationCache.get? k with
  | none => simp [found] at hit
  | some entry =>
    cases expired : entry.isExpired utcNow with
    | true => simp [found, expired] at hit
    | false =>
      refine absent (Dict.mem_keys_of_get? (v := entry) ?_)
      rw [kept k, found]
      intro listed
      obtain ⟨⟨_, other⟩, member, rfl⟩ := List.mem_map.mp listed
      obtain ⟨entry_there, other_expired⟩ := List.mem_filter.mp member
      obtain rfl : entry = other := Option.some.inj (found.symm.trans ((Dict.get?_some_iff ..).mpr entry_there))
      exact absurd other_expired (by simp [expired])

/-! ## Every step -/

theorem isOwn_castTo {resultType : τ} {value : ν} (fitting : fits resultType value = true) :
    (CallPhase.ended (castTo fits resultType value)).IsOwn := by
  simp [CallPhase.IsOwn, castTo, fitting]

/-- A new semaphore has a place of its own. -/
theorem orderly_newSemaphore (inv : s.Orderly) {cacheKey : String} (unregistered : s.computationSemaphores.get? cacheKey = none) :
    Orderly { s with
      computationSemaphores := s.computationSemaphores.set cacheKey s.semaphores.length
      semaphores := s.semaphores ++ [({} : SemaphoreSlim)] } := by
  have short (x : Nat) (semaphore : SemaphoreSlim) (there : s.semaphores[x]? = some semaphore) : x < s.semaphores.length :=
    (List.getElem?_eq_some_iff.mp there).1
  have old {k : String} {x : Nat} (has : s.computationSemaphores.get? k = some x) : x ≠ s.semaphores.length := by
    rintro rfl
    obtain ⟨semaphore, there, _⟩ := inv.live k _ has
    exact Nat.lt_irrefl _ (short _ semaphore there)
  refine ⟨?_, ?_, ?_, inv.alone, ?_, inv.own⟩
  · intro i c x found has
    have before := inv.tracked i c x found has
    have other : cacheKey ≠ c.cacheKey := by
      rintro rfl
      simp [unregistered] at before
    exact (Dict.get?_set_ne _ _ other).trans before
  · intro k x has
    rw [Dict.get?_set] at has
    split at has
    · obtain rfl := Option.some.inj has
      exact ⟨{}, by simp, rfl, Nat.le_refl 1⟩
    · obtain ⟨semaphore, there, enabled, count⟩ := inv.live k x has
      exact ⟨semaphore, (List.getElem?_append_left (short x semaphore there)).trans there, enabled, count⟩
  · intro k j x first second
    rw [Dict.get?_set] at first second
    split at first
    · next same =>
      obtain rfl := Option.some.inj first
      split at second
      · next also => exact same.symm.trans also
      · exact absurd rfl (old second)
    · split at second
      · obtain rfl := Option.some.inj second
        exact absurd rfl (old first)
      · exact inv.apart k j x first second
  · intro i c x semaphore found computing there
    have registered := inv.tracked i c x found (by rw [computing]; rfl)
    obtain ⟨before, before_at, _⟩ := inv.live c.cacheKey x registered
    refine inv.held i c x semaphore found computing ?_
    rw [← there]
    exact (List.getElem?_append_left (short x before before_at)).symm

theorem orderly_getOrComputeAsync (inv : s.Orderly) {cacheKey : String} {resultType : τ} {expiration : Option Int} {utcNow : Int}
    (key : cacheKey ≠ "") (hit : s.HitFits fits cacheKey resultType utcNow) :
    (s.getOrComputeAsync fits cacheKey resultType expiration utcNow).Orderly := by
  unfold getOrComputeAsync
  rw [if_neg key]
  split
  · next value cached => exact orderly_append inv (isOwn_castTo (hit value cached)) (by simp) (by simp [CallPhase.semaphore?])
  · split
    · next semaphore registered =>
      refine orderly_append inv (by simp [CallPhase.IsOwn]) (by simp) fun x has => ?_
      exact Option.some.inj has ▸ registered
    · next unregistered =>
      refine orderly_append (orderly_newSemaphore inv unregistered) (by simp [CallPhase.IsOwn]) (by simp) fun x has => ?_
      exact Option.some.inj has ▸ Dict.get?_set_self ..

theorem orderly_waitAsync (inv : s.Orderly) (call : Nat) : (s.waitAsync call).Orderly := by
  unfold waitAsync
  split
  · next cacheKey resultType expiration x found =>
    obtain ⟨semaphore, there, enabled, _⟩ := inv.live cacheKey x (inv.tracked call _ x found rfl)
    rw [there, Option.any_some, enabled]
    refine orderly_setPhase inv (by simp [CallPhase.IsOwn]) (by simp) fun c y at_call has => ?_
    obtain rfl := Option.some.inj (found.symm.trans at_call)
    exact has
  · exact inv

theorem orderly_acquire (inv : s.Orderly) {call : Nat} {utcNow : Int} (undisturbed : s.Undisturbed fits (.acquire call utcNow)) :
    (s.acquire fits call utcNow).Orderly := by
  unfold acquire
  split
  · next cacheKey resultType expiration x found =>
    split
    · next free =>
      obtain ⟨semaphore, there, enough⟩ := (Option.any_eq_true ..).mp free
      have acquired := orderly_acquired inv found rfl there (by simpa using enough)
      dsimp only
      split
      · next value cached =>
        have now : (s.setPhase call (.computing x)).calls[call]? =
            some { cacheKey, resultType, expiration, phase := .computing x } := by simp [setPhase, found]
        exact orderly_release acquired now rfl (isOwn_castTo (undisturbed _ x found rfl value cached))
      · exact acquired
    · exact inv
  · exact inv

theorem orderly_computeEnds (inv : s.Orderly) {call : Nat} {outcome : Option ν} {utcNow : Int}
    (undisturbed : s.Undisturbed fits (.computeEnds call outcome utcNow)) : (s.computeEnds call outcome utcNow).Orderly := by
  unfold computeEnds
  split
  · next cacheKey resultType expiration x found =>
    split
    · exact orderly_release inv found rfl (by simp [CallPhase.IsOwn])
    · next value =>
      have in_range := undisturbed rfl _ x found rfl
      split
      · next out_of_range => simp [out_of_range] at in_range
      · next expirationTime _ =>
        have cached : Orderly { s with computationCache := s.computationCache.set cacheKey { value, expirationTime } } :=
          orderly_of_eq inv rfl rfl rfl
        exact orderly_release cached found rfl (by simp [CallPhase.IsOwn])
  · exact inv

theorem orderly_step (inv : s.Orderly) (event : OptimizerEvent τ ν) (undisturbed : s.Undisturbed fits event) : (s.step fits event).Orderly := by
  cases event with
  | getOrComputeAsync cacheKey resultType expiration utcNow => exact orderly_getOrComputeAsync inv undisturbed.1 undisturbed.2
  | waitAsync call => exact orderly_waitAsync inv call
  | cancel call =>
    simp only [step, cancel]
    split
    · exact orderly_setPhase inv (by simp [CallPhase.IsOwn]) (by simp) (by simp [CallPhase.semaphore?])
    · exact inv
  | acquire call utcNow => exact orderly_acquire inv undisturbed
  | computeEnds call outcome utcNow => exact orderly_computeEnds inv undisturbed
  | optimizeMemoryAsync utcNow => exact orderly_optimizeMemoryAsync inv undisturbed

/-- While no semaphore is removed that a call has, one call computes a key at a time and no call fails
    for another's sake. -/
theorem singleFlight_of_undisturbed (fits : τ → ν → Bool) (events : List (OptimizerEvent τ ν))
    (undisturbed : Along (step fits) (Undisturbed fits) {} events) :
    Throughout (step fits) (fun s => s.SingleFlight ∧ s.OwnFailures) {} events := by
  have start : Orderly ({} : PerformanceOptimizer τ ν) :=
    ⟨by simp, by simp, by simp, by simp, by simp, by simp [OwnFailures]⟩
  have keeps (s : PerformanceOptimizer τ ν) (event : OptimizerEvent τ ν) (inv : s.Orderly) (undisturbed : s.Undisturbed fits event) :
      (s.step fits event).Orderly := orderly_step inv event undisturbed
  exact throughout_mono (fun _ inv => ⟨singleFlight_of_orderly inv, inv.own⟩) (throughout_keeps keeps start undisturbed)

/-- A cleanup before a call and after its value was cached. -/
theorem singleFlight_two_calls : Throughout (step fun (_ : Unit) (_ : Nat) => true) (fun s => s.SingleFlight ∧ s.OwnFailures) {}
    [.optimizeMemoryAsync 5, .getOrComputeAsync "floor" () none 10, .waitAsync 0, .acquire 0 11, .getOrComputeAsync "floor" () none 12,
      .waitAsync 1, .computeEnds 0 (some 7) 13, .optimizeMemoryAsync 14, .acquire 1 15] := by
  refine singleFlight_of_undisturbed _ _ ⟨?_, ⟨by decide, fun _ _ => rfl⟩, trivial, fun _ _ _ _ _ _ => rfl, ⟨by decide, fun _ _ => rfl⟩,
    trivial, ?_, ?_, fun _ _ _ _ _ _ => rfl, trivial⟩
  · intro c there
    cases there
  · rintro _ c x found _
    obtain rfl := Option.some.inj found
    rfl
  · unfold Undisturbed
    decide

/-- While one call computes, the cleanup removes its semaphore, and a second call computes the same key. -/
theorem computed_twice : ¬Throughout (step fun (_ : Unit) (_ : Nat) => true) (fun s => s.SingleFlight ∧ s.OwnFailures) {}
    [.getOrComputeAsync "floor" () none 10, .waitAsync 0, .acquire 0 11, .optimizeMemoryAsync 12, .getOrComputeAsync "floor" () none 13,
      .waitAsync 1, .acquire 1 14] := by
  intro throughout
  have single := (throughout_last throughout).1
  exact absurd (single 0 1 _ _ 0 1 rfl rfl rfl rfl rfl) (by decide)

end PerformanceOptimizer
end RevitPy.Bridge
