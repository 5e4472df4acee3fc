import Mathlib.Data.List.Perm.Basic
import Mathlib.Data.List.Range
import RevitPy.ListEntries
import RevitPy.Runs

/-!
# A pool of objects

Threads get objects from a pool and return them. The queue of the pool and its counters
are guarded each by itself, so that between the two, and while the factory or the reset
function runs, other threads go on. Objects are numbered as the factory makes them.
-/

namespace RevitPy
open Runs

namespace ObjectPool

/-- Where a call is: `get` in the factory or before it counts, `return_object` in the reset
    function, before the queue or before it counts. -/
inductive Phase
  | creating
  | lending (obj : Nat) (fresh : Bool)
  | resetting (obj : Nat)
  | putting (obj : Nat)
  | counting
  | done

/-- The object that a call has. -/
def Phase.objects : Phase → List Nat
  | .lending obj _ | .resetting obj | .putting obj => [obj]
  | _ => []

end ObjectPool

open ObjectPool in
/-- The pool with its calls, the objects that callers hold, and those that were not taken back. -/
structure ObjectPool where
  max_size : Int
  _pool : List Nat := []
  _created_count : Nat := 0
  _borrowed_count : Nat := 0
  _returned_count : Nat := 0
  calls : List Phase := []
  held : List Nat := []
  dropped : List Nat := []
  /-- How many objects the factory made. -/
  made : Nat := 0

namespace ObjectPool

/-- `put_nowait` raises `Full`. A queue whose size is not positive is not bounded. -/
def full (p : ObjectPool) : Bool := decide (0 < p.max_size ∧ p.max_size ≤ p._pool.length)

/-- A thread calls a method, or a call goes on. The answer is that of the reset function, or
    of the factory; none is an exception. -/
inductive Event
  | get
  | return_object (obj : Nat)
  | resume (call : Nat) (answer : Option Bool)

/-- Get an object from the pool or create a new one. -/
def get (p : ObjectPool) : ObjectPool := match p._pool with
  | obj :: rest => { p with _pool := rest, calls := p.calls ++ [.lending obj false] }
  | [] => { p with calls := p.calls ++ [.creating] }

/-- Return an object to the pool. -/
def return_object (p : ObjectPool) (obj : Nat) : ObjectPool :=
  { p with held := p.held.erase obj, calls := p.calls ++ [.resetting obj] }

def go_on (p : ObjectPool) (call : Nat) (phase : Phase) : ObjectPool := { p with calls := p.calls.set call phase }

/-- A call goes on to where another thread may come in between, or ends. -/
def resume (p : ObjectPool) (call : Nat) (answer : Option Bool) : ObjectPool := match p.calls[call]? with
  | some .creating =>
    if answer.isSome then go_on { p with made := p.made + 1 } call (.lending p.made true) else p.go_on call .done
  | some (.lending obj fresh) =>
    go_on { p with
      _created_count := if fresh then p._created_count + 1 else p._created_count
      _borrowed_count := p._borrowed_count + 1
      held := p.held ++ [obj] } call .done
  | some (.resetting obj) =>
    if answer = some true then p.go_on call (.putting obj) else go_on { p with dropped := p.dropped ++ [obj] } call .done
  | some (.putting obj) =>
    if p.full then go_on { p with dropped := p.dropped ++ [obj] } call .done
    else go_on { p with _pool := p._pool ++ [obj] } call .counting
  | some .counting => go_on { p with _returned_count := p._returned_count + 1 } call .done
  | _ => p

def step (p : ObjectPool) : Event → ObjectPool
  | .get => p.get
  | .return_object obj => p.return_object obj
  | .resume call answer => p.resume call answer

/-- Callers return only what they hold. -/
def Proper (p : ObjectPool) : Event → Prop
  | .return_object obj => obj ∈ p.held
  | _ => True

/-! ## The accounts -/

/-- A fresh object that is not counted. -/
def uncounted : Phase → Nat
  | .lending _ true => 1
  | _ => 0

/-- A return that is neither counted nor refused. -/
def returning : Phase → Nat
  | .resetting _ | .putting _ | .counting => 1
  | _ => 0

/-- Every place at which an object can be. -/
def places (p : ObjectPool) : List Nat := p._pool ++ p.calls.flatMap Phase.objects ++ p.held ++ p.dropped

structure Accounted (p : ObjectPool) : Prop where
  places : ∀ obj, p.places.count obj = (List.range p.made).count obj
  bounded : 0 < p.max_size → (p._pool.length : Int) ≤ p.max_size
  created : p._created_count + (p.calls.map uncounted).sum = p.made
  borrowed : p._borrowed_count = p.held.length + (p.calls.map returning).sum + p._returned_count + p.dropped.length

variable {p : ObjectPool}

theorem Accounted.get (accounted : p.Accounted) : p.get.Accounted := by
  obtain ⟨places, bounded, created, borrowed⟩ := accounted
  unfold ObjectPool.get
  cases pool : p._pool with
  | nil =>
    refine ⟨fun obj => ?_, fun positive => ?_, by simpa [uncounted] using created, by simpa [returning] using borrowed⟩
    · have := places obj
      simpa [ObjectPool.places, pool, Phase.objects] using this
    · simpa [pool] using bounded positive
  | cons first rest =>
    refine ⟨fun obj => ?_, fun positive => ?_, by simpa [uncounted] using created, by simpa [returning] using borrowed⟩
    · have := places obj
      simp only [ObjectPool.places, pool, Phase.objects, List.flatMap_append, List.flatMap_cons, List.flatMap_nil, List.count_append,
        List.count_cons, List.count_nil] at this ⊢
      omega
    · have := bounded positive
      simp only [pool, List.length_cons] at this
      push_cast at this
      show (rest.length : Int) ≤ p.max_size
      omega

theorem Accounted.return_object (accounted : p.Accounted) {obj : Nat} (held : obj ∈ p.held) : (p.return_object obj).Accounted := by
  obtain ⟨places, bounded, created, borrowed⟩ := accounted
  have one := List.length_pos_of_mem held
  have fewer := List.length_erase_of_mem held
  refine ⟨fun other => ?_, bounded, by simpa [ObjectPool.return_object, uncounted] using created, ?_⟩
  · have := places other
    have moved := (List.perm_cons_erase held).count_eq other
    simp only [ObjectPool.places, ObjectPool.return_object, Phase.objects, List.flatMap_append, List.flatMap_cons, List.flatMap_nil,
      List.count_append, List.count_cons, List.count_nil] at this moved ⊢
    omega
  · simp only [ObjectPool.return_object, List.map_append, List.map_cons, List.map_nil, List.sum_append, List.sum_cons, List.sum_nil, returning]
    omega

/-- The accounts stay right where a call goes on, if what it moves is in balance. -/
theorem Accounted.go_on {q : ObjectPool} (accounted : p.Accounted) {call : Nat} {phase next : Phase} (found : p.calls[call]? = some phase)
    (calls : q.calls = p.calls)
    (places : ∀ obj, (q._pool ++ q.held ++ q.dropped).count obj + next.objects.count obj + (List.range p.made).count obj =
      (p._pool ++ p.held ++ p.dropped).count obj + phase.objects.count obj + (List.range q.made).count obj)
    (bounded : 0 < q.max_size → (q._pool.length : Int) ≤ q.max_size)
    (created : q._created_count + uncounted next + p.made = p._created_count + uncounted phase + q.made)
    (borrowed : q._borrowed_count + (p.held.length + returning phase + p._returned_count + p.dropped.length) =
      p._borrowed_count + (q.held.length + returning next + q._returned_count + q.dropped.length)) : (q.go_on call next).Accounted := by
  refine ⟨fun obj => ?_, bounded, ?_, ?_⟩
  · have before := accounted.places obj
    have moved := places obj
    have counts := count_flatMap_set found obj (f := Phase.objects) (b := next)
    simp only [ObjectPool.places, ObjectPool.go_on, calls, List.count_append] at *
    omega
  · have before := accounted.created
    have sums := sum_map_set found uncounted (b := next)
    simp only [ObjectPool.go_on, calls]
    omega
  · have before := accounted.borrowed
    have sums := sum_map_set found returning (b := next)
    simp only [ObjectPool.go_on, calls]
    omega

theorem Accounted.resume (accounted : p.Accounted) (call : Nat) (answer : Option Bool) : (p.resume call answer).Accounted := by
  have bounded := accounted.bounded
  unfold ObjectPool.resume
  split
  · rename_i found
    split
    · refine accounted.go_on found rfl (fun obj => ?_) bounded (by simp [uncounted]; omega) (by simp [returning])
      simp only [Phase.objects, List.range_succ, List.count_append, List.count_nil]
      omega
    · exact accounted.go_on found rfl (fun obj => by simp [Phase.objects]) bounded rfl rfl
  · rename_i obj fresh found
    refine accounted.go_on found rfl (fun other => ?_) bounded ?_ (by simp [returning]; omega)
    · simp only [Phase.objects, List.count_append, List.count_nil]
      omega
    · cases fresh <;> simp [uncounted]
  · rename_i obj found
    split
    · exact accounted.go_on found rfl (fun other => rfl) bounded rfl rfl
    · refine accounted.go_on found rfl (fun other => ?_) bounded rfl (by simp [returning]; omega)
      simp only [Phase.objects, List.count_append, List.count_nil]
      omega
  · rename_i obj found
    split
    · refine accounted.go_on found rfl (fun other => ?_) bounded rfl (by simp [returning]; omega)
      simp only [Phase.objects, List.count_append, List.count_nil]
      omega
    · rename_i room
      refine accounted.go_on found rfl (fun other => ?_) (fun positive => ?_) rfl rfl
      · simp only [Phase.objects, List.count_append, List.count_nil]
        omega
      · have room : ¬(0 < p.max_size ∧ p.max_size ≤ p._pool.length) := by simpa [full] using room
        have positive : 0 < p.max_size := positive
        show ((p._pool ++ [obj]).length : Int) ≤ p.max_size
        simp only [List.length_append, List.length_singleton]
        push_cast
        omega
  · rename_i found
    exact accounted.go_on found rfl (fun obj => by simp [Phase.objects]) bounded rfl (by simp [returning]; omega)
  · exact accounted

theorem Accounted.step (accounted : p.Accounted) (event : Event) (proper : p.Proper event) : (p.step event).Accounted := by
  cases event with
  | get => exact accounted.get
  | return_object obj => exact accounted.return_object proper
  | resume call answer => exact accounted.resume call answer

/-- Under every interleaving of threads that return only what they hold, every object that
    the factory made is in one place: in the queue, with one call, with one caller, or dropped.
    The queue keeps its bound, and the counters are right but for the calls under way. -/
theorem objects_lent_once (max_size : Int) (events : List Event) (proper : Along ObjectPool.step Proper { max_size } events) :
    let p := events.foldl ObjectPool.step { max_size }
    p.places.Perm (List.range p.made) ∧ (0 < p.max_size → (p._pool.length : Int) ≤ p.max_size) ∧
      p._created_count + (p.calls.map uncounted).sum = p.made ∧
      p._borrowed_count = p.held.length + (p.calls.map returning).sum + p._returned_count + p.dropped.length := by
  have start : ({ max_size } : ObjectPool).Accounted := ⟨fun _ => rfl, fun positive => positive.le, rfl, rfl⟩
  have keeps (p : ObjectPool) (event : Event) (accounted : p.Accounted) (proper : p.Proper event) : (p.step event).Accounted :=
    accounted.step event proper
  have accounted : (events.foldl ObjectPool.step { max_size }).Accounted := foldl_keeps keeps start proper
  exact ⟨List.perm_iff_count.mpr accounted.places, accounted.bounded, accounted.created, accounted.borrowed⟩

/-- An object is lent, returned and lent again. -/
theorem one_object_lent_twice :
    let p := [.get, .resume 0 (some true), .resume 0 none, .return_object 0, .resume 1 (some true), .resume 1 none, .get].foldl
      ObjectPool.step { max_size := 1 }
    p.places.Perm (List.range p.made) ∧ (0 < p.max_size → (p._pool.length : Int) ≤ p.max_size) ∧
      p._created_count + (p.calls.map uncounted).sum = p.made ∧
      p._borrowed_count = p.held.length + (p.calls.map returning).sum + p._returned_count + p.dropped.length :=
  objects_lent_once 1 _ ⟨trivial, trivial, trivial, List.mem_singleton_self 0, trivial, trivial, trivial, trivial⟩

end ObjectPool
end RevitPy
