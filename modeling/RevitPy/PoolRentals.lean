import Mathlib.Data.List.Nodup
import Mathlib.Data.List.Perm.Basic
import RevitPy.PythonInterpreterPool
import RevitPy.Runs

/-!
# Who holds an interpreter

An interpreter that is available and one that is rented are never the same, as long as
no call of `RentAsync` creates its own: the created interpreter is put in the queue of the
available ones and handed out besides.
-/

namespace RevitPy.Runtime.PythonInterpreterPool
open Runs

/-- No two rentals that are neither disposed nor force-returned hold one interpreter. -/
def Exclusive (s : PythonInterpreterPool) : Prop :=
  s.rentals.Pairwise fun r other => r.isDisposed = false → other.isDisposed = false → r.interpreter ≠ other.interpreter

/-- Where the event is the success of a creation, no call of `RentAsync` awaits it. -/
def CreatesForPool (s : PythonInterpreterPool) : Event → Prop
  | .rent call (.creates true) => s.rents.getD call .ended ≠ .creating
  | _ => True

/-- The interpreters of the rentals that are neither disposed nor force-returned. -/
def heldBy (rentals : List RentedInterpreter) : List Nat := (rentals.filter fun r => !r.isDisposed).map RentedInterpreter.interpreter

structure Separate (s : PythonInterpreterPool) : Prop where
  distinct : (s.availableInterpreters ++ heldBy s.rentals).Nodup
  known : ∀ interpreter ∈ s.availableInterpreters ++ heldBy s.rentals, interpreter < s.nextId
  none_created : ∀ interpreter, .created interpreter ∉ s.rents

theorem exclusive_of_separate {s : PythonInterpreterPool} (sep : s.Separate) : s.Exclusive := by
  have distinct := (List.nodup_append.mp sep.distinct).2.1
  rw [heldBy, List.Nodup, List.pairwise_map, List.pairwise_filter] at distinct
  refine distinct.imp fun apart r_open other_open => apart ?_ ?_
  · simp [r_open]
  · simp [other_open]

/-! ## Rentals that end -/

private def ended (r : RentedInterpreter) : RentedInterpreter := { r with isDisposed := true }

theorem heldBy_append (rentals more : List RentedInterpreter) : heldBy (rentals ++ more) = heldBy rentals ++ heldBy more := by
  simp [heldBy]

/-- A rental that ends gives up its interpreter and no other. -/
theorem heldBy_modify {rentals : List RentedInterpreter} {rental : Nat} {r : RentedInterpreter} (found : rentals[rental]? = some r)
    (is_open : r.isDisposed = false) : (heldBy rentals).Perm (r.interpreter :: heldBy (rentals.modify rental ended)) := by
  induction rentals generalizing rental with
  | nil => simp at found
  | cons first rest ih =>
    cases rental with
    | zero =>
      obtain rfl : first = r := by simpa using found
      simp [heldBy, ended, is_open]
    | succ rental =>
      have later : (heldBy rest).Perm (r.interpreter :: heldBy (rest.modify rental ended)) := ih (by simpa using found)
      cases first_ended : first.isDisposed with
      | true => simpa [heldBy, first_ended] using later
      | false =>
        have swapped := (later.cons first.interpreter).trans (List.Perm.swap ..)
        simpa [heldBy, first_ended] using swapped

theorem heldBy_modify_sublist (rentals : List RentedInterpreter) (rental : Nat) :
    (heldBy (rentals.modify rental ended)).Sublist (heldBy rentals) := by
  induction rentals generalizing rental with
  | nil => simp [heldBy]
  | cons first rest ih =>
    cases rental with
    | zero =>
      cases first_ended : first.isDisposed with
      | true => simp [heldBy, ended, first_ended]
      | false => simp [heldBy, ended, first_ended]
    | succ rental =>
      cases first_ended : first.isDisposed with
      | true => simpa [heldBy, first_ended] using ih rental
      | false => simpa [heldBy, first_ended] using ih rental

/-! ## What each part of a step keeps -/

variable {s t : PythonInterpreterPool}

/-- Interpreters may only get lost. -/
theorem separate_of_sublist (sep : s.Separate)
    (fewer : (t.availableInterpreters ++ heldBy t.rentals).Sublist (s.availableInterpreters ++ heldBy s.rentals))
    (ids : t.nextId = s.nextId) (rents : ∀ interpreter, .created interpreter ∈ t.rents → .created interpreter ∈ s.rents) :
    t.Separate where
  distinct := sep.distinct.sublist fewer
  known interpreter there := ids ▸ sep.known interpreter (fewer.subset there)
  none_created interpreter created := sep.none_created interpreter (rents interpreter created)

theorem separate_register (sep : s.Separate) : s.register.Separate := by
  have shape : (s.availableInterpreters ++ [s.nextId] ++ heldBy s.rentals).Perm (s.nextId :: (s.availableInterpreters ++ heldBy s.rentals)) := by
    rw [List.append_assoc]
    exact List.perm_middle
  refine ⟨shape.nodup_iff.mpr (List.nodup_cons.mpr ⟨fun there => ?_, sep.distinct⟩), fun interpreter there => ?_, sep.none_created⟩
  · exact Nat.lt_irrefl _ (sep.known _ there)
  · rcases List.mem_cons.mp (shape.subset there) with rfl | old
    · exact Nat.lt_succ_self s.nextId
    · exact Nat.lt_succ_of_lt (sep.known interpreter old)

theorem separate_release (sep : s.Separate) : s.release.Separate := by
  unfold release
  split
  · exact ⟨sep.distinct, sep.known, sep.none_created⟩
  · exact sep

theorem separate_setRent (sep : s.Separate) (rent : Nat) {phase : RentPhase} (other : ∀ interpreter, phase ≠ .created interpreter) :
    (s.setRent rent phase).Separate := by
  refine ⟨sep.distinct, sep.known, fun interpreter there => ?_⟩
  rcases List.mem_or_eq_of_mem_set there with old | new
  · exact sep.none_created interpreter old
  · exact other interpreter new.symm

/-- The first available interpreter becomes a rented one. -/
theorem separate_rentOut (sep : s.Separate) (rent : Nat) {interpreter : Nat} {rest : List Nat}
    (queue : s.availableInterpreters = interpreter :: rest) :
    ({ s with availableInterpreters := rest }.rentOut rent interpreter).Separate := by
  have shape : (s.availableInterpreters ++ heldBy s.rentals).Perm
      (rest ++ heldBy (s.rentals ++ [({ interpreter } : RentedInterpreter)])) := by
    rw [queue, heldBy_append, ← List.append_assoc]
    exact (List.perm_append_singleton interpreter (rest ++ heldBy s.rentals)).symm
  refine ⟨shape.nodup_iff.mp sep.distinct, fun other there => sep.known other (shape.symm.subset there), fun other created => ?_⟩
  rcases List.mem_or_eq_of_mem_set created with old | new
  · exact sep.none_created other old
  · cases new

theorem separate_setDisposed (sep : s.Separate) (rental : Nat) : (s.setDisposed rental).Separate := by
  refine separate_of_sublist sep ?_ rfl fun _ => id
  exact (List.Sublist.refl _).append (heldBy_modify_sublist s.rentals rental)

theorem separate_initializeAsync (sep : s.Separate) : s.initializeAsync.Separate := by
  unfold initializeAsync
  split
  · exact sep
  · exact ⟨sep.distinct, sep.known, sep.none_created⟩

/-- A rental that is returned moves its interpreter to the end of the queue, where it is healthy. -/
theorem separate_dispose (sep : s.Separate) (rental : Nat) (healthy : Bool) : (s.dispose rental healthy).Separate := by
  unfold dispose
  cases found : s.rentals[rental]? with
  | none => exact sep
  | some r =>
    cases is_open : r.isDisposed with
    | true => simpa [is_open] using sep
    | false =>
      have fewer := separate_setDisposed sep rental
      simp only [is_open, Bool.false_eq_true, ↓reduceIte, returnInterpreter]
      split
      · refine separate_release ?_
        cases healthy with
        | false => exact ⟨fewer.distinct, fewer.known, fewer.none_created⟩
        | true =>
          have shape : (s.availableInterpreters ++ [r.interpreter] ++ heldBy (s.setDisposed rental).rentals).Perm
              (s.availableInterpreters ++ heldBy s.rentals) := by
            rw [List.append_assoc]
            exact (heldBy_modify found is_open).symm.append_left _
          exact ⟨shape.nodup_iff.mpr sep.distinct, fun other there => sep.known other (shape.subset there), sep.none_created⟩
      · exact fewer

theorem separate_forceReturn (sep : s.Separate) (rentals : List Nat) : (rentals.foldl forceReturn s).Separate := by
  induction rentals generalizing s with
  | nil => exact sep
  | cons rental rest ih => exact ih (separate_setDisposed sep rental)

theorem separate_replace (sep : s.Separate) (replacement : Nat) (raises : Bool) : (s.replace replacement raises).Separate := by
  unfold replace
  split
  · split
    · exact ⟨sep.distinct, sep.known, sep.none_created⟩
    · dsimp only
      split
      · exact ⟨sep.distinct, sep.known, sep.none_created⟩
      · exact ⟨sep.distinct, sep.known, sep.none_created⟩
  · exact sep

theorem separate_rentStep (sep : s.Separate) {rent : Nat} {event : RentEvent} (for_pool : s.CreatesForPool (.rent rent event)) :
    (s.rentStep rent (s.rents.getD rent .ended) event).Separate := by
  have no_rental_creates : s.rents.getD rent .ended = .creating → event ≠ .creates true := by
    rintro creating rfl
    exact for_pool creating
  have not_created (interpreter : Nat) : s.rents.getD rent .ended ≠ .created interpreter := by
    intro created
    refine sep.none_created interpreter (List.mem_of_getElem? (i := rent) ?_)
    rw [List.getD_eq_getElem?_getD] at created
    cases found : s.rents[rent]? with
    | none => simp [found] at created
    | some phase => simpa [found] using created
  unfold rentStep
  split
  · split
    · exact sep
    · have kept : (s.setRent rent .acquired).Separate := separate_setRent sep rent (by simp)
      exact ⟨kept.distinct, kept.known, kept.none_created⟩
  · exact separate_release (separate_setRent sep rent (by simp))
  · unfold resume
    split
    · next queue => exact separate_rentOut sep rent queue
    · split
      · exact separate_setRent sep rent (by simp)
      · exact separate_setRent sep rent (by simp)
  · next succeeds creating =>
    cases succeeds with
    | true => exact absurd rfl (no_rental_creates creating)
    | false => exact separate_release (separate_setRent sep rent (by simp))
  · next interpreter created => exact absurd created (not_created interpreter)
  · split
    · exact sep
    · next queue => exact separate_rentOut sep rent queue
  · split
    · exact separate_release (separate_release (separate_setRent sep rent (by simp)))
    · exact sep
  · exact separate_release (separate_setRent sep rent (by simp))
  · exact sep

theorem separate_step (sep : s.Separate) (event : Event) (for_pool : s.CreatesForPool event) : (s.step event).Separate := by
  cases event with
  | initializeAsync => exact separate_initializeAsync sep
  | initializeCreates call succeeds =>
    simp only [step, initializeCreates]
    split
    · exact sep
    · split
      · exact sep
      · split
        · exact separate_register ⟨sep.distinct, sep.known, sep.none_created⟩
        · exact ⟨sep.distinct, sep.known, sep.none_created⟩
  | initialized call =>
    simp only [step, initialized]
    split
    · exact ⟨sep.distinct, sep.known, sep.none_created⟩
    · exact sep
  | rentAsync =>
    simp only [step, rentAsync]
    split
    · refine ⟨sep.distinct, sep.known, fun interpreter there => ?_⟩
      simpa using (List.mem_append.mp there).resolve_left (sep.none_created interpreter)
    · exact sep
  | rent call event => exact separate_rentStep sep for_pool
  | dispose rental healthy => exact separate_dispose sep rental healthy
  | replace replacement raises => exact separate_replace sep replacement raises
  | replacementCreates replacement succeeds =>
    simp only [step, replacementCreates]
    split
    · split
      · exact separate_register ⟨sep.distinct, sep.known, sep.none_created⟩
      · exact ⟨sep.distinct, sep.known, sep.none_created⟩
    · exact sep
  | resetForces =>
    have kept := separate_forceReturn sep s.rentedInterpreters.values
    exact ⟨kept.distinct, kept.known, kept.none_created⟩
  | resetClears =>
    simp only [step, resetClears]
    split
    · exact sep
    · refine separate_initializeAsync (separate_of_sublist sep ?_ rfl fun _ => id)
      exact List.sublist_append_right ..
  | performCleanup stale =>
    simp only [step, performCleanup]
    split
    · exact separate_forceReturn sep _
    · exact sep

/-- While no call of `RentAsync` gets an interpreter created for it, no interpreter is rented twice. -/
theorem exclusive_of_createsForPool (maxInterpreters : Nat) (events : List Event)
    (for_pool : Along step CreatesForPool (new maxInterpreters) events) : Throughout step Exclusive (new maxInterpreters) events := by
  have start : (new maxInterpreters).Separate := ⟨List.nodup_nil, by simp [new, heldBy], by simp [new]⟩
  exact throughout_mono (fun _ => exclusive_of_separate) (throughout_keeps (fun _ event sep => separate_step sep event) start for_pool)

theorem exclusive_two_rentals : Throughout step Exclusive (new 2)
    [.initializeAsync, .initializeCreates 0 true, .initializeCreates 0 true, .initialized 0, .rentAsync, .rent 0 .acquire, .rent 0 .resume,
      .rentAsync, .rent 1 .acquire, .rent 1 .resume, .dispose 0 true, .rentAsync, .rent 2 .acquire, .rent 2 .resume, .resetForces] :=
  exclusive_of_createsForPool 2 _ (by simp [Along, CreatesForPool])

/-- Of three rentals the last has its own interpreter created. When the first is returned, the next call
    of `RentAsync` gets the interpreter of the third. -/
theorem interpreter_rented_twice : ¬Throughout step Exclusive (new 3)
    [.initializeAsync, .initializeCreates 0 true, .initializeCreates 0 true, .initialized 0,
      .rentAsync, .rent 0 .acquire, .rent 0 .resume, .rentAsync, .rent 1 .acquire, .rent 1 .resume,
      .rentAsync, .rent 2 .acquire, .rent 2 .resume, .rent 2 (.creates true), .rent 2 .handOver,
      .dispose 0 true, .rentAsync, .rent 3 .acquire, .rent 3 .resume] := by
  intro throughout
  have last := throughout_last throughout
  revert last
  unfold Exclusive
  decide

end RevitPy.Runtime.PythonInterpreterPool
