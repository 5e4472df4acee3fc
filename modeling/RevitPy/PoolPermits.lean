import RevitPy.PythonInterpreterPool
import RevitPy.Runs

/-!
# The permits of the pool

A permit is free, held by a call of `RentAsync` that got it, or held by a rental that is
not given back. The places of the pool are taken by the interpreters and by the creations
under way.
-/

namespace RevitPy.Runtime
open Runs

/-- What a measure of the entries of a list adds up to. -/
def total {α : Type} (measure : α → Nat) : List α → Nat
  | [] => 0
  | a :: rest => measure a + total measure rest

section
variable {α : Type} {l : List α} {i : Nat} {a : α}

theorem total_append (measure : α → Nat) (more : List α) : total measure (l ++ more) = total measure l + total measure more := by
  induction l with
  | nil => simp [total]
  | cons a rest ih =>
    simp only [List.cons_append, total, ih]
    omega

theorem total_set (found : l[i]? = some a) (measure : α → Nat) (b : α) :
    total measure (l.set i b) + measure a = total measure l + measure b := by
  induction l generalizing i with
  | nil => simp at found
  | cons first rest ih =>
    cases i with
    | zero =>
      obtain rfl : first = a := by simpa using found
      simp only [total, List.set_cons_zero]
      omega
    | succ i =>
      have later : total measure (rest.set i b) + measure a = total measure rest + measure b := ih (by simpa using found)
      simp only [total, List.set_cons_succ] at later ⊢
      omega

theorem total_modify (found : l[i]? = some a) (measure : α → Nat) (f : α → α) :
    total measure (l.modify i f) + measure a = total measure l + measure (f a) := by
  have same : l.modify i f = l.set i (f a) := by
    refine List.ext_getElem? fun j => ?_
    rw [List.getElem?_modify, List.getElem?_set]
    by_cases here : i = j
    · subst here
      obtain ⟨short, rfl⟩ := List.getElem?_eq_some_iff.mp found
      simp [short]
    · simp [here]
  rw [same]
  exact total_set found measure (f a)

end

def RentPhase.permits : RentPhase → Nat
  | .waiting | .ended => 0
  | _ => 1

def RentPhase.creations : RentPhase → Nat
  | .creating => 1
  | _ => 0

def RentedInterpreter.permits (r : RentedInterpreter) : Nat := if r.isDisposed then 0 else 1

def Replacement.creations : Replacement → Nat
  | { interpreter := _, phase := .creating } => 1
  | _ => 0

namespace PythonInterpreterPool
variable (s : PythonInterpreterPool)

/-- The permits held by rentals in progress and by rentals not yet given back. -/
def permitsHeld : Nat := total RentPhase.permits s.rents + total RentedInterpreter.permits s.rentals

def creationsUnderWay : Nat :=
  total RentPhase.creations s.rents + total Initialization.creating s.initializations + total Replacement.creations s.replacements

structure PermitsConserved : Prop where
  permits : s.semaphore + s.permitsHeld = s.maxInterpreters
  count : s.allInterpreters.length ≤ s.maxInterpreters

/-- A place of the pool is free for a creation. -/
def HasRoom (creations : Nat) : Prop := s.allInterpreters.length + s.creationsUnderWay + creations ≤ s.maxInterpreters

def IsGivenBack (rental : Nat) : Prop := ∀ r, s.rentals[rental]? = some r → r.isDisposed = true

/-- Permits are given back by those that hold them, and creations begin where places are free. -/
def Accounted : Event → Prop
  | .rent call .waitEnds => s.rents.getD call .ended = .waiting → s.semaphore = s.maxInterpreters
  | .rent call .pollTimesOut => s.rents.getD call .ended = .polling → s.availableInterpreters = [] → s.semaphore + 1 = s.maxInterpreters
  | .rent call .resume => s.rents.getD call .ended = .acquired → s.availableInterpreters = [] →
      s.allInterpreters.length < s.maxInterpreters → s.HasRoom 1
  | .dispose rental _ => ∀ r, s.rentals[rental]? = some r → r.isDisposed = false → r.interpreter ∈ s.allInterpreters
  | .replace replacement false => ∀ interpreter, s.replacements[replacement]? = some { interpreter, phase := .started } →
      (s.allInterpreters.erase interpreter).length < s.maxInterpreters →
        ({ s with allInterpreters := s.allInterpreters.erase interpreter }).HasRoom 1
  | .initializeAsync => s.isInitialized = false → s.HasRoom (min 2 s.maxInterpreters)
  | .resetForces => ∀ rental ∈ s.rentedInterpreters.values, s.IsGivenBack rental
  | .resetClears => s.resets ≠ 0 → s.isInitialized = false → ({ s with allInterpreters := [] }).HasRoom (min 2 s.maxInterpreters)
  | .performCleanup stale => s.isInitialized = true → ∀ rental ∈ s.rentedInterpreters.values, stale rental = true → s.IsGivenBack rental
  | _ => True

structure Conserved : Prop where
  permits : s.semaphore + s.permitsHeld = s.maxInterpreters
  room : s.allInterpreters.length + s.creationsUnderWay ≤ s.maxInterpreters

variable {s} {t : PythonInterpreterPool} {rent : Nat} {old phase : RentPhase}

theorem permitsConserved_of_conserved (inv : s.Conserved) : s.PermitsConserved :=
  ⟨inv.permits, Nat.le_trans (Nat.le_add_right ..) inv.room⟩

/-! ## A call of `RentAsync` -/

@[simp] theorem permits_ended : RentPhase.permits .ended = 0 := rfl
@[simp] theorem creations_ended : RentPhase.creations .ended = 0 := rfl

/-- A call that moves on keeps its permit, and begins a creation only where there is a place. -/
theorem conserved_setRent (found : s.rents[rent]? = some old)
    (permits : s.semaphore + s.permitsHeld + phase.permits = s.maxInterpreters + old.permits)
    (room : s.allInterpreters.length + s.creationsUnderWay + phase.creations ≤ s.maxInterpreters + old.creations) :
    (s.setRent rent phase).Conserved := by
  have held := total_set found RentPhase.permits phase
  have under_way := total_set found RentPhase.creations phase
  constructor
  · simp only [permitsHeld, setRent] at *
    omega
  · simp only [creationsUnderWay, setRent] at *
    omega

theorem release_of_max (full : s.semaphore = s.maxInterpreters) : s.release = s := if_neg (by omega)

/-- A release frees the permit that is neither free nor held. -/
theorem conserved_release (permits : s.semaphore + s.permitsHeld + 1 = s.maxInterpreters)
    (room : s.allInterpreters.length + s.creationsUnderWay ≤ s.maxInterpreters) :
    s.release.Conserved ∧ s.release.semaphore = s.semaphore + 1 ∧ s.release.maxInterpreters = s.maxInterpreters := by
  have freed : s.release = { s with semaphore := s.semaphore + 1 } := if_pos (by omega)
  rw [freed]
  refine ⟨⟨?_, room⟩, rfl, rfl⟩
  simp only [permitsHeld] at *
  omega

/-- A call that fails gives back the permit it holds. -/
theorem conserved_giveUp (inv : s.Conserved) (found : s.rents[rent]? = some old) (holds : old.permits = 1) :
    (s.setRent rent .ended).release.Conserved ∧ (s.setRent rent .ended).release.semaphore = s.semaphore + 1 ∧
      (s.setRent rent .ended).release.maxInterpreters = s.maxInterpreters := by
  have held := total_set found RentPhase.permits .ended
  have under_way := total_set found RentPhase.creations .ended
  have permits := inv.permits
  have room := inv.room
  refine conserved_release ?_ ?_
  · simp only [permitsHeld, setRent, permits_ended] at *
    omega
  · simp only [creationsUnderWay, setRent, creations_ended] at *
    omega

/-- The permit of the call becomes that of the rental. -/
theorem conserved_rentOut (inv : s.Conserved) (found : s.rents[rent]? = some old) (holds : old.permits = 1) (interpreter : Nat) :
    (s.rentOut rent interpreter).Conserved := by
  have held := total_set found RentPhase.permits .ended
  have under_way := total_set found RentPhase.creations .ended
  have rented := total_append (l := s.rentals) RentedInterpreter.permits [({ interpreter } : RentedInterpreter)]
  have one : total RentedInterpreter.permits [({ interpreter } : RentedInterpreter)] = 1 := rfl
  have permits := inv.permits
  have room := inv.room
  constructor
  · simp only [permitsHeld, rentOut, setRent, permits_ended] at *
    omega
  · simp only [creationsUnderWay, rentOut, setRent, creations_ended] at *
    omega

/-- A creation that succeeds takes the place it was begun for. -/
theorem conserved_register (permits : s.semaphore + s.permitsHeld = s.maxInterpreters)
    (room : s.allInterpreters.length + s.creationsUnderWay < s.maxInterpreters) : s.register.Conserved := by
  refine ⟨permits, ?_⟩
  simp only [creationsUnderWay, register, List.length_append, List.length_singleton] at room ⊢
  omega

theorem rents_of_getD (there : s.rents.getD rent .ended = phase) (left : phase ≠ .ended) : s.rents[rent]? = some phase := by
  rw [List.getD_eq_getElem?_getD] at there
  cases found : s.rents[rent]? with
  | none => exact absurd (by simpa [found] using there.symm) left
  | some other => simpa [found] using there

theorem conserved_rentStep (inv : s.Conserved) {event : RentEvent} (accounted : s.Accounted (.rent rent event)) :
    (s.rentStep rent (s.rents.getD rent .ended) event).Conserved := by
  unfold rentStep
  split
  · next waiting =>
    split
    · exact inv
    · next free =>
      have permits := inv.permits
      have after : Conserved ({ s with semaphore := s.semaphore - 1 }.setRent rent .acquired) := by
        refine conserved_setRent (rents_of_getD waiting (by simp)) ?_ inv.room
        simp only [permitsHeld, RentPhase.permits] at *
        omega
      exact after
  · next waiting =>
    have full : (s.setRent rent .ended).semaphore = (s.setRent rent .ended).maxInterpreters := accounted waiting
    rw [release_of_max full]
    exact conserved_setRent (rents_of_getD waiting (by simp)) inv.permits inv.room
  · next acquired =>
    have found := rents_of_getD acquired (by simp)
    unfold resume
    split
    · next interpreter rest queue =>
      exact conserved_rentOut (s := { s with availableInterpreters := rest }) ⟨inv.permits, inv.room⟩ found rfl interpreter
    · next empty =>
      split
      · next room =>
        have place : s.HasRoom 1 := accounted acquired empty room
        exact conserved_setRent found (congrArg (· + 1) inv.permits) place
      · exact conserved_setRent found (congrArg (· + 1) inv.permits) inv.room
  · next succeeds creating =>
    have found := rents_of_getD creating (by simp)
    split
    · have held := total_set found RentPhase.permits (.created s.nextId)
      have under_way := total_set found RentPhase.creations (.created s.nextId)
      have permits := inv.permits
      have room := inv.room
      refine conserved_register (s := s.setRent rent (.created s.nextId)) ?_ ?_
      · simp only [permitsHeld, setRent, RentPhase.permits] at *
        omega
      · simp only [creationsUnderWay, setRent, RentPhase.creations] at *
        omega
    · exact (conserved_giveUp inv found rfl).1
  · next interpreter created => exact conserved_rentOut inv (rents_of_getD created (by simp)) rfl interpreter
  · next polling =>
    split
    · exact inv
    · next interpreter rest queue =>
      exact conserved_rentOut (s := { s with availableInterpreters := rest }) ⟨inv.permits, inv.room⟩ (rents_of_getD polling (by simp)) rfl
        interpreter
  · next polling =>
    split
    · next empty =>
      obtain ⟨given_back, semaphore, maximum⟩ := conserved_giveUp inv (rents_of_getD polling (by simp)) rfl
      -- The second release does nothing where the call held the only permit.
      rw [release_of_max (semaphore.trans ((accounted polling empty).trans maximum.symm))]
      exact given_back
    · exact inv
  · next polling => exact (conserved_giveUp inv (rents_of_getD polling (by simp)) rfl).1
  · exact inv

/-! ## Rentals -/

/-- A rental that is returned gives back its permit. -/
theorem conserved_dispose (inv : s.Conserved) {rental : Nat} {healthy : Bool} (accounted : s.Accounted (.dispose rental healthy)) :
    (s.dispose rental healthy).Conserved := by
  unfold dispose
  cases found : s.rentals[rental]? with
  | none => exact inv
  | some r =>
    cases is_open : r.isDisposed with
    | true => simpa [is_open] using inv
    | false =>
      have held := total_modify found RentedInterpreter.permits fun r => { r with isDisposed := true }
      have none_begun : total Replacement.creations [({ interpreter := r.interpreter } : Replacement)] = 0 := rfl
      have permits := inv.permits
      have room := inv.room
      have kept : r.interpreter ∈ (s.setDisposed rental).allInterpreters := accounted r found is_open
      simp only [RentedInterpreter.permits, is_open, Bool.false_eq_true, ↓reduceIte] at held
      simp only [is_open, Bool.false_eq_true, ↓reduceIte, returnInterpreter, kept]
      cases healthy with
      | true =>
        refine (conserved_release ?_ ?_).1
        · simp only [permitsHeld, setDisposed, ↓reduceIte] at *
          omega
        · simp only [creationsUnderWay, setDisposed, ↓reduceIte] at *
          omega
      | false =>
        refine (conserved_release ?_ ?_).1
        · simp only [permitsHeld, setDisposed, Bool.false_eq_true, ↓reduceIte] at *
          omega
        · simp only [creationsUnderWay, setDisposed, Bool.false_eq_true, ↓reduceIte, total_append] at *
          omega

theorem setDisposed_of_given_back {rental : Nat} (given_back : s.IsGivenBack rental) : s.setDisposed rental = s := by
  have same : (s.rentals.modify rental fun r => { r with isDisposed := true }) = s.rentals := by
    refine List.ext_getElem? fun i => ?_
    rw [List.getElem?_modify]
    cases found : s.rentals[i]? with
    | none => rfl
    | some r =>
      by_cases here : rental = i
      · subst here
        have disposed := given_back r found
        cases r
        simp only at disposed
        simp [disposed]
      · simp [here]
  unfold setDisposed
  rw [same]

/-- To force back what was given back changes nothing. -/
theorem foldl_forceReturn {rentals : List Nat} (given_back : ∀ rental ∈ rentals, s.IsGivenBack rental) : rentals.foldl forceReturn s = s := by
  induction rentals with
  | nil => rfl
  | cons rental rest ih =>
    rw [List.foldl_cons, forceReturn, setDisposed_of_given_back (given_back rental List.mem_cons_self)]
    exact ih fun other there => given_back other (List.mem_cons_of_mem rental there)

/-! ## Creations of the pool -/

theorem conserved_initializeAsync (permits : s.semaphore + s.permitsHeld = s.maxInterpreters)
    (room : s.allInterpreters.length + s.creationsUnderWay ≤ s.maxInterpreters)
    (accounted : s.isInitialized = false → s.HasRoom (min 2 s.maxInterpreters)) : s.initializeAsync.Conserved := by
  unfold initializeAsync
  split
  · exact ⟨permits, room⟩
  · next first =>
    have place := accounted (by simpa using first)
    have begun : total Initialization.creating [({ creating := min 2 s.maxInterpreters } : Initialization)] = min 2 s.maxInterpreters := by
      simp [total]
    refine ⟨permits, ?_⟩
    simp only [HasRoom, creationsUnderWay, total_append, begun] at place ⊢
    omega

theorem conserved_initializeCreates (inv : s.Conserved) (call : Nat) (succeeds : Bool) : (s.initializeCreates call succeeds).Conserved := by
  unfold initializeCreates
  split
  · exact inv
  · next initialization found =>
    split
    · exact inv
    · next left =>
      let after : Initialization := { creating := initialization.creating - 1, failed := initialization.failed || !succeeds }
      have creations := total_set found Initialization.creating after
      have := inv.room
      simp only [after] at creations
      split
      · refine conserved_register inv.permits ?_
        simp only [creationsUnderWay] at *
        omega
      · refine ⟨inv.permits, ?_⟩
        simp only [creationsUnderWay] at *
        omega

theorem conserved_replace (inv : s.Conserved) {replacement : Nat} {raises : Bool} (accounted : s.Accounted (.replace replacement raises)) :
    (s.replace replacement raises).Conserved := by
  have := inv.room
  unfold replace
  split
  · next interpreter found =>
    have creations (phase : ReplacementPhase) := total_set found Replacement.creations { interpreter, phase }
    have none_yet : Replacement.creations { interpreter, phase := .started } = 0 := rfl
    have none_left : Replacement.creations { interpreter, phase := .ended } = 0 := rfl
    have one_begun : Replacement.creations { interpreter, phase := .creating } = 1 := rfl
    have ends := creations .ended
    have begins := creations .creating
    cases raises with
    | true =>
      refine ⟨inv.permits, ?_⟩
      simp only [creationsUnderWay, ↓reduceIte] at *
      omega
    | false =>
      have fewer : (s.allInterpreters.erase interpreter).length ≤ s.allInterpreters.length := List.length_erase_le
      simp only [Bool.false_eq_true, ↓reduceIte]
      split
      · next room =>
        have place := accounted interpreter found room
        refine ⟨inv.permits, ?_⟩
        simp only [HasRoom, creationsUnderWay] at *
        omega
      · refine ⟨inv.permits, ?_⟩
        simp only [creationsUnderWay] at *
        omega
  · exact inv

theorem conserved_replacementCreates (inv : s.Conserved) (replacement : Nat) (succeeds : Bool) :
    (s.replacementCreates replacement succeeds).Conserved := by
  have := inv.room
  unfold replacementCreates
  split
  · next interpreter found =>
    have creations := total_set found Replacement.creations { interpreter, phase := .ended }
    have one_begun : Replacement.creations { interpreter, phase := .creating } = 1 := rfl
    have none_left : Replacement.creations { interpreter, phase := .ended } = 0 := rfl
    dsimp only
    split
    · refine conserved_register inv.permits ?_
      simp only [creationsUnderWay] at *
      omega
    · refine ⟨inv.permits, ?_⟩
      simp only [creationsUnderWay] at *
      omega
  · exact inv

theorem conserved_step (inv : s.Conserved) (event : Event) (accounted : s.Accounted event) : (s.step event).Conserved := by
  cases event with
  | initializeAsync => exact conserved_initializeAsync inv.permits inv.room accounted
  | initializeCreates call succeeds => exact conserved_initializeCreates inv call succeeds
  | initialized call =>
    simp only [step, initialized]
    split
    · exact ⟨inv.permits, inv.room⟩
    · exact inv
  | rentAsync =>
    simp only [step, rentAsync]
    split
    · have begun : total RentPhase.permits [.waiting] = 0 ∧ total RentPhase.creations [.waiting] = 0 := ⟨rfl, rfl⟩
      refine ⟨?_, ?_⟩
      · simpa [permitsHeld, total_append, begun] using inv.permits
      · simpa [creationsUnderWay, total_append, begun] using inv.room
    · exact inv
  | rent call event => exact conserved_rentStep inv accounted
  | dispose rental healthy => exact conserved_dispose inv accounted
  | replace replacement raises => exact conserved_replace inv accounted
  | replacementCreates replacement succeeds => exact conserved_replacementCreates inv replacement succeeds
  | resetForces =>
    simp only [step, resetForces, foldl_forceReturn accounted]
    exact ⟨inv.permits, inv.room⟩
  | resetClears =>
    simp only [step, resetClears]
    split
    · exact inv
    · next resetting =>
      refine conserved_initializeAsync inv.permits ?_ (accounted resetting)
      have := inv.room
      simp only [creationsUnderWay, List.length_nil] at *
      omega
  | performCleanup stale =>
    simp only [step, performCleanup]
    split
    · next initialized =>
      rw [foldl_forceReturn]
      · exact inv
      · intro rental there
        exact accounted initialized rental (List.mem_filter.mp there).1 (List.mem_filter.mp there).2
    · exact inv

/-- While permits are given back by those that hold them and creations begin where places are free,
    no permit gets lost and the pool does not grow beyond its size. -/
theorem permitsConserved_of_accounted (maxInterpreters : Nat) (events : List Event)
    (accounted : Along step Accounted (new maxInterpreters) events) : Throughout step PermitsConserved (new maxInterpreters) events := by
  have start : (new maxInterpreters).Conserved := ⟨rfl, Nat.zero_le _⟩
  exact throughout_mono (fun _ => permitsConserved_of_conserved)
    (throughout_keeps (fun _ event inv => conserved_step inv event) start accounted)

/-- A wait that is cancelled before the first rental, one rental and its return, and a replacement. -/
theorem permits_conserved_replaced : Throughout step PermitsConserved (new 1)
    [.initializeAsync, .initializeCreates 0 true, .initialized 0, .rentAsync, .rent 0 .waitEnds, .rentAsync, .rent 1 .acquire,
      .rent 1 .resume, .dispose 0 false, .replace 0 false, .replacementCreates 0 true] := by
  refine permitsConserved_of_accounted 1 _ ?_
  refine ⟨fun _ => ?_, trivial, trivial, trivial, fun _ => rfl, trivial, trivial, ?_, ?_, ?_, trivial, trivial⟩
  · exact Nat.le_refl 1
  · exact fun _ empty => absurd empty (by decide)
  · intro r found _
    obtain rfl : ({ interpreter := 0 } : RentedInterpreter) = r := Option.some.inj found
    decide
  · intro interpreter found _
    obtain rfl : 0 = interpreter := congrArg Replacement.interpreter (Option.some.inj found)
    exact Nat.le_refl 1

/-- A second call waits for the only permit until its time is over. -/
theorem permit_from_nowhere : ¬Throughout step PermitsConserved (new 1)
    [.initializeAsync, .initializeCreates 0 true, .initialized 0, .rentAsync, .rent 0 .acquire, .rent 0 .resume,
      .rentAsync, .rent 1 .waitEnds] := by
  intro throughout
  have permits := (throughout_last throughout).permits
  revert permits
  decide

end PythonInterpreterPool
end RevitPy.Runtime
