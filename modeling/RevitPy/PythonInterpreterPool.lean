import RevitPy.Dict

/-!
# The pool of Python interpreters

A rental takes a permit of the semaphore, then an interpreter: from the queue of the
available ones, a new one where the pool is not full, or the next one that is returned.
Everything between two awaits happens at once, so each await of a task is a phase.
-/

namespace RevitPy.Runtime

structure RentedInterpreter where
  interpreter : Nat
  isDisposed : Bool := false

/-- Where a call of `RentAsync` stands. -/
inductive RentPhase
  | waiting
  | acquired
  | creating
  | created (interpreter : Nat)
  | polling
  | ended

/-- The creations that a call of `InitializeAsync` still awaits, and whether one failed. -/
structure Initialization where
  creating : Nat
  failed : Bool := false

inductive ReplacementPhase
  | started | creating | ended

/-- The background task that replaces an unhealthy interpreter. -/
structure Replacement where
  interpreter : Nat
  phase : ReplacementPhase := .started

structure PythonInterpreterPool where
  maxInterpreters : Nat
  isInitialized : Bool := false
  /-- The free permits. -/
  semaphore : Nat
  availableInterpreters : List Nat := []
  allInterpreters : List Nat := []
  /-- From the interpreter to the place of its rental. -/
  rentedInterpreters : Dict Nat Nat := ∅
  rentals : List RentedInterpreter := []
  rents : List RentPhase := []
  initializations : List Initialization := []
  replacements : List Replacement := []
  /-- The calls of `ResetPoolAsync` that are disposing the interpreters. -/
  resets : Nat := 0
  /-- The identifiers given so far are those below. -/
  nextId : Nat := 0

namespace PythonInterpreterPool

/-- The pool as it is constructed. -/
def new (maxInterpreters : Nat) : PythonInterpreterPool := { maxInterpreters, semaphore := maxInterpreters }

variable (s : PythonInterpreterPool)

/-- A release at the maximum raises and leaves the permits as they are. -/
def release : PythonInterpreterPool :=
  if s.semaphore < s.maxInterpreters then { s with semaphore := s.semaphore + 1 } else s

/-- `CreateInterpreterAsync` once the interpreter has been initialized. -/
def register : PythonInterpreterPool :=
  { s with
    allInterpreters := s.allInterpreters ++ [s.nextId]
    availableInterpreters := s.availableInterpreters ++ [s.nextId]
    nextId := s.nextId + 1 }

def initializeAsync : PythonInterpreterPool :=
  if s.isInitialized then s
  else { s with initializations := s.initializations ++ [({ creating := min 2 s.maxInterpreters } : Initialization)] }

/-- One creation of an initialization ends. -/
def initializeCreates (call : Nat) (succeeds : Bool) : PythonInterpreterPool := match s.initializations[call]? with
  | none => s
  | some initialization =>
    if initialization.creating = 0 then s
    else
      let after : Initialization := { creating := initialization.creating - 1, failed := initialization.failed || !succeeds }
      let s := { s with initializations := s.initializations.set call after }
      if succeeds then s.register else s

/-- An initialization goes on when all its creations have ended. -/
def initialized (call : Nat) : PythonInterpreterPool := match s.initializations[call]? with
  | some { creating := 0, failed := false } => { s with isInitialized := true }
  | _ => s

def rentAsync : PythonInterpreterPool := if s.isInitialized then { s with rents := s.rents ++ [.waiting] } else s

def setRent (rent : Nat) (phase : RentPhase) : PythonInterpreterPool := { s with rents := s.rents.set rent phase }

/-- The end of `RentAsync`: the rental wrapper is made and recorded. -/
def rentOut (rent interpreter : Nat) : PythonInterpreterPool :=
  { s.setRent rent .ended with
    rentals := s.rentals ++ [({ interpreter } : RentedInterpreter)]
    rentedInterpreters := s.rentedInterpreters.set interpreter s.rentals.length }

/-- What a call of `RentAsync` does after it got its permit. -/
def resume (rent : Nat) : PythonInterpreterPool := match s.availableInterpreters with
  | interpreter :: rest => { s with availableInterpreters := rest }.rentOut rent interpreter
  | [] =>
    if s.allInterpreters.length < s.maxInterpreters then s.setRent rent .creating
    else s.setRent rent .polling

/-- `ReturnInterpreter`, for an interpreter that is initialized and not busy or is to be replaced. -/
def returnInterpreter (interpreter : Nat) (healthy : Bool) : PythonInterpreterPool :=
  if interpreter ∈ s.allInterpreters then
    let s := { s with rentedInterpreters := s.rentedInterpreters.erase interpreter }
    let s := if healthy then { s with availableInterpreters := s.availableInterpreters ++ [interpreter] }
      else { s with replacements := s.replacements ++ [({ interpreter } : Replacement)] }
    s.release
  else s

def setDisposed (rental : Nat) : PythonInterpreterPool :=
  { s with rentals := s.rentals.modify rental fun r => { r with isDisposed := true } }

def dispose (rental : Nat) (healthy : Bool) : PythonInterpreterPool := match s.rentals[rental]? with
  | none => s
  | some r => if r.isDisposed then s else (s.setDisposed rental).returnInterpreter r.interpreter healthy

def forceReturn (rental : Nat) : PythonInterpreterPool := s.setDisposed rental

/-- The replacement's task up to its await. An interpreter whose disposal raises is kept. -/
def replace (replacement : Nat) (raises : Bool) : PythonInterpreterPool := match s.replacements[replacement]? with
  | some { interpreter, phase := .started } =>
    if raises then { s with replacements := s.replacements.set replacement { interpreter, phase := .ended } }
    else
      let s := { s with allInterpreters := s.allInterpreters.erase interpreter }
      if s.allInterpreters.length < s.maxInterpreters then
        { s with replacements := s.replacements.set replacement { interpreter, phase := .creating } }
      else { s with replacements := s.replacements.set replacement { interpreter, phase := .ended } }
  | _ => s

def replacementCreates (replacement : Nat) (succeeds : Bool) : PythonInterpreterPool := match s.replacements[replacement]? with
  | some { interpreter, phase := .creating } =>
    let s := { s with replacements := s.replacements.set replacement { interpreter, phase := .ended } }
    if succeeds then s.register else s
  | _ => s

/-- `ResetPoolAsync` when no rental is left or its wait is over. -/
def resetForces : PythonInterpreterPool :=
  { s.rentedInterpreters.values.foldl forceReturn s with resets := s.resets + 1 }

def resetClears : PythonInterpreterPool :=
  if s.resets = 0 then s
  else { s with availableInterpreters := [], allInterpreters := [], rentedInterpreters := ∅, resets := s.resets - 1 }.initializeAsync

/-- The rentals are stale that were made too long ago. -/
def performCleanup (stale : Nat → Bool) : PythonInterpreterPool :=
  if s.isInitialized then (s.rentedInterpreters.values.filter stale).foldl forceReturn s else s

/-- How a call of `RentAsync` goes on. -/
inductive RentEvent
  /-- The call gets a permit. -/
  | acquire
  /-- The wait for a permit times out or is cancelled. -/
  | waitEnds
  | resume
  | creates (succeeds : Bool)
  /-- The call goes on with the interpreter created for it. -/
  | handOver
  | pollDequeues
  | pollTimesOut
  | pollCancelled

def rentStep (rent : Nat) : RentPhase → RentEvent → PythonInterpreterPool
  | .waiting, .acquire => if s.semaphore = 0 then s else { s.setRent rent .acquired with semaphore := s.semaphore - 1 }
  | .waiting, .waitEnds => (s.setRent rent .ended).release
  | .acquired, .resume => s.resume rent
  | .creating, .creates succeeds =>
    if succeeds then s.register.setRent rent (.created s.nextId) else (s.setRent rent .ended).release
  | .created interpreter, .handOver => s.rentOut rent interpreter
  | .polling, .pollDequeues => match s.availableInterpreters with
    | [] => s
    | interpreter :: rest => { s with availableInterpreters := rest }.rentOut rent interpreter
  -- The permit is released before the exception is thrown and again where it is caught.
  | .polling, .pollTimesOut => if s.availableInterpreters = [] then (s.setRent rent .ended).release.release else s
  | .polling, .pollCancelled => (s.setRent rent .ended).release
  | _, _ => s

inductive Event
  | initializeAsync
  | initializeCreates (call : Nat) (succeeds : Bool)
  | initialized (call : Nat)
  | rentAsync
  | rent (call : Nat) (event : RentEvent)
  | dispose (rental : Nat) (healthy : Bool)
  | replace (replacement : Nat) (raises : Bool)
  | replacementCreates (replacement : Nat) (succeeds : Bool)
  | resetForces
  | resetClears
  | performCleanup (stale : Nat → Bool)

def step : Event → PythonInterpreterPool
  | .initializeAsync => s.initializeAsync
  | .initializeCreates call succeeds => s.initializeCreates call succeeds
  | .initialized call => s.initialized call
  | .rentAsync => s.rentAsync
  | .rent call event => s.rentStep call (s.rents.getD call .ended) event
  | .dispose rental healthy => s.dispose rental healthy
  | .replace replacement raises => s.replace replacement raises
  | .replacementCreates replacement succeeds => s.replacementCreates replacement succeeds
  | .resetForces => s.resetForces
  | .resetClears => s.resetClears
  | .performCleanup stale => s.performCleanup stale

end PythonInterpreterPool
end RevitPy.Runtime
