import Mathlib.Logic.Function.Basic
import Mathlib.Data.List.Nodup
import RevitPy.Runs

/-!
# Cancellation tokens

A token that is cancelled calls its callbacks, and a callback may register callbacks, cancel
tokens and combine tokens in turn. The calls that have not returned lie on a stack: a step
belongs to the innermost one, and where that is a callback, or where nothing is running, it is
any step that other code can take.
-/

namespace RevitPy.CancellationTokens

/-- A callback: code from outside, or the function that `combine_tokens` registers. -/
inductive Callback
  | outside
  | check_cancellation (tokens : List Nat) (combined : Nat)
  deriving DecidableEq

/-- A call of `register_callback`, with its number. -/
structure Registration where
  number : Nat
  token : Nat
  callback : Callback
  deriving DecidableEq

/-- Token that can be used to signal cancellation of async operations. -/
structure CancellationToken where
  _is_cancelled : Bool := false
  _callbacks : List Registration := []
  _reason : Option String := none

/-- How a callback ends: what is not an `Exception` goes through the code that called it. -/
inductive CallbackEnd
  | returned
  | Exception
  | BaseException
  deriving DecidableEq

/-- A call that has not returned. -/
inductive Frame
  | outside
  /-- The loop of `_cancel`, before the callback at an index. -/
  | cancelling (token : Nat) (index : Nat)
  /-- The loop of `check_cancellation`, with the tokens that are left. -/
  | checking (left : List Nat) (combined : Nat)
  /-- The loop of `combine_tokens`, with the tokens that are left. -/
  | combining (left tokens : List Nat) (combined : Nat)
  deriving DecidableEq

inductive Action
  | create
  | register_callback (token : Nat)
  | cancel (token : Nat) (reason : Option String)
  | combine_tokens (tokens : List Nat)
  | finish (how : CallbackEnd)
  /-- A step of the code of this module. -/
  | go
  deriving DecidableEq

/-- The tokens, the calls that have not returned, and what has happened so far. -/
structure System where
  tokens : Nat → CancellationToken := fun _ => {}
  created : Nat := 0
  stack : List Frame := []
  registered : List Registration := []
  ran : List Registration := []
  combined : List (List Nat × Nat) := []
  /-- The tokens that other code has cancelled. -/
  asked : List Nat := []

/-- The loops of `_cancel` that have not ended: their tokens, and how far they are. -/
def loops : List Frame → List (Nat × Nat)
  | [] => []
  | .cancelling t index :: rest => (t, index) :: loops rest
  | _ :: rest => loops rest

namespace System
variable (s : System)

def update (t : Nat) (token : CancellationToken) : System := { s with tokens := Function.update s.tokens t token }

def push (frame : Frame) : System := { s with stack := frame :: s.stack }

/-- A callback is called. -/
def call (r : Registration) : System :=
  match r.callback with
  | .outside => { s with ran := s.ran ++ [r] }.push .outside
  | .check_cancellation tokens combined => { s with ran := s.ran ++ [r] }.push (.checking tokens combined)

/-- Register a callback to be called when cancellation is requested. -/
def register_callback (t : Nat) (callback : Callback) : System :=
  let r : Registration := ⟨s.registered.length, t, callback⟩
  let s := { s with registered := s.registered ++ [r] }
  if (s.tokens t)._is_cancelled then s.call r
  else s.update t { s.tokens t with _callbacks := (s.tokens t)._callbacks ++ [r] }

/-- Internal method to cancel the token. -/
def _cancel (t : Nat) (reason : Option String) : System :=
  if (s.tokens t)._is_cancelled then s
  else (s.update t { s.tokens t with _is_cancelled := true, _reason := reason }).push (.cancelling t 0)

/-- Combine multiple cancellation tokens into one. -/
def combine_tokens (tokens : List Nat) : System :=
  { s with
    created := s.created + 1
    combined := s.combined ++ [(tokens, s.created)] }.push (.combining tokens tokens s.created)

/-- An exception that none of the calls of this module catches goes on to the code outside. -/
def unwind : List Frame → List Frame
  | [] => []
  | .outside :: rest => .outside :: rest
  | _ :: rest => unwind rest

/-- Code from outside goes on. -/
def outside_step : Action → System
  | .create => { s with created := s.created + 1 }
  | .register_callback t => if t < s.created then s.register_callback t .outside else s
  | .cancel t reason => if t < s.created then { s with asked := s.asked ++ [t] }._cancel t reason else s
  | .combine_tokens tokens => if ∀ t ∈ tokens, t < s.created then s.combine_tokens tokens else s
  | .finish .BaseException => { s with stack := unwind s.stack.tail }
  | .finish _ => { s with stack := s.stack.tail }
  | .go => s

/-- The reason that `check_cancellation` gives. -/
def because (reason : Option String) : String := "Combined token cancelled due to: " ++ reason.getD "None"

def step : Action → System
  | .go =>
    match s.stack with
    | .cancelling t index :: rest =>
      match (s.tokens t)._callbacks[index]? with
      | some r => { s with stack := .cancelling t (index + 1) :: rest }.call r
      | none => { s with stack := rest }.update t { s.tokens t with _callbacks := [] }
    | .checking [] _ :: rest => { s with stack := rest }
    | .checking (t :: left) combined :: rest =>
      if (s.tokens t)._is_cancelled then { s with stack := rest }._cancel combined (some (because (s.tokens t)._reason))
      else { s with stack := .checking left combined :: rest }
    | .combining [] tokens combined :: rest => { s with stack := .checking tokens combined :: rest }
    | .combining (t :: left) tokens combined :: rest =>
      { s with stack := .combining left tokens combined :: rest }.register_callback t (.check_cancellation tokens combined)
    | _ => s
  | action => if s.stack.head?.all (· = .outside) then s.outside_step action else s

/-! ## What holds of the callbacks that have run -/

/-- The call of `_cancel` that has cancelled a token has not returned. -/
def Cancelling (t : Nat) : Prop := ∃ index, (t, index) ∈ loops s.stack

/-- Every registered callback runs once when its token is cancelled, and never otherwise; a
    combined token is cancelled with its tokens. -/
structure Good : Prop where
  numbered : (s.registered.map Registration.number).Nodup
  never_twice : ∀ r, s.ran.count r ≤ 1
  never_otherwise : ∀ r ∈ s.ran, r ∈ s.registered ∧ (s.tokens r.token)._is_cancelled
  once : ∀ r ∈ s.registered, (s.tokens r.token)._is_cancelled → ¬ s.Cancelling r.token → s.ran.count r = 1
  combined : s.stack = [] → ∀ tokens combined, (tokens, combined) ∈ s.combined → combined ∉ s.asked →
    ((s.tokens combined)._is_cancelled ↔ ∃ t ∈ tokens, (s.tokens t)._is_cancelled)

/-- The callback of a registration has still to be run, if the token is cancelled. -/
def Waits (r : Registration) : Prop :=
  ((s.tokens r.token)._is_cancelled = false ∧ r ∈ (s.tokens r.token)._callbacks) ∨
    ∃ index, (r.token, index) ∈ loops s.stack ∧ r ∈ (s.tokens r.token)._callbacks.drop index

/-- The invariant of the calls. The registrations that are due are called next. -/
structure Settled (s : System) (due : List Registration) : Prop where
  numbers : s.registered.map Registration.number = List.range s.registered.length
  kept : ∀ t, ∀ r ∈ (s.tokens t)._callbacks, r ∈ s.registered ∧ r.token = t
  distinct : ∀ t, (s.tokens t)._callbacks.Nodup
  cancelled : ∀ entry ∈ loops s.stack, (s.tokens entry.1)._is_cancelled
  one_loop : ((loops s.stack).map Prod.fst).Nodup
  ran_once : s.ran.Nodup
  ran_cancelled : ∀ r ∈ s.ran, r ∈ s.registered ∧ (s.tokens r.token)._is_cancelled
  settled : ∀ r ∈ s.registered, r ∈ s.ran ∨ s.Waits r ∨ r ∈ due
  ran_settled : ∀ r ∈ s.ran, ¬ s.Waits r
  due_cancelled : ∀ r ∈ due, r ∈ s.registered ∧ r ∉ s.ran ∧ ¬ s.Waits r ∧ (s.tokens r.token)._is_cancelled

/-- The invariant of the combined tokens. -/
structure Joined (s : System) : Prop where
  known : ∀ r ∈ s.registered, ∀ tokens combined, r.callback = .check_cancellation tokens combined →
    (tokens, combined) ∈ s.combined ∧ r.token ∈ tokens
  checking : ∀ left combined, .checking left combined ∈ s.stack → ∃ tokens, (tokens, combined) ∈ s.combined ∧ left ⊆ tokens
  combining : ∀ left tokens combined, .combining left tokens combined ∈ s.stack → (tokens, combined) ∈ s.combined ∧ left ⊆ tokens
  complete : ∀ tokens combined, (tokens, combined) ∈ s.combined → ∀ t ∈ tokens,
    (∃ r ∈ s.registered, r.token = t ∧ r.callback = .check_cancellation tokens combined) ∨
      ∃ left, .combining left tokens combined ∈ s.stack ∧ t ∈ left
  fresh : ∀ tokens combined, (tokens, combined) ∈ s.combined → combined < s.created
  unique : ∀ tokens others combined, (tokens, combined) ∈ s.combined → (others, combined) ∈ s.combined → tokens = others
  answered : ∀ r ∈ s.ran, ∀ tokens combined, r.callback = .check_cancellation tokens combined →
    (s.tokens combined)._is_cancelled ∨ ∃ left, .checking left combined ∈ s.stack ∧ ∃ t ∈ left, (s.tokens t)._is_cancelled
  origin : ∀ t, (s.tokens t)._is_cancelled → t ∈ s.asked ∨ ∃ tokens, (tokens, t) ∈ s.combined ∧ ∃ u ∈ tokens, (s.tokens u)._is_cancelled

/-! ## What the calls keep -/

variable {s} {due : List Registration} {t : Nat}

@[simp] theorem update_self (s : System) (t : Nat) (token : CancellationToken) : (s.update t token).tokens t = token :=
  Function.update_self ..

@[simp] theorem update_stack (s : System) (t : Nat) (token : CancellationToken) : (s.update t token).stack = s.stack := rfl

theorem update_of_ne (s : System) (token : CancellationToken) {u : Nat} (other : u ≠ t) : (s.update t token).tokens u = s.tokens u :=
  Function.update_of_ne other ..

/-- A change to the callbacks of a token cancels nothing. -/
theorem update_callbacks_is_cancelled (s : System) (t : Nat) (callbacks : List Registration) (u : Nat) :
    ((s.update t { s.tokens t with _callbacks := callbacks }).tokens u)._is_cancelled = (s.tokens u)._is_cancelled := by
  by_cases same : u = t
  · rw [same, update_self]
  · rw [update_of_ne s _ same]

/-- A registration goes to the end of the list of its token. -/
def enlist (s : System) (r : Registration) : System :=
  ({ s with registered := s.registered ++ [r] } : System).update r.token
    { s.tokens r.token with _callbacks := (s.tokens r.token)._callbacks ++ [r] }

theorem enlist_is_cancelled (s : System) (r : Registration) (u : Nat) :
    ((s.enlist r).tokens u)._is_cancelled = (s.tokens u)._is_cancelled :=
  update_callbacks_is_cancelled { s with registered := s.registered ++ [r] } r.token _ u

theorem enlist_callbacks (s : System) (r : Registration) (u : Nat) :
    ((s.enlist r).tokens u)._callbacks = (s.tokens u)._callbacks ++ if u = r.token then [r] else [] := by
  unfold enlist
  by_cases same : u = r.token
  · simp [same]
  · rw [update_of_ne _ _ same]
    simp [same]

theorem waits_congr {s' : System} (tokens : s'.tokens = s.tokens) (same : loops s'.stack = loops s.stack) (r : Registration) :
    s'.Waits r ↔ s.Waits r := by
  unfold Waits
  rw [tokens, same]

theorem Settled.same {s' : System} (settled : s.Settled due) (tokens : s'.tokens = s.tokens) (registered : s'.registered = s.registered)
    (ran : s'.ran = s.ran) (same : loops s'.stack = loops s.stack) : s'.Settled due := by
  have waits := waits_congr tokens same
  constructor
  · rw [registered]; exact settled.numbers
  · rw [tokens, registered]; exact settled.kept
  · rw [tokens]; exact settled.distinct
  · rw [tokens, same]; exact settled.cancelled
  · rw [same]; exact settled.one_loop
  · rw [ran]; exact settled.ran_once
  · rw [tokens, registered, ran]; exact settled.ran_cancelled
  · simp only [registered, ran, waits]; exact settled.settled
  · simp only [ran, waits]; exact settled.ran_settled
  · simp only [registered, ran, waits, tokens]; exact settled.due_cancelled

/-- A callback that is due is called. -/
theorem Settled.call {r : Registration} (settled : s.Settled [r]) : (s.call r).Settled [] := by
  obtain ⟨registered, unrun, unwaiting, cancelled⟩ := settled.due_cancelled r (by simp)
  have ran : ({ s with ran := s.ran ++ [r] } : System).Settled [] := by
    have waits : ∀ q, ({ s with ran := s.ran ++ [r] } : System).Waits q ↔ s.Waits q := waits_congr rfl rfl
    refine ⟨settled.numbers, settled.kept, settled.distinct, settled.cancelled, settled.one_loop, ?_, ?_, ?_, ?_, by simp⟩
    · exact List.nodup_append.mpr ⟨settled.ran_once, by simp, by rintro a member b last rfl; simp at last; exact unrun (last ▸ member)⟩
    · intro q member
      rcases List.mem_append.mp member with earlier | now
      · exact settled.ran_cancelled q earlier
      · rw [List.mem_singleton.mp now]
        exact ⟨registered, cancelled⟩
    · intro q member
      simp only [waits, List.mem_append]
      rcases settled.settled q member with earlier | waiting | now
      · exact .inl (.inl earlier)
      · exact .inr (.inl waiting)
      · exact .inl (.inr now)
    · intro q member
      simp only [waits]
      rcases List.mem_append.mp member with earlier | now
      · exact settled.ran_settled q earlier
      · rw [List.mem_singleton.mp now]
        exact unwaiting
  unfold System.call
  split
  · exact ran.same rfl rfl rfl rfl
  · exact ran.same rfl rfl rfl rfl

theorem Settled.waits_registered {r : Registration} (settled : s.Settled due) (waits : s.Waits r) : r ∈ s.registered := by
  rcases waits with ⟨-, member⟩ | ⟨index, -, member⟩
  · exact (settled.kept _ r member).1
  · exact (settled.kept _ r (List.mem_of_mem_drop member)).1

/-- The loops of other tokens than one that is not cancelled. -/
theorem Settled.not_looping (settled : s.Settled due) (uncancelled : (s.tokens t)._is_cancelled = false) (index : Nat) :
    (t, index) ∉ loops s.stack := by
  intro member
  have := settled.cancelled _ member
  simp [uncancelled] at this

/-- A registration that is new: it has not run, and does not wait. -/
theorem Settled.unknown {r : Registration} (settled : s.Settled []) (fresh : r ∉ s.registered) : r ∉ s.ran ∧ ¬ s.Waits r :=
  ⟨fun member => fresh (settled.ran_cancelled r member).1, fun waits => fresh (settled.waits_registered waits)⟩

/-- A callback that is registered on a cancelled token is due. -/
theorem Settled.register_due {r : Registration} (settled : s.Settled []) (fresh : r ∉ s.registered)
    (numbers : (s.registered ++ [r]).map Registration.number = List.range (s.registered ++ [r]).length)
    (cancelled : (s.tokens r.token)._is_cancelled) : ({ s with registered := s.registered ++ [r] } : System).Settled [r] := by
  obtain ⟨unrun, unwaiting⟩ := settled.unknown fresh
  have waits : ∀ q, ({ s with registered := s.registered ++ [r] } : System).Waits q ↔ s.Waits q := waits_congr rfl rfl
  refine ⟨numbers, ?_, settled.distinct, settled.cancelled, settled.one_loop, settled.ran_once, ?_, ?_, ?_, ?_⟩
  · intro u q member
    obtain ⟨known, owned⟩ := settled.kept u q member
    exact ⟨List.mem_append_left _ known, owned⟩
  · intro q member
    obtain ⟨known, set⟩ := settled.ran_cancelled q member
    exact ⟨List.mem_append_left _ known, set⟩
  · intro q member
    simp only [waits]
    rcases List.mem_append.mp member with earlier | now
    · rcases settled.settled q earlier with ran | waiting | due
      · exact .inl ran
      · exact .inr (.inl waiting)
      · cases due
    · exact .inr (.inr now)
  · intro q member
    simp only [waits]
    exact settled.ran_settled q member
  · intro q member
    cases List.mem_singleton.mp member
    simp only [waits]
    exact ⟨by simp, unrun, unwaiting, cancelled⟩

theorem Settled.waits_enlist {r : Registration} (settled : s.Settled []) (uncancelled : (s.tokens r.token)._is_cancelled = false)
    (q : Registration) : (s.enlist r).Waits q ↔ s.Waits q ∨ q = r := by
  unfold Waits
  rw [show (s.enlist r).stack = s.stack from rfl, enlist_is_cancelled, enlist_callbacks]
  by_cases same : q.token = r.token
  · simp only [same, uncancelled, settled.not_looping uncancelled]
    simp
  · have other : q ≠ r := fun equal => same (equal ▸ rfl)
    simp [same, other]

/-- A callback that is registered on a token that is not cancelled waits. -/
theorem Settled.register_waiting {r : Registration} (settled : s.Settled []) (fresh : r ∉ s.registered)
    (numbers : (s.registered ++ [r]).map Registration.number = List.range (s.registered ++ [r]).length)
    (uncancelled : (s.tokens r.token)._is_cancelled = false) : (s.enlist r).Settled [] := by
  obtain ⟨unrun, -⟩ := settled.unknown fresh
  have waits := settled.waits_enlist uncancelled
  refine ⟨numbers, ?_, ?_, ?_, settled.one_loop, settled.ran_once, ?_, ?_, ?_, by simp⟩
  · intro u q member
    rw [enlist_callbacks] at member
    rcases List.mem_append.mp member with earlier | now
    · obtain ⟨known, owned⟩ := settled.kept u q earlier
      exact ⟨List.mem_append_left _ known, owned⟩
    · split at now
      · rename_i same
        rw [List.mem_singleton.mp now]
        exact ⟨List.mem_append_right _ (by simp), same.symm⟩
      · cases now
  · intro u
    rw [enlist_callbacks]
    split
    · refine List.nodup_append.mpr ⟨settled.distinct u, by simp, ?_⟩
      rintro a member b last rfl
      exact fresh (List.mem_singleton.mp last ▸ (settled.kept u a member).1)
    · rw [List.append_nil]
      exact settled.distinct u
  · intro entry member
    rw [enlist_is_cancelled]
    exact settled.cancelled entry member
  · intro q member
    obtain ⟨known, set⟩ := settled.ran_cancelled q member
    rw [enlist_is_cancelled]
    exact ⟨List.mem_append_left _ known, set⟩
  · intro q member
    rw [waits]
    rcases List.mem_append.mp member with earlier | now
    · rcases settled.settled q earlier with ran | waiting | due
      · exact .inl ran
      · exact .inr (.inl (.inl waiting))
      · cases due
    · exact .inr (.inl (.inr (List.mem_singleton.mp now)))
  · intro q member
    rw [waits]
    rintro (waiting | rfl)
    · exact settled.ran_settled q member waiting
    · exact unrun member

theorem Settled.register_callback (settled : s.Settled []) (t : Nat) (callback : Callback) : (s.register_callback t callback).Settled [] := by
  unfold System.register_callback
  generalize made : (⟨s.registered.length, t, callback⟩ : Registration) = r
  have token : r.token = t := by rw [← made]
  have numbers : (s.registered ++ [r]).map Registration.number = List.range (s.registered ++ [r]).length := by
    simp [settled.numbers, List.range_succ, ← made]
  have fresh : r ∉ s.registered := by
    intro member
    have numbered : r.number ∈ s.registered.map Registration.number := List.mem_map_of_mem member
    simp [settled.numbers, ← made] at numbered
  dsimp only
  subst token
  by_cases cancelled : (s.tokens r.token)._is_cancelled
  · rw [if_pos cancelled]
    exact (settled.register_due fresh numbers cancelled).call
  · rw [if_neg cancelled]
    exact settled.register_waiting fresh numbers (by simpa using cancelled)

/-- A step that registers and runs nothing, and after which what waited still waits or is due. -/
theorem Settled.moves {s' : System} (settled : s.Settled []) (registered : s'.registered = s.registered) (ran : s'.ran = s.ran)
    (flags : ∀ u, (s.tokens u)._is_cancelled → (s'.tokens u)._is_cancelled)
    (callbacks : ∀ u, (s'.tokens u)._callbacks.Sublist (s.tokens u)._callbacks)
    (cancelled : ∀ entry ∈ loops s'.stack, (s'.tokens entry.1)._is_cancelled) (one_loop : ((loops s'.stack).map Prod.fst).Nodup)
    (waits : ∀ q, s.Waits q ↔ s'.Waits q ∨ q ∈ due) (unwaiting : ∀ q ∈ due, ¬ s'.Waits q ∧ (s'.tokens q.token)._is_cancelled) :
    s'.Settled due := by
  refine ⟨registered ▸ settled.numbers, ?_, ?_, cancelled, one_loop, ran ▸ settled.ran_once, ?_, ?_, ?_, ?_⟩
  · intro u q member
    rw [registered]
    exact settled.kept u q ((callbacks u).subset member)
  · exact fun u => (settled.distinct u).sublist (callbacks u)
  · intro q member
    rw [ran] at member
    rw [registered]
    exact ⟨(settled.ran_cancelled q member).1, flags _ (settled.ran_cancelled q member).2⟩
  · intro q member
    rw [registered] at member
    rw [ran]
    rcases settled.settled q member with ran | waiting | due
    · exact .inl ran
    · exact .inr ((waits q).mp waiting)
    · cases due
  · intro q member waiting
    rw [ran] at member
    exact settled.ran_settled q member ((waits q).mpr (.inl waiting))
  · intro q member
    rw [registered, ran]
    have waited : s.Waits q := (waits q).mpr (.inr member)
    exact ⟨settled.waits_registered waited, fun done => settled.ran_settled q done waited, unwaiting q member⟩

theorem Settled._cancel (settled : s.Settled []) (t : Nat) (reason : Option String) : (s._cancel t reason).Settled [] := by
  unfold System._cancel
  by_cases cancelled : (s.tokens t)._is_cancelled
  · rwa [if_pos cancelled]
  rw [if_neg cancelled]
  have uncancelled : (s.tokens t)._is_cancelled = false := by simpa using cancelled
  generalize after : (s.update t { s.tokens t with _is_cancelled := true, _reason := reason }).push (.cancelling t 0) = s'
  have at_token : s'.tokens t = { s.tokens t with _is_cancelled := true, _reason := reason } := by
    rw [← after]; exact Function.update_self ..
  have elsewhere : ∀ u, u ≠ t → s'.tokens u = s.tokens u := by
    intro u other
    rw [← after]; exact Function.update_of_ne other ..
  have looping : loops s'.stack = (t, 0) :: loops s.stack := by rw [← after]; rfl
  have flags : ∀ u, (s.tokens u)._is_cancelled → (s'.tokens u)._is_cancelled := by
    intro u set
    by_cases same : u = t
    · rw [same, at_token]
    · rwa [elsewhere u same]
  refine settled.moves (by rw [← after]; rfl) (by rw [← after]; rfl) flags ?_ ?_ ?_ ?_ (by simp)
  · intro u
    by_cases same : u = t
    · rw [same, at_token]
    · rw [elsewhere u same]
  · intro entry member
    rw [looping] at member
    rcases List.mem_cons.mp member with rfl | earlier
    · simp [at_token]
    · exact flags _ (settled.cancelled entry earlier)
  · rw [looping]
    refine List.nodup_cons.mpr ⟨?_, settled.one_loop⟩
    intro member
    obtain ⟨⟨u, index⟩, known, rfl⟩ := List.mem_map.mp member
    exact settled.not_looping uncancelled index known
  · intro q
    unfold Waits
    rw [looping]
    by_cases same : q.token = t
    · simp only [same, at_token, uncancelled, List.mem_cons, Prod.mk.injEq, settled.not_looping uncancelled]
      simp
    · rw [elsewhere _ same]
      simp [same]

/-- The loop of a token is the innermost one: no other loop is over the same token. -/
theorem Settled.innermost {index : Nat} {rest : List Frame} (settled : s.Settled due) (top : s.stack = .cancelling t index :: rest) :
    (s.tokens t)._is_cancelled ∧ (∀ index, (t, index) ∉ loops rest) ∧ ((loops rest).map Prod.fst).Nodup := by
  have looping : loops s.stack = (t, index) :: loops rest := by rw [top]; rfl
  have distinct := settled.one_loop
  rw [looping] at distinct
  obtain ⟨fresh, distinct⟩ := List.nodup_cons.mp distinct
  refine ⟨settled.cancelled (t, index) (by simp [looping]), fun other member => fresh ?_, distinct⟩
  exact List.mem_map.mpr ⟨_, member, rfl⟩

theorem Settled.next_callback {index : Nat} {rest : List Frame} {r : Registration} (settled : s.Settled [])
    (top : s.stack = .cancelling t index :: rest) (found : (s.tokens t)._callbacks[index]? = some r) :
    ({ s with stack := .cancelling t (index + 1) :: rest } : System).Settled [r] := by
  obtain ⟨cancelled, alone, distinct⟩ := settled.innermost top
  obtain ⟨bound, here⟩ := List.getElem?_eq_some_iff.mp found
  have split : (s.tokens t)._callbacks.drop index = r :: (s.tokens t)._callbacks.drop (index + 1) := by
    rw [List.drop_eq_getElem_cons bound, here]
  have owned : r.token = t := (settled.kept t r (here ▸ List.getElem_mem bound)).2
  have passed : r ∉ (s.tokens t)._callbacks.drop (index + 1) := by
    have := (settled.distinct t).sublist (List.drop_sublist index _)
    rw [split] at this
    exact (List.nodup_cons.mp this).1
  refine settled.moves rfl rfl (fun _ => id) (fun _ => List.Sublist.refl _) ?_ ?_ ?_ ?_
  · intro entry member
    rcases List.mem_cons.mp member with rfl | earlier
    · exact cancelled
    · exact settled.cancelled entry (by rw [top]; exact List.mem_cons_of_mem _ earlier)
  · refine List.nodup_cons.mpr ⟨?_, distinct⟩
    intro member
    obtain ⟨⟨u, other⟩, known, rfl⟩ := List.mem_map.mp member
    exact alone other known
  · intro q
    unfold Waits
    rw [top]
    by_cases same : q.token = t
    · simp [loops, same, cancelled, alone, split, or_comm]
    · have other : q ≠ r := fun equal => same (equal ▸ owned)
      simp [loops, same, other]
  · intro q member
    cases List.mem_singleton.mp member
    refine ⟨?_, owned ▸ cancelled⟩
    unfold Waits
    simp [loops, owned, cancelled, alone, passed]

theorem Settled.loop_ends {index : Nat} {rest : List Frame} (settled : s.Settled [])
    (top : s.stack = .cancelling t index :: rest) (found : (s.tokens t)._callbacks[index]? = none) :
    (({ s with stack := rest } : System).update t { s.tokens t with _callbacks := [] }).Settled [] := by
  obtain ⟨cancelled, alone, distinct⟩ := settled.innermost top
  have none_left : (s.tokens t)._callbacks.drop index = [] := List.drop_eq_nil_of_le (List.getElem?_eq_none_iff.mp found)
  have flags := update_callbacks_is_cancelled { s with stack := rest } t []
  refine settled.moves rfl rfl (fun u set => (flags u).trans set) ?_ ?_ distinct ?_ (by simp)
  · intro u
    by_cases same : u = t
    · rw [same, update_self]
      exact List.nil_sublist _
    · rw [update_of_ne _ _ same]
  · intro entry member
    exact (flags _).trans (settled.cancelled entry (by rw [top]; exact List.mem_cons_of_mem _ member))
  · intro q
    unfold Waits
    rw [flags, top]
    by_cases same : q.token = t
    · simp [loops, same, cancelled, alone, none_left]
    · rw [update_of_ne _ _ same]
      simp [loops, same]

/-! ## Combined tokens -/

/-- The calls that have not returned change, and nothing that they owe is dropped. -/
theorem Joined.restack {s' : System} (joined : s.Joined) (flags : ∀ u, (s'.tokens u)._is_cancelled = (s.tokens u)._is_cancelled)
    (registered : s'.registered = s.registered) (ran : s'.ran = s.ran) (combined : s'.combined = s.combined)
    (created : s.created ≤ s'.created) (asked : s.asked ⊆ s'.asked)
    (checking : ∀ left combined, .checking left combined ∈ s'.stack → ∃ tokens, (tokens, combined) ∈ s.combined ∧ left ⊆ tokens)
    (combining : ∀ left tokens combined, .combining left tokens combined ∈ s'.stack → (tokens, combined) ∈ s.combined ∧ left ⊆ tokens)
    (complete : ∀ left tokens combined, .combining left tokens combined ∈ s.stack → ∀ t ∈ left,
      (∃ r ∈ s.registered, r.token = t ∧ r.callback = .check_cancellation tokens combined) ∨
        ∃ left, .combining left tokens combined ∈ s'.stack ∧ t ∈ left)
    (answered : ∀ left combined, .checking left combined ∈ s.stack → ∀ t ∈ left, (s.tokens t)._is_cancelled →
      (s.tokens combined)._is_cancelled ∨ ∃ left, .checking left combined ∈ s'.stack ∧ ∃ t ∈ left, (s.tokens t)._is_cancelled) :
    s'.Joined := by
  constructor
  · rw [registered, combined]; exact joined.known
  · rw [combined]; exact checking
  · rw [combined]; exact combining
  · intro tokens c made t member
    rw [combined] at made
    rw [registered]
    rcases joined.complete tokens c made t member with done | ⟨left, frame, owed⟩
    · exact .inl done
    · exact complete left tokens c frame t owed
  · intro tokens c made
    rw [combined] at made
    exact Nat.lt_of_lt_of_le (joined.fresh tokens c made) created
  · rw [combined]; exact joined.unique
  · intro r member tokens c same
    rw [ran] at member
    simp only [flags]
    rcases joined.answered r member tokens c same with set | ⟨left, frame, t, owed, set⟩
    · exact .inl set
    · exact answered left c frame t owed set
  · intro t set
    rw [flags] at set
    simp only [flags, combined]
    rcases joined.origin t set with direct | source
    · exact .inl (asked direct)
    · exact .inr source

/-- A call takes the place of another, with the calls in `front` on top of those behind it. -/
theorem Joined.replace {s' : System} (above front : List Frame) {rest : List Frame} {frame : Frame} (joined : s.Joined) (top : s.stack = above ++ frame :: rest)
    (stack : s'.stack = above ++ front ++ rest) (flags : ∀ u, (s'.tokens u)._is_cancelled = (s.tokens u)._is_cancelled)
    (registered : s'.registered = s.registered) (ran : s'.ran = s.ran) (combined : s'.combined = s.combined)
    (created : s'.created = s.created) (asked : s'.asked = s.asked)
    (checking : ∀ left combined, .checking left combined ∈ front → ∃ tokens, (tokens, combined) ∈ s.combined ∧ left ⊆ tokens)
    (combining : ∀ left tokens combined, .combining left tokens combined ∈ front → (tokens, combined) ∈ s.combined ∧ left ⊆ tokens)
    (complete : ∀ left tokens combined, frame = .combining left tokens combined → ∀ t ∈ left,
      (∃ r ∈ s.registered, r.token = t ∧ r.callback = .check_cancellation tokens combined) ∨
        ∃ left, .combining left tokens combined ∈ front ∧ t ∈ left)
    (answered : ∀ left combined, frame = .checking left combined → ∀ t ∈ left, (s.tokens t)._is_cancelled →
      (s.tokens combined)._is_cancelled ∨ ∃ left, .checking left combined ∈ front ∧ ∃ t ∈ left, (s.tokens t)._is_cancelled) :
    s'.Joined := by
  have known {other : Frame} (member : other ∈ s'.stack) : other ∈ s.stack ∨ other ∈ front := by
    rw [stack] at member
    rw [top]
    simp only [List.mem_append, List.mem_cons] at member ⊢
    rcases member with (before | now) | behind
    · exact .inl (.inl before)
    · exact .inr now
    · exact .inl (.inr (.inr behind))
  have kept {other : Frame} (member : other ∈ s.stack) : other = frame ∨ other ∈ s'.stack := by
    rw [top] at member
    rw [stack]
    simp only [List.mem_append, List.mem_cons] at member ⊢
    rcases member with before | now | behind
    · exact .inr (.inl (.inl before))
    · exact .inl now
    · exact .inr (.inr behind)
  have added {other : Frame} (member : other ∈ front) : other ∈ s'.stack := by
    rw [stack]
    exact List.mem_append_left _ (List.mem_append_right _ member)
  refine joined.restack flags registered ran combined (Nat.le_of_eq created.symm) (by rw [asked]; exact List.Subset.refl _) ?_ ?_ ?_ ?_
  · intro left c member
    rcases known member with before | now
    · exact joined.checking left c before
    · exact checking left c now
  · intro left tokens c member
    rcases known member with before | now
    · exact joined.combining left tokens c before
    · exact combining left tokens c now
  · intro left tokens c member t owed
    rcases kept member with gone | still
    · rcases complete left tokens c gone.symm t owed with done | ⟨fewer, now, owed⟩
      · exact .inl done
      · exact .inr ⟨fewer, added now, owed⟩
    · exact .inr ⟨left, still, owed⟩
  · intro left c member t owed set
    rcases kept member with gone | still
    · rcases answered left c gone.symm t owed set with done | ⟨fewer, now, owed⟩
      · exact .inl done
      · exact .inr ⟨fewer, added now, owed⟩
    · exact .inr ⟨left, still, t, owed, set⟩

theorem Joined.call {r : Registration} (joined : s.Joined) (registered : r ∈ s.registered) (cancelled : (s.tokens r.token)._is_cancelled) :
    (s.call r).Joined := by
  unfold System.call
  split
  · rename_i outside
    refine ⟨joined.known, ?_, ?_, ?_, joined.fresh, joined.unique, ?_, joined.origin⟩
    · intro left c frame
      exact joined.checking left c (by simpa [push] using frame)
    · intro left tokens c frame
      exact joined.combining left tokens c (by simpa [push] using frame)
    · intro tokens c made t member
      rcases joined.complete tokens c made t member with done | ⟨left, frame, owed⟩
      · exact .inl done
      · exact .inr ⟨left, List.mem_cons_of_mem _ frame, owed⟩
    · intro q member tokens c same
      rcases List.mem_append.mp member with earlier | now
      · rcases joined.answered q earlier tokens c same with set | ⟨left, frame, owed⟩
        · exact .inl set
        · exact .inr ⟨left, List.mem_cons_of_mem _ frame, owed⟩
      · rw [List.mem_singleton.mp now, outside] at same
        cases same
  · rename_i tokens combined checks
    obtain ⟨made, owned⟩ := joined.known r registered tokens combined checks
    refine ⟨joined.known, ?_, ?_, ?_, joined.fresh, joined.unique, ?_, joined.origin⟩
    · intro left c frame
      rcases List.mem_cons.mp frame with now | earlier
      · cases now
        exact ⟨tokens, made, List.Subset.refl _⟩
      · exact joined.checking left c earlier
    · intro left tokens c frame
      exact joined.combining left tokens c (by simpa [push] using frame)
    · intro tokens c made t member
      rcases joined.complete tokens c made t member with done | ⟨left, frame, owed⟩
      · exact .inl done
      · exact .inr ⟨left, List.mem_cons_of_mem _ frame, owed⟩
    · intro q member others c same
      rcases List.mem_append.mp member with earlier | now
      · rcases joined.answered q earlier others c same with set | ⟨left, frame, owed⟩
        · exact .inl set
        · exact .inr ⟨left, List.mem_cons_of_mem _ frame, owed⟩
      · rw [List.mem_singleton.mp now, checks] at same
        cases same
        exact .inr ⟨tokens, List.mem_cons_self, r.token, owned, cancelled⟩

theorem Joined.register_callback (joined : s.Joined) {callback : Callback}
    (known : ∀ tokens combined, callback = .check_cancellation tokens combined → (tokens, combined) ∈ s.combined ∧ t ∈ tokens) :
    (s.register_callback t callback).Joined := by
  unfold System.register_callback
  generalize made : (⟨s.registered.length, t, callback⟩ : Registration) = r
  have token : r.token = t := by rw [← made]
  have grown : ({ s with registered := s.registered ++ [r] } : System).Joined := by
    refine ⟨?_, joined.checking, joined.combining, ?_, joined.fresh, joined.unique, joined.answered, joined.origin⟩
    · intro q member tokens c same
      rcases List.mem_append.mp member with earlier | now
      · exact joined.known q earlier tokens c same
      · rw [List.mem_singleton.mp now, ← made] at same ⊢
        exact known tokens c same
    · intro tokens c made t member
      rcases joined.complete tokens c made t member with ⟨q, member, same⟩ | owed
      · exact .inl ⟨q, List.mem_append_left _ member, same⟩
      · exact .inr owed
  dsimp only
  by_cases cancelled : (s.tokens t)._is_cancelled
  · rw [if_pos cancelled]
    exact grown.call (List.mem_append_right _ (by simp)) (token ▸ cancelled)
  · rw [if_neg cancelled]
    refine grown.restack ?_ rfl rfl rfl (Nat.le_refl _) (List.Subset.refl _) grown.checking grown.combining ?_ ?_
    · exact update_callbacks_is_cancelled { s with registered := s.registered ++ [r] } t _
    · exact fun left tokens c frame t owed => .inr ⟨left, frame, owed⟩
    · exact fun left c frame t owed set => .inr ⟨left, frame, t, owed, set⟩

theorem Joined._cancel (joined : s.Joined) {reason : Option String}
    (source : t ∈ s.asked ∨ ∃ tokens, (tokens, t) ∈ s.combined ∧ ∃ u ∈ tokens, (s.tokens u)._is_cancelled) :
    (s._cancel t reason).Joined := by
  unfold System._cancel
  by_cases cancelled : (s.tokens t)._is_cancelled
  · rwa [if_pos cancelled]
  rw [if_neg cancelled]
  generalize after : (s.update t { s.tokens t with _is_cancelled := true, _reason := reason }).push (.cancelling t 0) = s'
  have flags : ∀ u, (s'.tokens u)._is_cancelled = true ↔ u = t ∨ (s.tokens u)._is_cancelled = true := by
    intro u
    rw [← after]
    by_cases same : u = t
    · simp [push, update, same]
    · simp [push, update, same]
  have stack : s'.stack = .cancelling t 0 :: s.stack := by rw [← after]; rfl
  have combined : s'.combined = s.combined := by rw [← after]; rfl
  constructor
  · rw [← after]; exact joined.known
  · intro left c frame
    rw [combined]
    exact joined.checking left c (by simpa [stack] using frame)
  · intro left tokens c frame
    rw [combined]
    exact joined.combining left tokens c (by simpa [stack] using frame)
  · intro tokens c made u member
    rw [combined] at made
    rcases joined.complete tokens c made u member with done | ⟨left, frame, owed⟩
    · exact .inl (by rw [← after]; exact done)
    · exact .inr ⟨left, by rw [stack]; exact List.mem_cons_of_mem _ frame, owed⟩
  · rw [← after]; exact joined.fresh
  · rw [← after]; exact joined.unique
  · intro r member tokens c same
    rcases joined.answered r (by rw [← after] at member; exact member) tokens c same with set | ⟨left, frame, u, owed, set⟩
    · exact .inl ((flags c).mpr (.inr set))
    · exact .inr ⟨left, by rw [stack]; exact List.mem_cons_of_mem _ frame, u, owed, (flags u).mpr (.inr set)⟩
  · intro u set
    have asked : s'.asked = s.asked := by rw [← after]; rfl
    have before : u ∈ s.asked ∨ ∃ tokens, (tokens, u) ∈ s.combined ∧ ∃ v ∈ tokens, (s.tokens v)._is_cancelled := by
      rcases (flags u).mp set with rfl | earlier
      · exact source
      · exact joined.origin u earlier
    rw [asked, combined]
    rcases before with direct | ⟨tokens, made, v, member, set⟩
    · exact .inl direct
    · exact .inr ⟨tokens, made, v, member, (flags v).mpr (.inr set)⟩

theorem Joined.combine_tokens (joined : s.Joined) (tokens : List Nat) : (s.combine_tokens tokens).Joined := by
  have known_before : ∀ others, (others, s.created) ∉ s.combined := fun others made => absurd (joined.fresh others s.created made) (Nat.lt_irrefl _)
  have made_iff : ∀ others c, (others, c) ∈ (s.combine_tokens tokens).combined ↔ (others, c) ∈ s.combined ∨ others = tokens ∧ c = s.created := by
    simp [System.combine_tokens, push]
  have stack : (s.combine_tokens tokens).stack = .combining tokens tokens s.created :: s.stack := rfl
  constructor
  · intro r member others c same
    obtain ⟨made, owned⟩ := joined.known r member others c same
    exact ⟨(made_iff _ _).mpr (.inl made), owned⟩
  · intro left c frame
    rw [stack] at frame
    obtain ⟨others, made, within⟩ := joined.checking left c (by simpa using frame)
    exact ⟨others, (made_iff _ _).mpr (.inl made), within⟩
  · intro left others c frame
    rw [stack] at frame
    rcases List.mem_cons.mp frame with now | earlier
    · cases now
      exact ⟨(made_iff _ _).mpr (.inr ⟨rfl, rfl⟩), List.Subset.refl _⟩
    · obtain ⟨made, within⟩ := joined.combining left others c earlier
      exact ⟨(made_iff _ _).mpr (.inl made), within⟩
  · intro others c made t member
    rw [stack]
    rcases (made_iff _ _).mp made with earlier | ⟨rfl, rfl⟩
    · rcases joined.complete others c earlier t member with done | ⟨left, frame, owed⟩
      · exact .inl done
      · exact .inr ⟨left, List.mem_cons_of_mem _ frame, owed⟩
    · exact .inr ⟨_, List.mem_cons_self, member⟩
  · intro others c made
    show c < s.created + 1
    rcases (made_iff _ _).mp made with earlier | ⟨-, rfl⟩
    · have := joined.fresh others c earlier
      omega
    · omega
  · intro first second c made again
    rcases (made_iff _ _).mp made with earlier | ⟨rfl, rfl⟩
    · rcases (made_iff _ _).mp again with before | ⟨-, rfl⟩
      · exact joined.unique first second c earlier before
      · exact absurd earlier (known_before first)
    · rcases (made_iff _ _).mp again with before | ⟨rfl, -⟩
      · exact absurd before (known_before second)
      · rfl
  · intro r member others c same
    rcases joined.answered r member others c same with set | ⟨left, frame, owed⟩
    · exact .inl set
    · exact .inr ⟨left, List.mem_cons_of_mem _ frame, owed⟩
  · intro t set
    rcases joined.origin t set with direct | ⟨others, made, source⟩
    · exact .inl direct
    · exact .inr ⟨others, (made_iff _ _).mpr (.inl made), source⟩

/-- A registration as the loop of `combine_tokens` makes it, which then goes on. -/
theorem Joined.next_token {left tokens : List Nat} {combined : Nat} {rest : List Frame} (joined : s.Joined)
    (top : s.stack = .combining (t :: left) tokens combined :: rest) :
    (({ s with stack := .combining left tokens combined :: rest } : System).register_callback t (.check_cancellation tokens combined)).Joined := by
  obtain ⟨made, within⟩ := joined.combining (t :: left) tokens combined (by simp [top])
  have registered : (s.register_callback t (.check_cancellation tokens combined)).Joined := by
    refine joined.register_callback fun others c same => ?_
    cases same
    exact ⟨made, within List.mem_cons_self⟩
  have moved : ∃ above, (s.register_callback t (.check_cancellation tokens combined)).stack = above ++ s.stack ∧
      (({ s with stack := .combining left tokens combined :: rest } : System).register_callback t (.check_cancellation tokens combined)) =
        { s.register_callback t (.check_cancellation tokens combined) with stack := above ++ .combining left tokens combined :: rest } := by
    by_cases cancelled : (s.tokens t)._is_cancelled
    · exact ⟨[.checking tokens combined], by simp [System.register_callback, cancelled, System.call, push],
        by simp [System.register_callback, cancelled, System.call, push]⟩
    · exact ⟨[], by simp [System.register_callback, cancelled, update], by simp [System.register_callback, cancelled, update]⟩
  have listed : ∃ r ∈ (s.register_callback t (.check_cancellation tokens combined)).registered,
      r.token = t ∧ r.callback = .check_cancellation tokens combined := by
    refine ⟨⟨s.registered.length, t, .check_cancellation tokens combined⟩, ?_, rfl, rfl⟩
    by_cases cancelled : (s.tokens t)._is_cancelled <;> simp [System.register_callback, cancelled, System.call, push, update]
  obtain ⟨above, stack, same⟩ := moved
  rw [same]
  rw [top] at stack
  refine registered.replace above [.combining left tokens combined] stack (by simp) (fun u => rfl) rfl rfl rfl rfl rfl ?_ ?_ ?_ ?_
  · simp
  · intro others all c frame
    cases List.mem_singleton.mp frame
    refine ⟨(registered.combining (t :: left) tokens combined ?_).1, fun u member => within (List.mem_cons_of_mem _ member)⟩
    rw [stack]
    exact List.mem_append_right _ List.mem_cons_self
  · intro others all c same u owed
    cases same
    rcases List.mem_cons.mp owed with rfl | later
    · exact .inl listed
    · exact .inr ⟨left, List.mem_singleton_self _, later⟩
  · exact fun others c same => by cases same

/-! ## Runs -/

/-- Both invariants. -/
structure Sound (s : System) : Prop where
  settled : s.Settled []
  joined : s.Joined

/-- A call that loops over no callbacks, and owes nothing, returns. -/
theorem Sound.pop {frame : Frame} {rest : List Frame} (sound : s.Sound) (top : s.stack = frame :: rest) (loopless : loops (frame :: rest) = loops rest)
    (unowing : ∀ left tokens combined, frame = .combining left tokens combined → left = [])
    (unasked : ∀ left combined, frame = .checking left combined → ∀ t ∈ left, ¬ (s.tokens t)._is_cancelled) :
    ({ s with stack := rest } : System).Sound := by
  refine ⟨sound.settled.same rfl rfl rfl (by rw [top, loopless]), ?_⟩
  refine sound.joined.replace [] [] top rfl (fun u => rfl) rfl rfl rfl rfl rfl ?_ ?_ ?_ ?_
  · exact fun left c member => by cases member
  · exact fun left tokens c member => by cases member
  · intro left tokens c same t owed
    rw [unowing left tokens c same] at owed
    cases owed
  · exact fun left c same t owed set => absurd set (unasked left c same t owed)

theorem Sound.outside_step (sound : s.Sound) {action : Action} (quiet : action ≠ .finish .BaseException)
    (outside : s.stack.head?.all (· = .outside)) : (s.outside_step action).Sound := by
  have finished : ({ s with stack := s.stack.tail } : System).Sound := by
    cases top : s.stack with
    | nil =>
      rw [List.tail_nil, ← top]
      exact sound
    | cons frame rest =>
      have : frame = .outside := by simpa [top] using outside
      subst this
      exact sound.pop top rfl (fun _ _ _ same => by cases same) (fun _ _ same => by cases same)
  cases action with
  | go => exact sound
  | create =>
    refine ⟨sound.settled.same rfl rfl rfl rfl, ?_⟩
    refine sound.joined.restack (fun u => rfl) rfl rfl rfl (Nat.le_succ _) (List.Subset.refl _) sound.joined.checking sound.joined.combining ?_ ?_
    · exact fun left tokens c frame t owed => .inr ⟨left, frame, owed⟩
    · exact fun left c frame t owed set => .inr ⟨left, frame, t, owed, set⟩
  | register_callback t =>
    simp only [System.outside_step]
    split
    · exact ⟨sound.settled.register_callback t _, sound.joined.register_callback fun _ _ same => by cases same⟩
    · exact sound
  | cancel t reason =>
    simp only [System.outside_step]
    split
    · have asked : ({ s with asked := s.asked ++ [t] } : System).Sound := by
        refine ⟨sound.settled.same rfl rfl rfl rfl, ?_⟩
        refine sound.joined.restack (fun u => rfl) rfl rfl rfl (Nat.le_refl _) (List.subset_append_left _ _) sound.joined.checking
          sound.joined.combining ?_ ?_
        · exact fun left tokens c frame t owed => .inr ⟨left, frame, owed⟩
        · exact fun left c frame t owed set => .inr ⟨left, frame, t, owed, set⟩
      exact ⟨asked.settled._cancel t reason, asked.joined._cancel (.inl (by simp))⟩
    · exact sound
  | combine_tokens tokens =>
    simp only [System.outside_step]
    split
    · exact ⟨sound.settled.same rfl rfl rfl rfl, sound.joined.combine_tokens tokens⟩
    · exact sound
  | finish how =>
    cases how with
    | returned => exact finished
    | Exception => exact finished
    | BaseException => exact absurd rfl quiet

theorem Sound.cancelling {index : Nat} {rest : List Frame} (sound : s.Sound) (top : s.stack = .cancelling t index :: rest) :
    (s.step .go).Sound := by
  cases found : (s.tokens t)._callbacks[index]? with
  | some r =>
    simp only [step, top, found]
    have settled := sound.settled.next_callback top found
    obtain ⟨registered, -, -, cancelled⟩ := settled.due_cancelled r (by simp)
    refine ⟨settled.call, Joined.call ?_ registered cancelled⟩
    exact sound.joined.replace [] [.cancelling t (index + 1)] top rfl (fun u => rfl) rfl rfl rfl rfl rfl (by simp) (by simp)
      (fun _ _ _ same => by cases same) (fun _ _ same => by cases same)
  | none =>
    simp only [step, top, found]
    refine ⟨sound.settled.loop_ends top found, ?_⟩
    refine sound.joined.replace [] [] top rfl (fun u => ?_) rfl rfl rfl rfl rfl (by simp) (by simp)
      (fun _ _ _ same => by cases same) (fun _ _ same => by cases same)
    by_cases same : u = t
    · simp [update, same]
    · simp [update, Function.update_of_ne same]

/-- The loop of `check_cancellation` finds a token that is cancelled, and cancels the combined one. -/
theorem Sound.checking_cancels {left : List Nat} {combined : Nat} {rest : List Frame} (sound : s.Sound)
    (top : s.stack = .checking (t :: left) combined :: rest) (set : (s.tokens t)._is_cancelled) (reason : Option String) :
    (({ s with stack := rest } : System)._cancel combined reason).Sound := by
  obtain ⟨tokens, made, within⟩ := sound.joined.checking (t :: left) combined (by simp [top])
  have settled : ({ s with stack := rest } : System).Settled [] := sound.settled.same rfl rfl rfl (by rw [top]; rfl)
  refine ⟨settled._cancel combined reason, ?_⟩
  have cancelled : (s._cancel combined reason).Joined := sound.joined._cancel (.inr ⟨tokens, made, t, within List.mem_cons_self, set⟩)
  have flag : ((s._cancel combined reason).tokens combined)._is_cancelled := by
    by_cases earlier : (s.tokens combined)._is_cancelled
    · simp [System._cancel, earlier]
    · simp [System._cancel, earlier, push, update]
  obtain ⟨above, stack, same⟩ : ∃ above, (s._cancel combined reason).stack = above ++ s.stack ∧
      ({ s with stack := rest } : System)._cancel combined reason = { s._cancel combined reason with stack := above ++ rest } := by
    by_cases earlier : (s.tokens combined)._is_cancelled
    · exact ⟨[], by simp [System._cancel, earlier], by simp [System._cancel, earlier]⟩
    · exact ⟨[.cancelling combined 0], by simp [System._cancel, earlier, push, update], by simp [System._cancel, earlier, push, update]⟩
  rw [same]
  rw [top] at stack
  refine cancelled.replace above [] stack (by simp) (fun u => rfl) rfl rfl rfl rfl rfl (by simp) (by simp) ?_ ?_
  · exact fun _ _ _ same => by cases same
  · intro others c same u owed cancels
    cases same
    exact .inl flag

theorem Sound.checking {left : List Nat} {combined : Nat} {rest : List Frame} (sound : s.Sound) (top : s.stack = .checking left combined :: rest) :
    (s.step .go).Sound := by
  cases left with
  | nil =>
    simp only [step, top]
    refine sound.pop top rfl (fun _ _ _ same => by cases same) fun left c same => ?_
    cases same
    simp
  | cons t left =>
    obtain ⟨tokens, made, within⟩ := sound.joined.checking (t :: left) combined (by simp [top])
    by_cases set : (s.tokens t)._is_cancelled
    · simp only [step, top, set, ↓reduceIte]
      exact sound.checking_cancels top set _
    · simp only [step, top, set, Bool.false_eq_true, ↓reduceIte]
      refine ⟨sound.settled.same rfl rfl rfl (by rw [top]; rfl), ?_⟩
      refine sound.joined.replace [] [.checking left combined] top rfl (fun u => rfl) rfl rfl rfl rfl rfl ?_ (by simp) ?_ ?_
      · intro others c member
        cases List.mem_singleton.mp member
        exact ⟨tokens, made, fun u member => within (List.mem_cons_of_mem _ member)⟩
      · exact fun _ _ _ same => by cases same
      · intro others c same u owed cancels
        cases same
        rcases List.mem_cons.mp owed with rfl | later
        · exact absurd cancels set
        · exact .inr ⟨left, List.mem_singleton_self _, u, later, cancels⟩

theorem Sound.combining {left tokens : List Nat} {combined : Nat} {rest : List Frame} (sound : s.Sound)
    (top : s.stack = .combining left tokens combined :: rest) : (s.step .go).Sound := by
  obtain ⟨made, within⟩ := sound.joined.combining left tokens combined (by simp [top])
  cases left with
  | nil =>
    simp only [step, top]
    refine ⟨sound.settled.same rfl rfl rfl (by rw [top]; rfl), ?_⟩
    refine sound.joined.replace [] [.checking tokens combined] top rfl (fun u => rfl) rfl rfl rfl rfl rfl ?_ (by simp) ?_ ?_
    · intro others c member
      cases List.mem_singleton.mp member
      exact ⟨tokens, made, List.Subset.refl _⟩
    · intro others all c same u owed
      cases same
      cases owed
    · exact fun _ _ same => by cases same
  | cons t left =>
    simp only [step, top]
    have settled : ({ s with stack := .combining left tokens combined :: rest } : System).Settled [] :=
      sound.settled.same rfl rfl rfl (by rw [top]; rfl)
    exact ⟨settled.register_callback t _, sound.joined.next_token top⟩

theorem Sound.step_go (sound : s.Sound) : (s.step .go).Sound := by
  cases top : s.stack with
  | nil => simpa only [step, top] using sound
  | cons frame rest =>
    cases frame with
    | outside => simpa only [step, top] using sound
    | cancelling t index => exact sound.cancelling top
    | checking left combined => exact sound.checking top
    | combining left tokens combined => exact sound.combining top

theorem Sound.step (sound : s.Sound) {action : Action} (quiet : action ≠ .finish .BaseException) : (s.step action).Sound := by
  by_cases outside : s.stack.head?.all (· = .outside)
  · cases action with
    | go => exact sound.step_go
    | _ => simpa only [System.step, outside, ↓reduceIte] using sound.outside_step quiet outside
  · cases action with
    | go => exact sound.step_go
    | _ => simpa only [System.step, outside, Bool.false_eq_true, ↓reduceIte] using sound

theorem Sound.start : ({} : System).Sound := by
  refine ⟨⟨rfl, ?_, ?_, ?_, ?_, ?_, ?_, ?_, ?_, ?_⟩, ⟨?_, ?_, ?_, ?_, ?_, ?_, ?_, ?_⟩⟩ <;> simp [loops]

/-- What is settled is as it should be. -/
theorem Sound.good (sound : s.Sound) : s.Good := by
  obtain ⟨settled, joined⟩ := sound
  have once : ∀ r ∈ s.registered, (s.tokens r.token)._is_cancelled → ¬ s.Cancelling r.token → r ∈ s.ran := by
    intro r member cancelled returned
    rcases settled.settled r member with ran | (⟨uncancelled, -⟩ | ⟨index, looping, -⟩) | due
    · exact ran
    · rw [cancelled] at uncancelled
      cases uncancelled
    · exact absurd ⟨index, looping⟩ returned
    · cases due
  constructor
  · rw [settled.numbers]
    exact List.nodup_range
  · exact fun r => List.nodup_iff_count_le_one.mp settled.ran_once r
  · exact settled.ran_cancelled
  · exact fun r member cancelled returned => List.count_eq_one_of_mem settled.ran_once (once r member cancelled returned)
  · intro idle tokens combined made unasked
    constructor
    · intro set
      rcases joined.origin combined set with direct | ⟨others, also, source⟩
      · exact absurd direct unasked
      · rwa [joined.unique tokens others combined made also]
    · rintro ⟨t, member, set⟩
      rcases joined.complete tokens combined made t member with ⟨r, registered, rfl, checks⟩ | ⟨left, frame, -⟩
      · have ran : r ∈ s.ran := once r registered set (by simp [Cancelling, idle, loops])
        rcases joined.answered r ran tokens combined checks with cancelled | ⟨left, frame, -⟩
        · exact cancelled
        · simp [idle] at frame
      · simp [idle] at frame

/-- As long as callbacks raise nothing but `Exception`s, every state of every run is as it should be. -/
theorem runs_good (actions : List Action) (quiet : ∀ action ∈ actions, action ≠ .finish .BaseException) :
    (actions.foldl step {}).Good := by
  have run : (actions.foldl step {}).Sound :=
    Runs.foldl_keeps (P := fun _ action => action ≠ .finish .BaseException) (fun s action sound calm => sound.step calm) .start
      (Runs.along_of_mem fun s action member => quiet action member)
  exact run.good

/-- A token is combined with one that is cancelled, and its callback registers another one. -/
theorem combined_with_cancelled : ∃ actions : List Action, (actions.foldl step {}).stack = [] ∧ (actions.foldl step {}).ran.length = 4 ∧
    ((actions.foldl step {}).tokens 2)._is_cancelled ∧ (actions.foldl step {}).Good :=
  ⟨[.create, .create, .register_callback 0, .cancel 0 none, .go, .register_callback 0, .finish .Exception, .finish .returned, .go,
      .combine_tokens [1, 0], .go, .go, .go, .go, .go, .go, .go, .go, .cancel 1 none, .go, .go, .go, .go, .go],
    by decide +kernel, by decide +kernel, by decide +kernel, runs_good _ (by decide)⟩

/-- Two callbacks of a token, of which the first raises something that is not an `Exception`: the
    second one is never run. -/
theorem second_callback_dropped : ∃ actions : List Action, (actions.foldl step {}).stack = [] ∧ ¬ (actions.foldl step {}).Good := by
  have idle : ([.create, .register_callback 0, .register_callback 0, .cancel 0 none, .go, .finish .BaseException].foldl step {}).stack = [] := by
    decide +kernel
  refine ⟨_, idle, ?_⟩
  intro good
  have once := good.once ⟨1, 0, .outside⟩ (by decide +kernel) (by decide +kernel) (by rintro ⟨index, looping⟩; rw [idle] at looping; cases looping)
  exact absurd once (by decide +kernel)

end System
end RevitPy.CancellationTokens
