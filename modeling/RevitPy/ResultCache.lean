import RevitPy.Dict
import RevitPy.Runs

/-!
# Cached results of a function

A decorated function keeps its results by its arguments. On the event loop, calls with
the same arguments may overlap, results are stored when they arrive and have a time to
live; outside of it, calls run to their end and the times are left alone. Both paths
share one cache. Times are microseconds of the loop's clock.
-/

namespace RevitPy.ResultCache

/-- What an eviction raises: no key to evict, or the key of a time without a result. -/
inductive EvictionError
  | StopIteration
  | KeyError
  deriving DecidableEq

structure Results (κ ν : Type) where
  cache : Dict κ ν := ∅
  cache_times : Dict κ Int := ∅

variable {κ ν : Type} [DecidableEq κ]

/-! ## The wrappers -/

/-- The cached result, where it is young enough. A result that is not is removed. -/
def async_lookup (ttl : Option Int) (now : Int) (key : κ) (m : Results κ ν) : Option ν × Results κ ν :=
  match m.cache.get? key with
  | none => (none, m)
  | some value => match ttl with
    | none => (some value, m)
    | some ttl =>
      if (m.cache_times.get? key).any fun cache_time => cache_time ≠ 0 ∧ now - cache_time < ttl then (some value, m)
      else (none, { cache := m.cache.erase key, cache_times := m.cache_times.erase key })

/-- The first of the items with the smallest time. -/
def earliest (first : κ × Int) : List (κ × Int) → κ × Int
  | [] => first
  | item :: rest => earliest (if item.2 < first.2 then item else first) rest

/-- The key with the smallest time, or the first one where there are no times. -/
def oldest_key (m : Results κ ν) : Option κ := match m.cache_times.entries with
  | [] => m.cache.keys.head?
  | item :: rest => some (earliest item rest).1

/-- `del cache[oldest_key]`, and its time. -/
def remove_oldest (m : Results κ ν) : Except EvictionError (Results κ ν) := match oldest_key m with
  | none => .error .StopIteration
  | some key =>
    if m.cache.contains key then .ok { cache := m.cache.erase key, cache_times := m.cache_times.erase key } else .error .KeyError

/-- The cache with room for a result, given how an entry is removed. -/
def make_room (max_size : Int) (remove : Results κ ν → Except EvictionError (Results κ ν)) (m : Results κ ν) :
    Except EvictionError (Results κ ν) :=
  if max_size ≤ m.cache.length then remove m else .ok m

/-- What `async_wrapper` does with a result. -/
def async_store (ttl : Option Int) (max_size now : Int) (key : κ) (result : ν) (m : Results κ ν) : Except EvictionError (Results κ ν) :=
  (make_room max_size remove_oldest m).map fun m =>
    { cache := m.cache.set key result, cache_times := if ttl.isSome then m.cache_times.set key now else m.cache_times }

/-- Remove first entry (FIFO), but not its time. -/
def remove_first (m : Results κ ν) : Except EvictionError (Results κ ν) := match m.cache.keys.head? with
  | none => .error .StopIteration
  | some key => .ok { m with cache := m.cache.erase key }

/-- What `sync_wrapper` does with a result. -/
def sync_store (max_size : Int) (key : κ) (result : ν) (m : Results κ ν) : Except EvictionError (Results κ ν) :=
  (make_room max_size remove_first m).map fun m => { m with cache := m.cache.set key result }

/-! ## Overlapping calls -/

/-- What happens to a decorated function. A call that finds nothing runs the function, which
    returns or raises later, or at once where there is no event loop. -/
inductive Event (κ ν : Type)
  | called (key : κ) (now : Int)
  | returned (key : κ) (result : ν) (now : Int)
  | failed (key : κ)
  | sync_called (key : κ) (result : Option ν)

/-- The cache, the keys of the calls that run the function, and what callers were answered. -/
structure Calls (κ ν : Type) where
  results : Results κ ν := {}
  running : List κ := []
  answers : List (κ × Except EvictionError ν) := []

/-- A result is stored, and answered unless the eviction raises. -/
def answer (s : Calls κ ν) (key : κ) (result : ν) : Except EvictionError (Results κ ν) → Calls κ ν
  | .ok results => { s with results := results, answers := s.answers ++ [(key, .ok result)] }
  | .error e => { s with answers := s.answers ++ [(key, .error e)] }

def step (ttl : Option Int) (max_size : Int) (s : Calls κ ν) : Event κ ν → Calls κ ν
  | .called key now => match async_lookup ttl now key s.results with
    | (some value, results) => { s with results := results, answers := s.answers ++ [(key, .ok value)] }
    | (none, results) => { s with results := results, running := key :: s.running }
  | .returned key result now =>
    if key ∈ s.running then
      answer { s with running := s.running.erase key } key result (async_store ttl max_size now key result s.results)
    else s
  | .failed key => { s with running := s.running.erase key }
  | .sync_called key result => match s.results.cache.get? key, result with
    | some value, _ => { s with answers := s.answers ++ [(key, .ok value)] }
    | none, some result => answer s key result (sync_store max_size key result s.results)
    | none, none => s

def run (ttl : Option Int) (max_size : Int) (events : List (Event κ ν)) : Calls κ ν := events.foldl (step ttl max_size) {}

def Event.on_loop : Event κ ν → Bool
  | .sync_called .. => false
  | _ => true

/-- The function returned a value for a key. -/
def Event.Yields (key : κ) (value : ν) : Event κ ν → Prop
  | .returned k v _ => k = key ∧ v = value
  | .sync_called k v => k = key ∧ v = some value
  | _ => False

/-! ## What the steps keep -/

variable {ttl : Option Int} {max_size now : Int} {key : κ} {result : ν} {m n : Results κ ν} {s : Calls κ ν}

/-- What a call found and what it leaves. -/
theorem async_lookup_cases (ttl : Option Int) (now : Int) (key : κ) (m : Results κ ν) :
    (∃ value, m.cache.get? key = some value ∧ async_lookup ttl now key m = (some value, m) ∧
        ∀ limit ∈ ttl, ∃ cache_time, m.cache_times.get? key = some cache_time ∧ now - cache_time < limit) ∨
      async_lookup ttl now key m = (none, m) ∨
        async_lookup ttl now key m = (none, { cache := m.cache.erase key, cache_times := m.cache_times.erase key }) := by
  unfold async_lookup
  split
  · exact .inr (.inl rfl)
  · next value found =>
    split
    · exact .inl ⟨value, found, rfl, fun limit member => absurd member nofun⟩
    · next limit =>
      split
      · next young =>
        obtain ⟨cache_time, known, recent⟩ := (Option.any_eq_true _ _).mp young
        refine .inl ⟨value, found, rfl, fun other member => ⟨cache_time, known, ?_⟩⟩
        rw [← Option.mem_some.mp member]
        exact (of_decide_eq_true recent).2
      · exact .inr (.inr rfl)

/-- Entries that a step may keep: only those that were there. -/
structure Fewer (n m : Results κ ν) : Prop where
  cache : ∀ k v, n.cache.get? k = some v → m.cache.get? k = some v
  times : ∀ k t, n.cache_times.get? k = some t → m.cache_times.get? k = some t

theorem Fewer.refl (m : Results κ ν) : Fewer m m := ⟨fun _ _ found => found, fun _ _ found => found⟩

theorem fewer_erase (m : Results κ ν) (key : κ) : Fewer { cache := m.cache.erase key, cache_times := m.cache_times.erase key } m :=
  ⟨fun _ _ found => Dict.get?_of_erase found, fun _ _ found => Dict.get?_of_erase found⟩

theorem remove_oldest_ok (removed : remove_oldest m = .ok n) : Fewer n m ∧ n.cache.length < m.cache.length := by
  unfold remove_oldest at removed
  split at removed
  · cases removed
  · next key _ =>
    split at removed
    · next known =>
      obtain rfl := Except.ok.inj removed
      exact ⟨fewer_erase m key, Dict.length_erase_lt ((Dict.contains_iff _ _).mp known)⟩
    · cases removed

theorem remove_first_ok (removed : remove_first m = .ok n) : Fewer n m ∧ n.cache.length < m.cache.length := by
  unfold remove_first at removed
  split at removed
  · cases removed
  · next key first =>
    obtain rfl := Except.ok.inj removed
    exact ⟨⟨fun _ _ found => Dict.get?_of_erase found, fun _ _ found => found⟩, Dict.length_erase_lt (List.mem_of_head? first)⟩

/-- With room made there are fewer entries than the limit. -/
theorem make_room_ok {remove : Results κ ν → Except EvictionError (Results κ ν)}
    (removes : ∀ n, remove m = .ok n → Fewer n m ∧ n.cache.length < m.cache.length) (bounded : m.cache.length ≤ max_size.toNat)
    (made : make_room max_size remove m = .ok n) : Fewer n m ∧ n.cache.length < max_size.toNat := by
  unfold make_room at made
  split at made
  · obtain ⟨fewer, shorter⟩ := removes n made
    exact ⟨fewer, by omega⟩
  · next room =>
    obtain rfl := Except.ok.inj made
    exact ⟨.refl m, by omega⟩

theorem map_ok {ε α β : Type} {f : α → β} {x : Except ε α} {y : β} (mapped : x.map f = .ok y) : ∃ a, x = .ok a ∧ f a = y := by
  cases x with
  | error e => cases mapped
  | ok a => exact ⟨a, rfl, Except.ok.inj mapped⟩

theorem async_store_ok (bounded : m.cache.length ≤ max_size.toNat) (stored : async_store ttl max_size now key result m = .ok n) :
    n.cache.length ≤ max_size.toNat ∧
      (∀ k v, n.cache.get? k = some v → k = key ∧ v = result ∨ k ≠ key ∧ m.cache.get? k = some v) ∧
      ∀ k t, n.cache_times.get? k = some t → k = key ∧ t = now ∨ (k = key → ttl = none) ∧ m.cache_times.get? k = some t := by
  obtain ⟨roomy, made, rfl⟩ := map_ok stored
  obtain ⟨fewer, room⟩ := make_room_ok (fun _ => remove_oldest_ok) bounded made
  refine ⟨?_, ?_, ?_⟩
  · have longer := Dict.length_set_le roomy.cache key result
    show (roomy.cache.set key result).length ≤ _
    omega
  · intro k v found
    rw [Dict.get?_set] at found
    split at found
    · next here => exact .inl ⟨here.symm, (Option.some.inj found).symm⟩
    · next other => exact .inr ⟨Ne.symm other, fewer.cache k v found⟩
  · intro k t found
    cases ttl with
    | none => exact .inr ⟨fun _ => rfl, fewer.times k t found⟩
    | some limit =>
      simp only [Option.isSome_some, if_true, Dict.get?_set] at found
      split at found
      · next here => exact .inl ⟨here.symm, (Option.some.inj found).symm⟩
      · next other => exact .inr ⟨fun here => absurd here.symm other, fewer.times k t found⟩

theorem sync_store_ok (bounded : m.cache.length ≤ max_size.toNat) (stored : sync_store max_size key result m = .ok n) :
    n.cache.length ≤ max_size.toNat ∧
      (∀ k v, n.cache.get? k = some v → k = key ∧ v = result ∨ k ≠ key ∧ m.cache.get? k = some v) ∧
      ∀ k t, n.cache_times.get? k = some t → m.cache_times.get? k = some t := by
  obtain ⟨roomy, made, rfl⟩ := map_ok stored
  obtain ⟨fewer, room⟩ := make_room_ok (fun _ => remove_first_ok) bounded made
  refine ⟨?_, ?_, fewer.times⟩
  · have longer := Dict.length_set_le roomy.cache key result
    show (roomy.cache.set key result).length ≤ _
    omega
  · intro k v found
    rw [Dict.get?_set] at found
    split at found
    · next here => exact .inl ⟨here.symm, (Option.some.inj found).symm⟩
    · next other => exact .inr ⟨Ne.symm other, fewer.cache k v found⟩

/-! ## Runs -/

/-- No more results are kept than allowed; where no room can be made, none. -/
def Bounded (max_size : Int) (s : Calls κ ν) : Prop := s.results.cache.length ≤ max_size.toNat

/-- A value that is cached for a key, or was answered for it. -/
def Known (s : Calls κ ν) (item : κ × ν) : Prop := s.results.cache.get? item.1 = some item.2 ∨ (item.1, .ok item.2) ∈ s.answers

/-- A value that is cached for a key with a time. -/
def Timed (s : Calls κ ν) (item : (κ × ν) × Int) : Prop :=
  s.results.cache.get? item.1.1 = some item.1.2 ∧ s.results.cache_times.get? item.1.1 = some item.2

/-- What an event may do to a state: take entries away, or store and answer what the
    function returned. -/
structure Follows (ttl : Option Int) (max_size : Int) (s : Calls κ ν) (event : Event κ ν) (t : Calls κ ν) : Prop where
  bounded : Bounded max_size t
  known : ∀ item, Known t item → event.Yields item.1 item.2 ∨ Known s item
  times : ∀ k time, t.results.cache_times.get? k = some time → (∃ v, event = .returned k v time) ∨ s.results.cache_times.get? k = some time
  timed : ttl ≠ none → ∀ item, Timed t item → event = .returned item.1.1 item.1.2 item.2 ∨
    (event = .sync_called item.1.1 (some item.1.2) ∧ s.results.cache_times.get? item.1.1 = some item.2) ∨ Timed s item

/-- An event that stores nothing, and answers only what is cached. -/
theorem follows_fewer (bounded : Bounded max_size s) (event : Event κ ν) {t : Calls κ ν} (fewer : Fewer t.results s.results)
    (shorter : t.results.cache.length ≤ s.results.cache.length)
    (answers : ∀ k v, (k, .ok v) ∈ t.answers → s.results.cache.get? k = some v ∨ (k, .ok v) ∈ s.answers) : Follows ttl max_size s event t where
  bounded := Nat.le_trans shorter bounded
  known := by
    rintro ⟨k, v⟩ (cached | answered)
    · exact .inr (.inl (fewer.cache k v cached))
    · exact .inr (answers k v answered)
  times k time found := .inr (fewer.times k time found)
  timed := by
    rintro - item ⟨cached, time⟩
    exact .inr (.inr ⟨fewer.cache _ _ cached, fewer.times _ _ time⟩)

theorem follows_called (bounded : Bounded max_size s) (key : κ) (now : Int) :
    Follows ttl max_size s (.called key now) (step ttl max_size s (.called key now)) := by
  unfold step
  simp only
  rcases async_lookup_cases ttl now key s.results with ⟨value, cached, hit, -⟩ | same | removed
  · rw [hit]
    refine follows_fewer bounded _ (.refl _) (Nat.le_refl _) fun k v answered => ?_
    rcases List.mem_append.mp answered with before | here
    · exact .inr before
    · obtain ⟨rfl, equal⟩ := Prod.mk.inj (List.mem_singleton.mp here)
      exact .inl (Except.ok.inj equal ▸ cached)
  · rw [same]
    exact follows_fewer bounded _ (.refl _) (Nat.le_refl _) fun _ _ answered => .inr answered
  · rw [removed]
    exact follows_fewer bounded _ (fewer_erase _ _) (Dict.length_erase_le _ _) fun _ _ answered => .inr answered

/-- What the function returned is answered, and stored unless the eviction raises. -/
theorem follows_answer (bounded : Bounded max_size s) {event : Event κ ν} (yields : event.Yields key result)
    {stored : Except EvictionError (Results κ ν)}
    (stores : ∀ n, stored = .ok n → n.cache.length ≤ max_size.toNat ∧
      (∀ k v, n.cache.get? k = some v → k = key ∧ v = result ∨ k ≠ key ∧ s.results.cache.get? k = some v) ∧
      (∀ k t, n.cache_times.get? k = some t → (∃ v, event = .returned k v t) ∨ s.results.cache_times.get? k = some t) ∧
      (ttl ≠ none → ∀ t, n.cache_times.get? key = some t → event = .returned key result t ∨
        event = .sync_called key (some result) ∧ s.results.cache_times.get? key = some t))
    (running : List κ) : Follows ttl max_size s event (answer { s with running := running } key result stored) := by
  cases stored with
  | error e =>
    refine follows_fewer bounded _ (.refl _) (Nat.le_refl _) fun k v answered => .inr ?_
    rcases List.mem_append.mp answered with before | here
    · exact before
    · exact absurd (Prod.mk.inj (List.mem_singleton.mp here)).2 nofun
  | ok n =>
    obtain ⟨fits, cache, times, now⟩ := stores n rfl
    refine ⟨fits, ?_, times, ?_⟩
    · rintro ⟨k, v⟩ (cached | answered)
      · rcases cache k v cached with ⟨rfl, rfl⟩ | ⟨-, before⟩
        · exact .inl yields
        · exact .inr (.inl before)
      · rcases List.mem_append.mp answered with before | here
        · exact .inr (.inr before)
        · obtain ⟨rfl, equal⟩ := Prod.mk.inj (List.mem_singleton.mp here)
          exact .inl (Except.ok.inj equal ▸ yields)
    · rintro timed ⟨⟨k, v⟩, t⟩ ⟨cached, time⟩
      rcases cache k v cached with ⟨rfl, rfl⟩ | ⟨other, before⟩
      · rcases now timed t time with returned | called
        · exact .inl returned
        · exact .inr (.inl called)
      · rcases times k t time with ⟨w, rfl⟩ | earlier
        · exact absurd yields.1 other
        · exact .inr (.inr ⟨before, earlier⟩)

theorem follows_step (bounded : Bounded max_size s) (event : Event κ ν) : Follows ttl max_size s event (step ttl max_size s event) := by
  cases event with
  | called key now => exact follows_called bounded key now
  | returned key result now =>
    unfold step
    simp only
    split
    · have yields : (Event.returned key result now).Yields key result := ⟨rfl, rfl⟩
      refine follows_answer bounded yields (fun n stored => ?_) _
      obtain ⟨fits, cache, times⟩ := async_store_ok bounded stored
      refine ⟨fits, cache, fun k t found => ?_, fun timed t found => ?_⟩
      · rcases times k t found with ⟨rfl, rfl⟩ | ⟨-, before⟩
        · exact .inl ⟨result, rfl⟩
        · exact .inr before
      · rcases times key t found with ⟨-, rfl⟩ | ⟨untimed, before⟩
        · exact .inl rfl
        · exact absurd (untimed rfl) timed
    · exact follows_fewer bounded _ (.refl _) (Nat.le_refl _) fun _ _ answered => .inr answered
  | failed key => exact follows_fewer bounded _ (.refl _) (Nat.le_refl _) fun _ _ answered => .inr answered
  | sync_called key result =>
    unfold step
    simp only
    split
    · next value cached =>
      refine follows_fewer bounded _ (.refl _) (Nat.le_refl _) fun k v answered => ?_
      rcases List.mem_append.mp answered with before | here
      · exact .inr before
      · obtain ⟨rfl, equal⟩ := Prod.mk.inj (List.mem_singleton.mp here)
        exact .inl (Except.ok.inj equal ▸ cached)
    · next result _ =>
      have yields : (Event.sync_called key (some result)).Yields key result := ⟨rfl, rfl⟩
      refine follows_answer bounded yields (fun n stored => ?_) _
      obtain ⟨fits, cache, times⟩ := sync_store_ok bounded stored
      exact ⟨fits, cache, fun k t found => .inr (times k t found), fun _ t found => .inr ⟨rfl, times key t found⟩⟩
    · exact follows_fewer bounded _ (.refl _) (Nat.le_refl _) fun _ _ answered => .inr answered

/-! ## Without a KeyError -/

/-- Every time belongs to a cached result. -/
def Paired (m : Results κ ν) : Prop := ∀ k, k ∈ m.cache_times.keys → k ∈ m.cache.keys

omit [DecidableEq κ] in
theorem earliest_mem (first : κ × Int) (rest : List (κ × Int)) : earliest first rest ∈ first :: rest := by
  induction rest generalizing first with
  | nil => exact List.mem_singleton_self _
  | cons item rest ih =>
    rw [earliest]
    split
    · exact List.mem_cons_of_mem _ (ih item)
    · rcases List.mem_cons.mp (ih first) with same | later
      · rw [same]
        exact List.mem_cons_self
      · exact List.mem_cons_of_mem _ (List.mem_cons_of_mem _ later)

/-- A removal of both keeps them paired, and the first of the times has a result. -/
theorem remove_oldest_paired (paired : Paired m) : remove_oldest m ≠ .error .KeyError ∧ ∀ n, remove_oldest m = .ok n → Paired n := by
  have known (key : κ) (oldest : oldest_key m = some key) : key ∈ m.cache.keys := by
    unfold oldest_key at oldest
    split at oldest
    · exact List.mem_of_head? oldest
    · next item rest entries =>
      obtain rfl := Option.some.inj oldest
      refine paired _ (List.mem_map_of_mem ?_)
      rw [entries]
      exact earliest_mem item rest
  unfold remove_oldest
  split
  · exact ⟨nofun, nofun⟩
  · next key oldest =>
    rw [if_pos ((Dict.contains_iff _ _).mpr (known key oldest))]
    refine ⟨nofun, fun n same => ?_⟩
    obtain rfl := Except.ok.inj same
    intro k timed
    rw [Dict.mem_keys_erase] at timed ⊢
    exact ⟨paired k timed.1, timed.2⟩

theorem async_store_paired (ttl : Option Int) (max_size now : Int) (key : κ) (result : ν) (paired : Paired m) :
    async_store ttl max_size now key result m ≠ .error .KeyError ∧
      ∀ n, async_store ttl max_size now key result m = .ok n → Paired n := by
  obtain ⟨no_error, kept⟩ := remove_oldest_paired paired
  have room : make_room max_size remove_oldest m ≠ .error .KeyError ∧ ∀ n, make_room max_size remove_oldest m = .ok n → Paired n := by
    unfold make_room
    split
    · exact ⟨no_error, kept⟩
    · exact ⟨nofun, fun n same => Except.ok.inj same ▸ paired⟩
  constructor
  · intro raised
    cases made : make_room max_size remove_oldest m with
    | ok n =>
      rw [async_store, made] at raised
      cases raised
    | error e =>
      rw [async_store, made] at raised
      exact room.1 (made.trans (congrArg Except.error (Except.error.inj raised)))
  · intro n stored
    obtain ⟨roomy, made, rfl⟩ := map_ok stored
    have before := room.2 roomy made
    intro k timed
    rw [Dict.mem_keys_set]
    cases ttl with
    | none => exact .inr (before k timed)
    | some limit =>
      rcases (Dict.mem_keys_set ..).mp timed with here | earlier
      · exact .inl here
      · exact .inr (before k earlier)

/-- What holds as long as the function was only called on the loop. -/
def Unmixed (s : Calls κ ν) : Prop := Paired s.results ∧ ∀ k, (k, .error .KeyError) ∉ s.answers

/-- On the loop alone, times stay paired with results and no eviction raises a `KeyError`. -/
theorem step_unmixed (event : Event κ ν) (on_loop : event.on_loop = true) (kept : Unmixed s) : Unmixed (step ttl max_size s event) := by
  obtain ⟨paired, quiet⟩ := kept
  have answered (k key : κ) (value : ν) : (k, .error .KeyError) ∉ s.answers ++ [(key, .ok value)] := by
    rw [List.mem_append, List.mem_singleton]
    rintro (before | here)
    · exact quiet k before
    · cases here
  cases event with
  | called key now =>
    unfold step
    simp only
    rcases async_lookup_cases ttl now key s.results with ⟨value, -, hit, -⟩ | same | removed
    · rw [hit]
      exact ⟨paired, fun k => answered k key value⟩
    · rw [same]
      exact ⟨paired, quiet⟩
    · rw [removed]
      refine ⟨fun k timed => ?_, quiet⟩
      rw [Dict.mem_keys_erase] at timed ⊢
      exact ⟨paired k timed.1, timed.2⟩
  | returned key result now =>
    obtain ⟨no_error, kept⟩ := async_store_paired ttl max_size now key result paired
    unfold step
    simp only
    split
    · cases stored : async_store ttl max_size now key result s.results with
      | ok n => exact ⟨kept n stored, fun k => answered k key result⟩
      | error e =>
        refine ⟨paired, fun k answered => ?_⟩
        rcases List.mem_append.mp answered with before | here
        · exact quiet k before
        · have same := Except.error.inj (Prod.mk.inj (List.mem_singleton.mp here)).2
          exact no_error (same ▸ stored)
    · exact ⟨paired, quiet⟩
  | failed key => exact ⟨paired, quiet⟩
  | sync_called key result => cases on_loop

/-! ## What a caller gets -/

/-- A value was returned by the function for the key, at a moment or after a moment at which
    a result for the key was stored with this time. -/
def ReturnedSince (events : List (Event κ ν)) (key : κ) (value : ν) (time : Int) : Prop :=
  ∃ before event after, events = before ++ event :: after ∧
    (event = .returned key value time ∨ event = .sync_called key (some value) ∧ ∃ w, .returned key w time ∈ before)

/-- What is true of a decorated function whatever was called, in whatever order. -/
structure Memoizes (ttl : Option Int) (max_size : Int) (events : List (Event κ ν)) : Prop where
  bounded : Bounded max_size (run ttl max_size events)
  answered : ∀ key value, (key, .ok value) ∈ (run ttl max_size events).answers → ∃ event ∈ events, event.Yields key value
  fresh : ∀ limit ∈ ttl, ∀ now key value, (async_lookup ttl now key (run ttl max_size events).results).1 = some value →
    ∃ time, now - time < limit ∧ ReturnedSince events key value time
  on_loop : (∀ event ∈ events, event.on_loop = true) → ∀ key, (key, .error .KeyError) ∉ (run ttl max_size events).answers

omit [DecidableEq κ] in
theorem bounded_start (max_size : Int) : Bounded max_size ({} : Calls κ ν) := Nat.zero_le _

/-- A cached time is that of a result which was stored then. -/
theorem time_returned {events : List (Event κ ν)} {k : κ} {time : Int}
    (found : (run ttl max_size events).results.cache_times.get? k = some time) : ∃ v, .returned k v time ∈ events := by
  rcases Runs.origin (fun (s : Calls κ ν) (item : κ × Int) => s.results.cache_times.get? item.1 = some item.2)
      (fun _ event item => ∃ v, event = .returned item.1 v item.2) (fun _ _ => True)
      (fun s event (bounded : Bounded max_size s) => (follows_step bounded event : Follows ttl max_size s event _).bounded)
      (fun s event item bounded found => ((follows_step bounded event).times item.1 item.2 found).imp_right fun before => ⟨before, trivial⟩)
      (bounded_start max_size) (t := (k, time)) found with ⟨before, event, after, rfl, ⟨v, rfl⟩, -⟩ | ⟨absent, -⟩
  · exact ⟨v, List.mem_append_right _ List.mem_cons_self⟩
  · cases absent

/-- A decorated function keeps no more results than it may. Every answer is a value that the
    function returned for these arguments, a cached one not before its time to live began;
    and as long as it is only called on the loop, no eviction raises a `KeyError`. -/
theorem memoizes (ttl : Option Int) (max_size : Int) (events : List (Event κ ν)) : Memoizes ttl max_size events := by
  have keeps (s : Calls κ ν) (event : Event κ ν) (bounded : Bounded max_size s) : Bounded max_size (step ttl max_size s event) :=
    (follows_step bounded event).bounded
  refine ⟨?_, ?_, ?_, ?_⟩
  · exact Runs.foldl_keeps (P := fun _ _ => True) (fun s event bounded _ => keeps s event bounded) (bounded_start max_size)
      (Runs.along_of_mem fun _ _ _ => trivial)
  · intro key value answered
    rcases Runs.origin Known (fun _ event item => event.Yields item.1 item.2) (fun _ _ => True) keeps
        (fun s event item bounded known => ((follows_step bounded event).known item known).imp_right fun before => ⟨before, trivial⟩)
        (bounded_start max_size) (t := (key, value)) (.inr answered) with ⟨before, event, after, rfl, yields, -⟩ | ⟨absent, -⟩
    · exact ⟨event, List.mem_append_right _ List.mem_cons_self, yields⟩
    · rcases absent with cached | answered
      · cases cached
      · cases answered
  · intro limit timed now key value hit
    rcases async_lookup_cases ttl now key (run ttl max_size events).results with ⟨other, cached, found, young⟩ | none | none
    · rw [found] at hit
      obtain rfl := Option.some.inj hit
      obtain ⟨time, stored, recent⟩ := young limit timed
      have live : ttl ≠ none := by
        rintro rfl
        cases timed
      refine ⟨time, recent, ?_⟩
      rcases Runs.origin Timed (fun s event item => event = .returned item.1.1 item.1.2 item.2 ∨
            event = .sync_called item.1.1 (some item.1.2) ∧ s.results.cache_times.get? item.1.1 = some item.2) (fun _ _ => True) keeps
          (fun s event item bounded held => by
            rcases (follows_step bounded event).timed live item held with returned | called | before
            · exact .inl (.inl returned)
            · exact .inl (.inr called)
            · exact .inr ⟨before, trivial⟩)
          (bounded_start max_size) (t := ((key, other), time)) ⟨cached, stored⟩ with ⟨before, event, after, rfl, made, -⟩ | ⟨⟨absent, -⟩, -⟩
      · refine ⟨before, event, after, rfl, ?_⟩
        rcases made with returned | ⟨called, earlier⟩
        · exact .inl returned
        · exact .inr ⟨called, time_returned earlier⟩
      · cases absent
    · rw [none] at hit
      cases hit
    · rw [none] at hit
      cases hit
  · intro on_loop
    have start : Unmixed ({} : Calls κ ν) :=
      ⟨fun k timed => absurd timed List.not_mem_nil, fun k answered => absurd answered List.not_mem_nil⟩
    have along : Runs.Along (step ttl max_size) (fun _ event => event.on_loop = true) ({} : Calls κ ν) events :=
      Runs.along_of_mem fun _ event member => on_loop event member
    exact (Runs.foldl_keeps (fun _ event kept on_loop => step_unmixed event on_loop kept) start along).2

end RevitPy.ResultCache
