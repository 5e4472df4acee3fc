import RevitPy.EventQueue
import RevitPy.ListEntries
import RevitPy.Runs

/-!
# No queued event is lost

Each accepted event is in one place: in the queue, with a thread that has taken it,
among those that an overflow or a clearing dropped, or among the processed ones. A
thread that finds the shutdown flag set leaves the rest of its batch in none.
-/

namespace RevitPy
open Runs
variable {ε : Type}

namespace EventQueue

/-- Each accepted event is in one place, the processed ones in the order of acceptance,
    and the queue holds no more than it may. -/
structure Conserved (q : EventQueue ε) : Prop where
  one_place : ∀ number < q.accepted, q.places number = 1
  ordered : q.processed.Pairwise (· < ·)
  bounded : q._event_queue.length ≤ q.max_queue_size

/-- A thread that looks at its next event does not find the shutdown flag set, and no
    other thread holds an event that was accepted before this one. -/
def Uninterrupted (q : EventQueue ε) : QueueStep ε → Prop
  | .loop thread => match q.threads[thread]? with
    | some (.processing (event :: _)) => q._shutdown_event = false ∧
        ∀ other phase, other ≠ thread → q.threads[other]? = some phase → ∀ held ∈ phase.batch, event.number < held.number
    | _ => True
  | _ => True

/-! ## What holds between the steps -/

/-- The processed events come before those that are held, and these before the queued ones. -/
structure Accounted (q : EventQueue ε) : Prop where
  places : ∀ number, q.places number = (List.range q.accepted).count number
  queued : (q._event_queue.map QueuedEvent.number).Pairwise (· < ·)
  batches : ∀ phase ∈ q.threads, (phase.batch.map QueuedEvent.number).Pairwise (· < ·)
  ordered : q.processed.Pairwise (· < ·)
  processed_held : ∀ number ∈ q.processed, ∀ event ∈ q.held, number < event.number
  processed_queued : ∀ number ∈ q.processed, ∀ event ∈ q._event_queue, number < event.number
  held_queued : ∀ event ∈ q.held, ∀ later ∈ q._event_queue, event.number < later.number
  bounded : q._event_queue.length ≤ q.max_queue_size

theorem Accounted.conserved {q : EventQueue ε} (accounted : q.Accounted) : q.Conserved where
  one_place number known := by
    rw [accounted.places, List.nodup_range.count, if_pos (List.mem_range.mpr known)]
  ordered := accounted.ordered
  bounded := accounted.bounded

/-- An event in some place has been accepted. -/
theorem Accounted.accepted {q : EventQueue ε} (accounted : q.Accounted) {number : Nat} (placed : 0 < q.places number) :
    number < q.accepted := by
  rw [accounted.places, List.count_pos_iff] at placed
  exact List.mem_range.mp placed

section
variable {q : EventQueue ε} {thread : Nat} {phase : LoopPhase ε} (found : q.threads[thread]? = some phase)
include found

theorem places_set (next : LoopPhase ε) (number : Nat) :
    { q with threads := q.threads.set thread next }.places number + (phase.batch.map QueuedEvent.number).count number =
      q.places number + (next.batch.map QueuedEvent.number).count number := by
  have moved := count_flatMap_set (f := fun t : LoopPhase ε => t.batch.map QueuedEvent.number) (b := next) found number
  simp only [places, held, List.map_flatMap]
  omega

omit found in
theorem mem_held_set {next : LoopPhase ε} {event : QueuedEvent ε} (member : event ∈ { q with threads := q.threads.set thread next }.held) :
    event ∈ next.batch ∨ ∃ other phase, other ≠ thread ∧ q.threads[other]? = some phase ∧ event ∈ phase.batch :=
  mem_flatMap_set member

theorem mem_held_of_getElem {event : QueuedEvent ε} (member : event ∈ phase.batch) : event ∈ q.held :=
  List.mem_flatMap.mpr ⟨phase, List.mem_of_getElem? found, member⟩

/-- A thread without a batch goes on to where it has none. -/
theorem Accounted.idle (accounted : q.Accounted) (was : phase.batch = []) {next : LoopPhase ε} (is : next.batch = []) :
    { q with threads := q.threads.set thread next }.Accounted := by
  have held_of (event : QueuedEvent ε) (member : event ∈ { q with threads := q.threads.set thread next }.held) : event ∈ q.held := by
    rcases mem_held_set member with here | ⟨other, phase, _, found', there⟩
    · simp [is] at here
    · exact mem_held_of_getElem found' there
  refine { accounted with places := ?_, batches := ?_, processed_held := ?_, held_queued := ?_ }
  · intro number
    have moved := places_set found next number
    rw [was, is] at moved
    rw [← accounted.places]
    simpa using moved
  · intro other member
    rcases List.mem_or_eq_of_mem_set member with inside | rfl
    · exact accounted.batches other inside
    · simp [is]
  · exact fun number done event member => accounted.processed_held number done event (held_of event member)
  · exact fun event member later queued => accounted.held_queued event (held_of event member) later queued

end

variable {q : EventQueue ε} (accounted : q.Accounted)
include accounted

/-- A thread takes a batch from the front of the queue. -/
theorem Accounted.fetch {thread : Nat} (found : q.threads[thread]? = some .fetching) (n : Nat) :
    { q with
      _event_queue := q._event_queue.drop n
      threads := q.threads.set thread (.processing (q._event_queue.take n)) }.Accounted := by
  have held_of (event : QueuedEvent ε) (member : event ∈ { q with threads := q.threads.set thread (.processing (q._event_queue.take n)) }.held) :
      event ∈ q._event_queue.take n ∨ event ∈ q.held := by
    rcases mem_held_set member with here | ⟨other, phase, _, found', there⟩
    · exact .inl here
    · exact .inr (mem_held_of_getElem found' there)
  have sorted := accounted.queued
  rw [← List.take_append_drop n q._event_queue, List.map_append, List.pairwise_append] at sorted
  obtain ⟨taken, left, between⟩ := sorted
  refine { accounted with
    places := ?_, queued := left, batches := ?_, processed_held := ?_, processed_queued := ?_, held_queued := ?_, bounded := ?_ }
  · intro number
    have moved := places_set found (.processing (q._event_queue.take n)) number
    have parts : (q._event_queue.map QueuedEvent.number).count number =
        ((q._event_queue.take n).map QueuedEvent.number).count number + ((q._event_queue.drop n).map QueuedEvent.number).count number := by
      rw [← List.count_append, ← List.map_append, List.take_append_drop]
    rw [← accounted.places]
    simp only [EventQueue.places, LoopPhase.batch, List.map_nil, List.count_nil, held] at moved ⊢
    omega
  · intro phase member
    rcases List.mem_or_eq_of_mem_set member with inside | rfl
    · exact accounted.batches phase inside
    · exact taken
  · intro number done event member
    rcases held_of event member with fetched | held
    · exact accounted.processed_queued number done event (List.mem_of_mem_take fetched)
    · exact accounted.processed_held number done event held
  · exact fun number done event member => accounted.processed_queued number done event (List.mem_of_mem_drop member)
  · intro event member later queued
    rcases held_of event member with fetched | held
    · exact between event.number (List.mem_map_of_mem fetched) later.number (List.mem_map_of_mem queued)
    · exact accounted.held_queued event held later (List.mem_of_mem_drop queued)
  · exact Nat.le_trans (List.drop_sublist _ _).length_le accounted.bounded

/-- A thread processes its next event, before every other event that is held. -/
theorem Accounted.process {thread : Nat} {event : QueuedEvent ε} {rest : List (QueuedEvent ε)}
    (found : q.threads[thread]? = some (.processing (event :: rest)))
    (first : ∀ other phase, other ≠ thread → q.threads[other]? = some phase → ∀ held ∈ phase.batch, event.number < held.number) :
    { q with threads := q.threads.set thread (.processing rest), processed := q.processed ++ [event.number] }.Accounted := by
  have here : event ∈ q.held := mem_held_of_getElem found List.mem_cons_self
  have sorted := accounted.batches _ (List.mem_of_getElem? found)
  rw [LoopPhase.batch, List.map_cons, List.pairwise_cons] at sorted
  have held_of (other : QueuedEvent ε) (member : other ∈ { q with threads := q.threads.set thread (.processing rest) }.held) :
      other ∈ q.held ∧ event.number < other.number := by
    rcases mem_held_set member with mine | ⟨j, phase, apart, found', there⟩
    · exact ⟨mem_held_of_getElem found (List.mem_cons_of_mem _ mine), sorted.1 other.number (List.mem_map_of_mem mine)⟩
    · exact ⟨mem_held_of_getElem found' there, first j phase apart found' other there⟩
  have processed_of (number : Nat) (member : number ∈ q.processed ++ [event.number]) : number ∈ q.processed ∨ number = event.number := by
    simpa using member
  refine { accounted with
    places := ?_, batches := ?_, ordered := ?_, processed_held := ?_, processed_queued := ?_, held_queued := ?_ }
  · intro number
    have moved := places_set found (.processing rest) number
    rw [← accounted.places]
    simp only [EventQueue.places, LoopPhase.batch, List.map_cons, List.count_cons, held, List.count_append, List.count_nil] at moved ⊢
    omega
  · intro phase member
    rcases List.mem_or_eq_of_mem_set member with inside | rfl
    · exact accounted.batches phase inside
    · exact sorted.2
  · refine List.pairwise_append.mpr ⟨accounted.ordered, List.pairwise_singleton _ _, ?_⟩
    intro number done last single
    exact List.mem_singleton.mp single ▸ accounted.processed_held number done event here
  · intro number done other member
    obtain ⟨held, later⟩ := held_of other member
    rcases processed_of number done with before | rfl
    · exact accounted.processed_held number before other held
    · exact later
  · intro number done other queued
    rcases processed_of number done with before | rfl
    · exact accounted.processed_queued number before other queued
    · exact accounted.held_queued event here other queued
  · exact fun other member later queued => accounted.held_queued other (held_of other member).1 later queued

/-- The front of the queue is dropped. -/
theorem Accounted.overflow (n : Nat) :
    { q with
      _event_queue := q._event_queue.drop n
      overflowed := q.overflowed ++ (q._event_queue.take n).map QueuedEvent.number }.Accounted := by
  have kept : (q._event_queue.drop n).Sublist q._event_queue := List.drop_sublist _ _
  refine { accounted with
    places := ?_, queued := accounted.queued.sublist (kept.map _), processed_queued := ?_, held_queued := ?_
    bounded := Nat.le_trans kept.length_le accounted.bounded }
  · intro number
    have parts : (q._event_queue.map QueuedEvent.number).count number =
        ((q._event_queue.take n).map QueuedEvent.number).count number + ((q._event_queue.drop n).map QueuedEvent.number).count number := by
      rw [← List.count_append, ← List.map_append, List.take_append_drop]
    rw [← accounted.places]
    simp only [EventQueue.places, held, List.count_append]
    omega
  · exact fun number done event queued => accounted.processed_queued number done event (kept.subset queued)
  · exact fun event member later queued => accounted.held_queued event member later (kept.subset queued)

/-- An accepted event is the last of all. -/
theorem Accounted.accept (room : q._event_queue.length < q.max_queue_size) (event_data : ε) :
    { q with accepted := q.accepted + 1, _event_queue := q._event_queue ++ [QueuedEvent.mk q.accepted event_data] }.Accounted := by
  have known (number : Nat) (placed : 0 < q.places number) : number < q.accepted := accounted.accepted placed
  have queued_known (event : QueuedEvent ε) (member : event ∈ q._event_queue) : event.number < q.accepted := by
    have counted := List.count_pos_iff.mpr (List.mem_map_of_mem (f := QueuedEvent.number) member)
    exact known _ (by simp only [EventQueue.places]; omega)
  have held_known (event : QueuedEvent ε) (member : event ∈ q.held) : event.number < q.accepted := by
    have counted := List.count_pos_iff.mpr (List.mem_map_of_mem (f := QueuedEvent.number) member)
    exact known _ (by simp only [EventQueue.places]; omega)
  have processed_known (number : Nat) (member : number ∈ q.processed) : number < q.accepted := by
    have counted := List.count_pos_iff.mpr member
    exact known _ (by simp only [EventQueue.places]; omega)
  have last_of (event : QueuedEvent ε) (member : event ∈ q._event_queue ++ [QueuedEvent.mk q.accepted event_data]) :
      event ∈ q._event_queue ∨ event.number = q.accepted := by
    rcases List.mem_append.mp member with before | last
    · exact .inl before
    · exact .inr (List.mem_singleton.mp last ▸ rfl)
  refine { accounted with places := ?_, queued := ?_, processed_queued := ?_, held_queued := ?_, bounded := ?_ }
  · intro number
    have before := accounted.places number
    simp only [EventQueue.places, held, List.map_append, List.map_cons, List.map_nil, List.range_succ, List.count_append] at before ⊢
    omega
  · rw [List.map_append]
    refine List.pairwise_append.mpr ⟨accounted.queued, List.pairwise_singleton _ _, ?_⟩
    intro number member last single
    obtain ⟨event, queued, rfl⟩ := List.mem_map.mp member
    exact List.mem_singleton.mp single ▸ queued_known event queued
  · intro number done event member
    rcases last_of event member with before | last
    · exact accounted.processed_queued number done event before
    · exact last ▸ processed_known number done
  · intro event member later queued
    rcases last_of later queued with before | last
    · exact accounted.held_queued event member later before
    · exact last ▸ held_known event member
  · rw [List.length_append]
    exact room

theorem Accounted.queue_event (positive : 1 ≤ q.max_queue_size) (event_data : ε) : (q._queue_event event_data).Accounted := by
  have bounded := accounted.bounded
  show (if _ then _ else _ : EventQueue ε).Accounted
  split
  · next full =>
    have room : (q._event_queue.drop 1).length < q.max_queue_size := by
      rw [List.length_drop]
      simp only at full
      omega
    have queued := (accounted.overflow 1).accept room event_data
    exact { queued with }
  · next room =>
    have queued := accounted.accept (Nat.lt_of_not_le room) event_data
    exact { queued with }

theorem Accounted.clear : q.clear_queue.Accounted := by
  refine { accounted with
    places := ?_, queued := List.Pairwise.nil, processed_queued := ?_, held_queued := ?_, bounded := Nat.zero_le _ }
  · intro number
    have same : q.clear_queue.places number = q.places number := by
      simp only [EventQueue.places, clear_queue, held, List.map_nil, List.count_nil, List.count_append]
      omega
    rw [same]
    exact accounted.places number
  · exact fun _ _ _ member => absurd member List.not_mem_nil
  · exact fun _ _ _ member => absurd member List.not_mem_nil

theorem Accounted.process_events_loop {thread : Nat} (uninterrupted : q.Uninterrupted (.loop thread)) :
    (q._process_events_loop thread).Accounted := by
  simp only [Uninterrupted] at uninterrupted
  rw [_process_events_loop]
  rcases found : q.threads[thread]? with _ | (_ | _ | (_ | ⟨event, rest⟩) | _)
  · exact accounted
  · show (if _ then _ else _ : EventQueue ε).Accounted
    split
    · exact accounted.idle found rfl rfl
    · have stopped : { q with threads := q.threads.set thread .stopped }.Accounted := accounted.idle found rfl rfl
      exact { stopped with }
  · simp only
    have fetched := accounted.fetch found q.batch_length
    rcases taken : q._event_queue.take q.batch_length with _ | ⟨event, rest⟩
    · exact accounted.idle found rfl rfl
    · rwa [taken] at fetched
  · exact accounted.idle found rfl rfl
  · rw [found] at uninterrupted
    obtain ⟨running, first⟩ := uninterrupted
    show (if _ then _ else _ : EventQueue ε).Accounted
    rw [if_neg (by simp [running])]
    exact accounted.process found first
  · exact accounted

theorem Accounted.start_processing : q._start_processing.Accounted := by
  have held_same : q._start_processing.held = q.held := by simp [held, _start_processing, LoopPhase.batch]
  refine { accounted with places := ?_, batches := ?_, processed_held := ?_, held_queued := ?_ }
  · intro number
    rw [EventQueue.places, held_same]
    exact accounted.places number
  · intro phase member
    rcases List.mem_append.mp member with before | last
    · exact accounted.batches phase before
    · rw [List.mem_singleton.mp last]
      exact List.Pairwise.nil
  · exact held_same ▸ accounted.processed_held
  · exact held_same ▸ accounted.held_queued

theorem Accounted.step (positive : 1 ≤ q.max_queue_size) (a : QueueStep ε) (uninterrupted : q.Uninterrupted a) :
    (q.step a).Accounted := by
  cases a with
  | dispatch_event event_data => exact accounted.queue_event positive event_data
  | notice =>
    show (if _ then _ else _ : EventQueue ε).Accounted
    split
    · exact accounted
    · split
      · exact { accounted with }
      · exact { accounted with }
  | _start_processing =>
    show (if _ then _ else _ : EventQueue ε).Accounted
    split
    · exact accounted
    · exact { accounted.start_processing with }
  | loop thread => exact accounted.process_events_loop uninterrupted
  | stop_processing =>
    show (if _ then _ else _ : EventQueue ε).Accounted
    split
    · exact { accounted with }
    · exact accounted
  | joined =>
    show (if _ then _ else _ : EventQueue ε).Accounted
    split
    · exact accounted
    · exact { accounted with }
  | clear_queue => exact accounted.clear

omit accounted

theorem step_max_queue_size (q : EventQueue ε) (a : QueueStep ε) : (q.step a).max_queue_size = q.max_queue_size := by
  cases a with
  | dispatch_event event_data =>
    simp only [step, _queue_event]
    split <;> rfl
  | notice =>
    simp only [step]
    split
    · rfl
    · split <;> rfl
  | _start_processing =>
    simp only [step]
    split <;> rfl
  | loop thread =>
    simp only [step, _process_events_loop]
    split
    · split <;> rfl
    · split <;> rfl
    · rfl
    · split <;> rfl
    · rfl
    · rfl
  | stop_processing =>
    simp only [step, stop_processing]
    split <;> rfl
  | joined =>
    simp only [step]
    split <;> rfl
  | clear_queue => rfl

theorem accounted_init (max_queue_size : Nat) (batch_size : Int) : (init max_queue_size batch_size : EventQueue ε).Accounted where
  places := by simp [EventQueue.places, held, init]
  queued := .nil
  batches := by simp [init]
  ordered := .nil
  processed_held := by simp [init]
  processed_queued := by simp [init]
  held_queued := by simp [init]
  bounded := Nat.zero_le _

/-- What a thread holds when it meets the shutdown flag is in no place any more. -/
theorem Accounted.lost {q : EventQueue ε} (accounted : q.Accounted) {thread : Nat} {event : QueuedEvent ε} {rest : List (QueuedEvent ε)}
    (found : q.threads[thread]? = some (.processing (event :: rest))) (stopping : q._shutdown_event = true) :
    event.number < (q.step (.loop thread)).accepted ∧ (q.step (.loop thread)).places event.number = 0 := by
  have left : q.step (.loop thread) = { q with threads := q.threads.set thread .checking } := by
    simp only [EventQueue.step, _process_events_loop, found, stopping, ↓reduceIte]
  have moved := places_set found .checking event.number
  have one : q.places event.number ≤ 1 := by
    rw [accounted.places, List.nodup_range.count]
    split
    · exact Nat.le_refl 1
    · exact Nat.zero_le 1
  have known : 0 < q.places event.number := by
    have held : event ∈ q.held := mem_held_of_getElem found List.mem_cons_self
    have counted := List.count_pos_iff.mpr (List.mem_map_of_mem (f := QueuedEvent.number) held)
    simp only [EventQueue.places]
    omega
  rw [left]
  refine ⟨accounted.accepted known, ?_⟩
  simp only [LoopPhase.batch, List.map_cons, List.count_cons_self, List.map_nil, List.count_nil] at moved
  omega

/-- Two events are queued and processing starts; it is stopped after the first. -/
def stopped_after_first : List (QueueStep String) :=
  [.dispatch_event "opened", .dispatch_event "saved", .notice, ._start_processing, .loop 0, .loop 0, .loop 0,
    .stop_processing, .loop 0, .loop 0, .joined]

end EventQueue
end RevitPy
