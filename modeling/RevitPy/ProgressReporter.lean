import Mathlib.Data.List.Chain
import RevitPy.Dict

/-!
# Reports of progress

A reporter tells its callbacks how far an operation is, but not more often than ten times
a second. It is compared with the same reporter without that limit: both always know the
same progress, and what the limit holds back are updates below the total alone.
-/

namespace RevitPy

/-- Progress state enumeration. -/
inductive ProgressState
  | NOT_STARTED
  | IN_PROGRESS
  | COMPLETED
  | FAILED
  | CANCELLED
  deriving DecidableEq

/-- Progress report containing current status information. -/
structure ProgressReport (δ : Type) where
  current : Int
  total : Int
  message : Option String
  state : ProgressState
  data : Dict String δ := ∅

/-- The callbacks were notified of a report, which came from an update or not. -/
structure Notice (γ δ : Type) where
  is_update : Bool
  time : Int
  report : ProgressReport δ
  callbacks : List γ

/-- Times are microseconds. The notices are all that were given, in order. -/
structure ProgressReporter (γ δ : Type) where
  _callbacks : List γ := []
  _current : Int := 0
  _total : Int
  _state : ProgressState := .NOT_STARTED
  _last_report : Option (ProgressReport δ) := none
  _throttle_interval : Int := 100000
  _last_report_time : Option Int := none
  notices : List (Notice γ δ) := []

/-- An error is known by its text and by the name of its type. -/
inductive ReporterCall (γ δ : Type)
  | add_callback (callback : γ)
  | remove_callback (callback : γ)
  | set_total (total : Int)
  | start (message : Option String)
  | increment (amount : Int) (message : Option String) (data : Dict String δ)
  | set_progress (current : Int) (message : Option String) (data : Dict String δ)
  | report_progress (current total : Int) (message : Option String) (data : Dict String δ)
  | report (progress : ProgressReport δ)
  | complete (message : Option String) (data : Dict String δ)
  | fail (message : Option String) (error : Option (String × String)) (data : Dict String δ)
  | cancel (message : Option String) (data : Dict String δ)

namespace ProgressReporter
variable {γ δ : Type}

/-- `message or default` -/
def or_default (message : Option String) (default : String) : String := match message with
  | some message => if message = "" then default else message
  | none => default

/-- Notify all registered callbacks. What they raise is logged. -/
def _notify_callbacks (r : ProgressReporter γ δ) (is_update : Bool) (now : Int) (report : ProgressReport δ) : ProgressReporter γ δ :=
  { r with _last_report := some report, notices := r.notices ++ [⟨is_update, now, report, r._callbacks⟩] }

/-- A report about the present state. -/
def notify (r : ProgressReporter γ δ) (is_update : Bool) (now : Int) (message : Option String) (data : Dict String δ) : ProgressReporter γ δ :=
  r._notify_callbacks is_update now ⟨r._current, r._total, message, r._state, data⟩

/-- The last update is too recent for another one. -/
def throttled (r : ProgressReporter γ δ) (now : Int) : Bool :=
  (r._last_report_time.any fun time => decide (now - time < r._throttle_interval)) && decide (r._current < r._total)

/-- Auto-complete if the total is reached. -/
def auto_complete (r : ProgressReporter γ δ) : ProgressReporter γ δ :=
  { r with _state := if r._total ≤ r._current ∧ r._state = .IN_PROGRESS then .COMPLETED else r._state }

/-- Update progress and notify callbacks, unless updates are held back. -/
def _update_progress (held : ProgressReporter γ δ → Int → Bool) (r : ProgressReporter γ δ) (now : Int) (message : Option String)
    (data : Dict String δ) : ProgressReporter γ δ :=
  if held r now then r else { r with _last_report_time := some now }.auto_complete.notify true now message data

/-- A failure: without an error, its message is not used. -/
def failure_message (message : Option String) : Option (String × String) → String
  | some error => or_default message ("Failed: " ++ error.1)
  | none => "Failed"

def failure_data (text : String → δ) (data : Dict String δ) : Option (String × String) → Dict String δ
  | some error => (data.set "error" (text error.1)).set "error_type" (text error.2)
  | none => data

variable [DecidableEq γ] (text : String → δ)

/-- A call at a time. -/
def call (held : ProgressReporter γ δ → Int → Bool) (r : ProgressReporter γ δ) (now : Int) : ReporterCall γ δ → ProgressReporter γ δ
  | .add_callback callback => { r with _callbacks := r._callbacks ++ [callback] }
  | .remove_callback callback => { r with _callbacks := r._callbacks.erase callback }
  | .set_total total => _update_progress held { r with _total := total } now none ∅
  | .start message =>
    notify { r with _state := .IN_PROGRESS, _current := 0 } false now (some (or_default message "Starting...")) ∅
  | .increment amount message data => _update_progress held { r with _current := min r._total (r._current + amount) } now message data
  | .set_progress current message data => _update_progress held { r with _current := max 0 (min r._total current) } now message data
  | .report_progress current total message data =>
    _update_progress held { r with _current := max 0 current, _total := max 0 total } now message data
  | .report progress =>
    _notify_callbacks { r with _current := progress.current, _total := progress.total, _state := progress.state } false now progress
  | .complete message data =>
    notify { r with _current := r._total, _state := .COMPLETED } false now (some (or_default message "Completed")) data
  | .fail message error data =>
    notify { r with _state := .FAILED } false now (some (failure_message message error)) (failure_data text data error)
  | .cancel message data => notify { r with _state := .CANCELLED } false now (some (or_default message "Cancelled")) data

/-- The calls of a run, each with the time at which it is made. -/
def run (held : ProgressReporter γ δ → Int → Bool) (r : ProgressReporter γ δ) (calls : List (Int × ReporterCall γ δ)) : ProgressReporter γ δ :=
  calls.foldl (fun r call => r.call text held call.1 call.2) r

/-- No update is held back. -/
def unlimited (_ : ProgressReporter γ δ) (_ : Int) : Bool := false

/-! ## What the limit holds back -/

/-- A notice that the limit lets pass at any time. -/
def Notice.passes (n : Notice γ δ) : Bool := !n.is_update || decide (n.report.total ≤ n.report.current)

/-- The later update has reached the total, or comes an interval after the earlier one. -/
def Apart (interval : Int) (earlier later : Notice γ δ) : Prop :=
  later.report.current < later.report.total → interval ≤ later.time - earlier.time

/-- A reporter beside the one without the limit. -/
structure Follows (interval : Int) (r plain : ProgressReporter γ δ) : Prop where
  same_interval : r._throttle_interval = interval
  callbacks : r._callbacks = plain._callbacks
  current : r._current = plain._current
  total : r._total = plain._total
  state : r._state = plain._state
  fewer : r.notices.Sublist plain.notices
  passing : r.notices.filter Notice.passes = plain.notices.filter Notice.passes
  apart : (r.notices.filter Notice.is_update).IsChain (Apart interval)
  latest_update : ∀ n ∈ (r.notices.filter Notice.is_update).getLast?, r._last_report_time = some n.time
  latest : r._last_report = r.notices.getLast?.map Notice.report

section
variable {interval : Int} {r plain : ProgressReporter γ δ}

omit [DecidableEq γ] in
/-- Both reporters learn the same. -/
theorem Follows.progress (follows : Follows interval r plain) {current current' total total' : Int} {state state' : ProgressState}
    (same_current : current = current') (same_total : total = total') (same_state : state = state') :
    Follows interval { r with _current := current, _total := total, _state := state }
      { plain with _current := current', _total := total', _state := state' } :=
  ⟨follows.same_interval, follows.callbacks, same_current, same_total, same_state, follows.fewer, follows.passing, follows.apart,
    follows.latest_update, follows.latest⟩

omit [DecidableEq γ] in
/-- Both give the same notice, which is no update. -/
theorem Follows.notify_callbacks (follows : Follows interval r plain) (now : Int) (report : ProgressReport δ) :
    Follows interval (r._notify_callbacks false now report) (plain._notify_callbacks false now report) where
  same_interval := follows.same_interval
  callbacks := follows.callbacks
  current := follows.current
  total := follows.total
  state := follows.state
  fewer := by
    simp only [_notify_callbacks, follows.callbacks]
    exact follows.fewer.append (List.Sublist.refl _)
  passing := by simp only [_notify_callbacks, follows.callbacks, List.filter_append, follows.passing]
  apart := by simpa [_notify_callbacks, List.filter_append] using follows.apart
  latest_update := by simpa [_notify_callbacks, List.filter_append] using follows.latest_update
  latest := by simp [_notify_callbacks]

omit [DecidableEq γ] in
theorem Follows.notify (follows : Follows interval r plain) (now : Int) (message : Option String) (data : Dict String δ) :
    Follows interval (r.notify false now message data) (plain.notify false now message data) := by
  unfold ProgressReporter.notify
  rw [follows.current, follows.total, follows.state]
  exact follows.notify_callbacks now _

omit [DecidableEq γ] in
/-- An update that is held back shows less than the total. -/
theorem Follows.hold_back (follows : Follows interval r plain) (now : Int) (message : Option String) (data : Dict String δ)
    (held : r.throttled now = true) : Follows interval r (plain._update_progress unlimited now message data) := by
  have below : r._current < r._total := by simpa using (Bool.and_eq_true_iff.mp held).2
  have below : plain._current < plain._total := by
    rw [← follows.current, ← follows.total]
    exact below
  have reached : ¬(plain._total ≤ plain._current ∧ plain._state = .IN_PROGRESS) := fun reached => Int.not_le.mpr below reached.1
  refine ⟨follows.same_interval, follows.callbacks, follows.current, follows.total, ?_, ?_, ?_, follows.apart, follows.latest_update, follows.latest⟩
  · simpa [_update_progress, unlimited, auto_complete, ProgressReporter.notify, _notify_callbacks, reached] using follows.state
  · simpa [_update_progress, unlimited, auto_complete, ProgressReporter.notify, _notify_callbacks] using
      follows.fewer.trans (List.sublist_append_left _ _)
  · simpa [_update_progress, unlimited, auto_complete, ProgressReporter.notify, _notify_callbacks, List.filter_append, Notice.passes, below]
      using follows.passing

omit [DecidableEq γ] in
/-- An update that is given is far enough from the one before. -/
theorem Follows.let_pass (follows : Follows interval r plain) (now : Int) (message : Option String) (data : Dict String δ)
    (in_time : r.throttled now = false) :
    Follows interval (r._update_progress throttled now message data) (plain._update_progress unlimited now message data) := by
  let state := if plain._total ≤ plain._current ∧ plain._state = .IN_PROGRESS then ProgressState.COMPLETED else plain._state
  let notice : Notice γ δ := ⟨true, now, ⟨plain._current, plain._total, message, state, data⟩, plain._callbacks⟩
  have given : r._update_progress throttled now message data =
      { r with
        _last_report_time := some now
        _state := state
        _last_report := some notice.report
        notices := r.notices ++ [notice] } := by
    simp [_update_progress, in_time, auto_complete, ProgressReporter.notify, _notify_callbacks, follows.current, follows.total, follows.state,
      follows.callbacks, notice, state]
  have plainly : plain._update_progress unlimited now message data =
      { plain with
        _last_report_time := some now
        _state := state
        _last_report := some notice.report
        notices := plain.notices ++ [notice] } := rfl
  rw [given, plainly]
  refine ⟨follows.same_interval, follows.callbacks, follows.current, follows.total, rfl, follows.fewer.append (List.Sublist.refl _), ?_, ?_, ?_, ?_⟩
  · simp only [List.filter_append, follows.passing]
  · rw [List.filter_append, List.filter_cons_of_pos rfl, List.filter_nil, List.isChain_append]
    refine ⟨follows.apart, List.isChain_singleton _, fun earlier last later same => ?_⟩
    obtain rfl : notice = later := by simpa using same
    intro below
    have time := follows.latest_update earlier last
    have below : r._current < r._total := by
      rw [follows.current, follows.total]
      exact below
    rw [throttled, time] at in_time
    simpa [below, follows.same_interval] using in_time
  · simp [List.filter_append, notice]
  · simp

omit [DecidableEq γ] in
theorem Follows.update (follows : Follows interval r plain) (now : Int) (message : Option String) (data : Dict String δ) :
    Follows interval (r._update_progress throttled now message data) (plain._update_progress unlimited now message data) := by
  cases held : r.throttled now with
  | false => exact follows.let_pass now message data held
  | true =>
    rw [show r._update_progress throttled now message data = r from if_pos held]
    exact follows.hold_back now message data held

theorem Follows.call (follows : Follows interval r plain) (now : Int) (call : ReporterCall γ δ) :
    Follows interval (r.call text throttled now call) (plain.call text unlimited now call) := by
  have current := follows.current
  have total := follows.total
  have state := follows.state
  cases call with
  | add_callback callback =>
    exact ⟨follows.same_interval, by simp only [ProgressReporter.call, follows.callbacks], current, total, state, follows.fewer, follows.passing,
      follows.apart, follows.latest_update, follows.latest⟩
  | remove_callback callback =>
    exact ⟨follows.same_interval, by simp only [ProgressReporter.call, follows.callbacks], current, total, state, follows.fewer, follows.passing,
      follows.apart, follows.latest_update, follows.latest⟩
  | set_total _ => exact (follows.progress current rfl state).update now _ _
  | start _ => exact (follows.progress rfl total rfl).notify now _ _
  | increment _ _ _ => exact (follows.progress (by rw [current, total]) total state).update now _ _
  | set_progress _ _ _ => exact (follows.progress (by rw [total]) total state).update now _ _
  | report_progress _ _ _ _ => exact (follows.progress rfl rfl state).update now _ _
  | report progress => exact (follows.progress rfl rfl rfl).notify_callbacks now progress
  | complete _ _ => exact (follows.progress total total rfl).notify now _ _
  | fail _ _ _ => exact (follows.progress current total rfl).notify now _ _
  | cancel _ _ => exact (follows.progress current total rfl).notify now _ _

theorem Follows.run (follows : Follows interval r plain) (calls : List (Int × ReporterCall γ δ)) :
    Follows interval (r.run text throttled calls) (plain.run text unlimited calls) := by
  induction calls generalizing r plain with
  | nil => exact follows
  | cons call rest ih => exact ih (follows.call text call.1 call.2)

end

/-- Over every run, the limit costs nothing but updates below the total: the progress and the
    state are those of the reporter without the limit, the notices are some of its notices in
    their order, and all of those that are no such updates. Updates below the total come at
    least an interval after the update before, and the last report is that of the last notice. -/
theorem limit_holds_back_only_updates (total : Int) (calls : List (Int × ReporterCall γ δ)) :
    Follows 100000 (run text throttled { _total := total } calls) (run text unlimited { _total := total } calls) := by
  have start : Follows (γ := γ) (δ := δ) 100000 { _total := total } { _total := total } :=
    ⟨rfl, rfl, rfl, rfl, rfl, List.Sublist.refl _, rfl, .nil, nofun, rfl⟩
  exact start.run text calls

end ProgressReporter
end RevitPy
