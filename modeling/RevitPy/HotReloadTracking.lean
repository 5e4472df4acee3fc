import RevitPy.HotReloadManager

/-!
# The files that stay tracked

What a removal untracks begins with the text of the path, and what a batch does for a file
is decided by the first change of the latest timestamp. Both are right exactly where these
are the files inside and the last change.
-/

namespace RevitPy.Host.HotReloadManager
open Runs StableSort

variable {paths : WatchPaths} {m : HotReloadManager} {changes : List FileChangeEvent}

/-! ## Removals -/

/-- What lies inside a directory begins with its text. -/
theorem startsWith_of_inside {directory file : String} (within : inside paths directory file = true) :
    startsWith paths file directory.toList = true := by
  unfold inside at within
  split at within
  · exact within
  · simp only [startsWith, List.isPrefixOf_iff_prefix, List.map_append] at within ⊢
    exact (List.prefix_append _ _).trans within

theorem stepsRight_remove_iff (path : String) :
    StepsRight paths m (.removeWatchPath path) ↔ Meets paths m (.removeWatchPath path) := by
  refine forall_congr' fun p => forall_congr' fun full => ?_
  unfold removeWatchPath
  simp only [full, Dict.contains_iff]
  by_cases watched : p ∈ m.watchers.keys
  · simp only [watched, if_true, List.mem_filter, Bool.not_eq_true', Dict.mem_keys_erase, and_congr_right_iff]
    refine forall_congr' fun f => imp_congr_right fun tracked => ?_
    constructor
    · intro exact begins
      have untracked : ¬startsWith paths f p.toList = false := by simp [begins]
      obtain ⟨within, alone⟩ := not_not.mp (mt exact.mpr untracked)
      exact ⟨within, fun q known other => alone q ⟨known, other⟩⟩
    · intro meets
      constructor
      · intro apart within
        rw [startsWith_of_inside within.1] at apart
        cases apart
      · intro kept
        by_contra begins
        obtain ⟨within, alone⟩ := meets (by simpa using begins)
        exact kept ⟨within, fun q known => alone q known.1 known.2⟩
  · simp only [watched, if_false]
    refine forall_congr' fun f => ?_
    constructor
    · intro exact tracked within
      by_contra apart
      refine (exact.mp tracked).2 ⟨within, fun q known => ?_⟩
      by_contra held
      exact apart ⟨q, known, by simpa using held⟩
    · intro meets
      refine ⟨fun tracked => ⟨tracked, ?_⟩, And.left⟩
      rintro ⟨within, apart⟩
      obtain ⟨q, known, held⟩ := meets tracked within
      rw [apart q known] at held
      cases held

/-! ## Batches -/

theorem newerFirst_totalPreorder : TotalPreorder newerFirst where
  trans a b c first second := by
    simp only [newerFirst, decide_eq_true_eq] at *
    omega
  total a b := by
    simp only [newerFirst, Bool.or_eq_true, decide_eq_true_eq]
    omega

/-- A batch keeps for each path the first change of the latest timestamp. -/
theorem mem_latestChanges_iff (c : FileChangeEvent) : c ∈ latestChanges changes ↔ IsFirst newerFirst (own changes c.filePath) c := by
  have of_own {f : String} {d : FileChangeEvent} (first : IsFirst newerFirst (own changes f) d) : d ∈ changes ∧ d.filePath = f := by
    obtain ⟨before, after, shape, -, -⟩ := first
    have member : d ∈ own changes f := by simp [shape]
    simpa [own] using member
  simp only [latestChanges, List.mem_filterMap, List.mem_eraseDups, head?_mergeSort_iff newerFirst_totalPreorder]
  constructor
  · rintro ⟨f, -, first⟩
    rwa [(of_own first).2]
  · intro first
    exact ⟨c.filePath, List.mem_map_of_mem (of_own first).1, first⟩

/-- A path with changes has a first one of the latest timestamp. -/
theorem exists_first {f : String} {c : FileChangeEvent} (member : c ∈ own changes f) : ∃ d, IsFirst newerFirst (own changes f) d := by
  cases head : ((own changes f).mergeSort newerFirst).head? with
  | none =>
    have sorted := (own changes f).mergeSort_perm newerFirst
    rw [List.head?_eq_none_iff.mp head] at sorted
    rw [← sorted.nil_eq] at member
    cases member
  | some d => exact ⟨d, (head?_mergeSort_iff newerFirst_totalPreorder).mp head⟩

theorem filePath_of_first {f : String} {c : FileChangeEvent} (first : IsFirst newerFirst (own changes f) c) : c.filePath = f := by
  obtain ⟨before, after, shape, -, -⟩ := first
  have member : c ∈ own changes f := by simp [shape]
  simpa [own] using (List.mem_filter.mp member).2

/-- What a batch does for a file. -/
theorem mem_processed_iff (active : m.isActive = true) (fileExists : String → Bool) (f : String) (action : FileAction) :
    (f, action) ∈ (m.processPendingChanges fileExists).processed ↔
      ∃ c, IsFirst newerFirst (own m.pendingChanges f) c ∧ action = if c.type = .Deleted then .untrack else .reload := by
  have kept {c : FileChangeEvent} : c ∈ latestChanges m.pendingChanges ∧ c.filePath = f ↔ IsFirst newerFirst (own m.pendingChanges f) c := by
    rw [mem_latestChanges_iff]
    constructor
    · rintro ⟨first, rfl⟩
      exact first
    · intro first
      rw [filePath_of_first first]
      exact ⟨first, rfl⟩
  simp only [processPendingChanges, active, Bool.not_true, Bool.false_eq_true, if_false, List.mem_append, List.map_map, List.mem_map,
    List.mem_filter, Function.comp_apply, Prod.mk.injEq, decide_eq_true_eq]
  constructor
  · rintro (⟨c, ⟨latest, other⟩, path, rfl⟩ | ⟨c, ⟨latest, deletion⟩, path, rfl⟩)
    · exact ⟨c, kept.mp ⟨latest, path⟩, (if_neg other).symm⟩
    · exact ⟨c, kept.mp ⟨latest, path⟩, (if_pos deletion).symm⟩
  · rintro ⟨c, first, rfl⟩
    obtain ⟨latest, path⟩ := kept.mpr first
    by_cases deletion : c.type = .Deleted
    · exact .inr ⟨c, ⟨latest, deletion⟩, path, (if_pos deletion).symm⟩
    · exact .inl ⟨c, ⟨latest, deletion⟩, path, (if_neg deletion).symm⟩

theorem not_mem_of_untracked {fileExists : String → Bool} {f : String}
    (untracked : (f, .untrack) ∈ (m.processPendingChanges fileExists).processed) : f ∉ (m.processPendingChanges fileExists).watchedFiles := by
  unfold processPendingChanges at untracked ⊢
  split at untracked
  · simp at untracked
  · next active =>
    have deleted : f ∈ ((latestChanges m.pendingChanges).filter fun c => c.type = .Deleted).map (·.filePath) := by
      simpa using untracked
    rw [if_neg active, List.mem_filter]
    exact fun left => (of_decide_eq_true left.2) deleted

theorem due_untrack_iff (f : String) : due changes f = some .untrack ↔ EndsGone changes f := by
  unfold due EndsGone
  cases lastChange changes f with
  | none => simp
  | some c => by_cases gone : c.type = .Deleted ∨ c.filePath ≠ f <;> simp [gone]

/-- A file with changes of its path has a last change, and one whose last change is not the end of it has changes of its path. -/
theorem due_of_own {f : String} {c : FileChangeEvent} (member : c ∈ own changes f) : ∃ action, due changes f = some action := by
  unfold due lastChange
  have about : c ∈ changes.filter fun c => c.filePath = f ∨ c.oldPath = some f := by
    simp only [own, List.mem_filter, decide_eq_true_eq] at member ⊢
    exact ⟨member.1, .inl member.2⟩
  rw [List.getLast?_eq_some_getLast (List.ne_nil_of_mem about)]
  exact ⟨_, rfl⟩

theorem own_of_due_reload {f : String} (reload : due changes f = some .reload) : ∃ c, c ∈ own changes f := by
  unfold due lastChange at reload
  obtain ⟨c, last, kind⟩ := Option.map_eq_some_iff.mp reload
  have member := List.mem_of_getLast? last
  by_cases gone : c.type = .Deleted ∨ c.filePath ≠ f
  · simp [gone] at kind
  · rw [not_or, not_not] at gone
    exact ⟨c, List.mem_filter.mpr ⟨(List.mem_filter.mp member).1, decide_eq_true gone.2⟩⟩

theorem stepsRight_process_iff (idle : m.isActive = false → m.pendingChanges = []) (fileExists : String → Bool) :
    StepsRight paths m (.processPendingChanges fileExists) ↔ Meets paths m (.processPendingChanges fileExists) := by
  cases active : m.isActive with
  | false =>
    have empty := idle active
    simp [StepsRight, Meets, processPendingChanges, active, empty, due, EndsGone, lastChange, own, IsFirst]
  | true =>
    constructor
    · intro right f
      have here := right.1 f .untrack
      rw [mem_processed_iff active, due_untrack_iff] at here
      rw [← here]
      refine exists_congr fun c => and_congr_right fun _ => ?_
      by_cases deletion : c.type = .Deleted <;> simp [deletion]
    · intro meets
      have right (f : String) (action : FileAction) : (f, action) ∈ (m.processPendingChanges fileExists).processed ↔
          due m.pendingChanges f = some action := by
        rw [mem_processed_iff active]
        cases action with
        | untrack =>
          rw [due_untrack_iff, ← meets f]
          refine exists_congr fun c => and_congr_right fun _ => ?_
          by_cases deletion : c.type = .Deleted <;> simp [deletion]
        | reload =>
          constructor
          · rintro ⟨c, first, kind⟩
            have other : c.type ≠ .Deleted := fun deletion => by simp [deletion] at kind
            obtain ⟨before, after, shape, -, -⟩ := id first
            obtain ⟨action, asked⟩ := due_of_own (show c ∈ own m.pendingChanges f by simp [shape])
            cases action with
            | reload => exact asked
            | untrack =>
              obtain ⟨d, first', deletion⟩ := (meets f).mpr ((due_untrack_iff f).mp asked)
              exact absurd (isFirst_unique first first' ▸ deletion) other
          · intro asked
            obtain ⟨d, member⟩ := own_of_due_reload asked
            obtain ⟨c, first⟩ := exists_first member
            refine ⟨c, first, ?_⟩
            rw [if_neg]
            intro deletion
            rw [(due_untrack_iff f).mpr ((meets f).mp ⟨c, first, deletion⟩)] at asked
            cases asked
      exact ⟨right, fun f gone => not_mem_of_untracked ((right f .untrack).mpr gone)⟩

/-! ## Runs -/

/-- An inactive manager has no pending changes. -/
def Idle (m : HotReloadManager) : Prop := m.isActive = false → m.pendingChanges = []

theorem idle_step (m : HotReloadManager) (input : HotReloadInput) (idle : m.Idle) : (m.step paths input).Idle := by
  cases input with
  | addWatchPath path recursive met =>
    simp only [step, addWatchPath]
    split
    · exact idle
    · split
      · exact idle
      · split <;> exact idle
  | removeWatchPath path =>
    simp only [step, removeWatchPath]
    split
    · exact idle
    · split <;> exact idle
  | fileEvent e utcNow =>
    simp only [step]
    split
    · next active => exact fun inactive => absurd (active.symm.trans inactive) Bool.noConfusion
    · exact idle
  | processPendingChanges fileExists =>
    simp only [step, processPendingChanges]
    split
    · exact idle
    · exact fun _ => rfl

/-- Every step of a run is right exactly where every step meets the condition. -/
theorem steps_right_iff (paths : WatchPaths) (isEnabled isActive : Bool) (inputs : List HotReloadInput) :
    Along (step paths) (StepsRight paths) { isEnabled, isActive } inputs ↔ Along (step paths) (Meets paths) { isEnabled, isActive } inputs := by
  refine along_congr idle_step (fun m input idle => ?_) fun _ => rfl
  cases input with
  | removeWatchPath path => exact stepsRight_remove_iff path
  | processPendingChanges fileExists => exact stepsRight_process_iff idle fileExists
  | addWatchPath path recursive met => exact Iff.rfl
  | fileEvent e utcNow => exact Iff.rfl

/-- Paths that are full already. -/
def plainPaths : WatchPaths where
  isNullOrWhiteSpace path := path.isEmpty
  getFullPath := some
  separator := '/'
  upper := Char.toUpper

/-- A removal untracks a file of a directory whose name only begins alike, a file is reloaded that was deleted at the
    time of an earlier change, and one that was renamed stays tracked under its old name. -/
theorem tracking_wrong :
    (¬Along (step plainPaths) (StepsRight plainPaths) { isEnabled := true, isActive := true }
      [.addWatchPath "/ext" true {}, .addWatchPath "/ext2" true { files := some ["/ext2/a.py"] }, .removeWatchPath "/ext"]) ∧
    (¬Along (step plainPaths) (StepsRight plainPaths) { isEnabled := true, isActive := true }
      [.addWatchPath "/ext" true { files := some ["/ext/a.py"] }, .fileEvent (.changed "/ext/a.py") 5, .fileEvent (.deleted "/ext/a.py") 5,
        .processPendingChanges fun _ => false]) ∧
    ¬Along (step plainPaths) (StepsRight plainPaths) { isEnabled := true, isActive := true }
      [.addWatchPath "/ext" true { files := some ["/ext/a.py"] }, .fileEvent (.renamed "/ext/b.py" "/ext/a.py") 5,
        .processPendingChanges fun file => file = "/ext/b.py"] := by
  refine ⟨fun right => ?_, fun right => ?_, fun right => ?_⟩
  · have kept := right.2.2.1 "/ext" (by decide) "/ext2/a.py"
    exact absurd kept (by decide)
  · have changed : IsFirst newerFirst [⟨.Modified, "/ext/a.py", none, 5⟩, ⟨.Deleted, "/ext/a.py", none, 5⟩] ⟨.Modified, "/ext/a.py", none, 5⟩ :=
      ⟨[], [_], rfl, by decide, by decide⟩
    have reloads := (right.2.2.2.1.1 "/ext/a.py" .reload).mp ((mem_processed_iff rfl _ _ _).mpr ⟨_, changed, rfl⟩)
    exact absurd reloads (by decide)
  · have gone := right.2.2.1.2 "/ext/a.py" (by decide)
    exact absurd gone (by decide +kernel)

end RevitPy.Host.HotReloadManager
