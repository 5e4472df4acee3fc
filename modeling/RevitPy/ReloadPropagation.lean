import Mathlib.Data.Fintype.EquivFin
import RevitPy.ReloadCalls

/-!
# Which importers are reloaded

The reload of a module goes on to the modules that import it, and skips those whose files
have not changed. So the importers are all reloaded, and the listed ones are those that
were, only where none of them is skipped.
-/

namespace RevitPy.ModuleReloader
open Relation (TransGen)
variable {π C H : Type} [DecidableEq π] [DecidableEq H]
variable (py : ReloadSurroundings π C H) (s : ModuleReloader π C H)

/-- The first module is imported by the second. -/
def ImportedBy (path next : π) : Prop := next ∈ s.dependents path

/-- Following dependents of modules that load. -/
abbrev Follows : π → π → Prop := Reaches py s.followed fun _ => True

/-- From a module that cannot be read, and loads nevertheless, to a dependent. -/
abbrev Unread : π → π → Prop := Step py s.followed fun path => py.readFile path = none

/-- A call returns, has attempted all direct and indirect importers after the module, and
    lists those of them that were loaded. -/
def Propagates (path : π) : Prop := ∃ depth t result later, reloadModule py depth s path = some (t, result) ∧
  t.attempts = s.attempts ++ ⟨path, py.readFile path, true⟩ :: later ∧
  (∀ importer ≠ path, TransGen s.ImportedBy path importer → Attempted later importer) ∧
  ∀ importer ≠ path, importer ∈ result.dependenciesReloaded ↔ ∃ attempt ∈ later, attempt.path = importer ∧ attempt.success = true

/-- No importer is skipped, and those that load are direct ones. -/
structure Covered (path : π) : Prop where
  stale : ∀ importer ≠ path, TransGen s.ImportedBy path importer → s.checkModuleNeedsReload py importer = true
  followed : ∀ importer ≠ path, TransGen s.ImportedBy path importer → Follows py s path importer
  direct : ∀ importer ≠ path, Follows py s path importer → (py.perform importer).success = true → importer ∈ s.followed path
  /-- One that fails is not come to before its turn. -/
  in_turn : ∀ before importer after, s.followed path = before ++ importer :: after → (py.perform importer).success = false →
    py.readFile importer ≠ none → ∀ earlier ∈ before,
      ¬Reaches py s.followed (fun other => other = path → py.readFile path = none) earlier importer
  no_cycle : ∀ importer, Follows py s path importer → ¬TransGen (Unread py s) importer importer

variable {py s} {t u : ModuleReloader π C H} {made : List (Attempt π C)} {path : π}

omit [DecidableEq H] in
theorem importedBy_of_followed {next : π} (follows : next ∈ s.followed path) : s.ImportedBy path next := by
  unfold followed at follows
  split at follows
  · exact follows
  · exact absurd follows List.not_mem_nil

omit [DecidableEq H] in
theorem importer_of_follows {importer : π} (follows : Follows py s path importer) (other : importer ≠ path) :
    TransGen s.ImportedBy path importer := by
  rcases Relation.reflTransGen_iff_eq_or_transGen.mp follows with same | way
  · exact absurd same other
  · exact TransGen.mono (fun _ _ step => importedBy_of_followed step.2.2) _ _ way

theorem needs_of_unread (unread : py.readFile path = none) : s.checkModuleNeedsReload py path = true := by
  unfold checkModuleNeedsReload
  rw [unread]
  split
  · next impossible => cases impossible
  · rfl

/-! ## Calls that do not return -/

/-- A loop does not return where one of its calls never does. -/
theorem reloadDependents_endless {reload : ModuleReloader π C H → π → Option (ModuleReloader π C H × ModuleReloadResult π)}
    (reloads : Reloads py reload) {paths : List π} {next : π} (member : next ∈ paths) {followed : π → List π}
    (endless : ∀ between, between.followed = followed → reload between next = none) (same : t.followed = followed) :
    reloadDependents reload paths t = none := by
  rcases ended : reloadDependents reload paths t with _ | ⟨last, listed⟩
  · rfl
  · exfalso
    induction paths generalizing t listed with
    | nil => exact absurd member List.not_mem_nil
    | cons dependent rest ih =>
      obtain ⟨between, result, later, first, loop, _⟩ := reloadDependents_cons ended
      rcases List.mem_cons.mp member with rfl | afterwards
      · rw [endless t same] at first
        cases first
      · obtain ⟨_, call, _⟩ := reloads _ _ _ _ first
        exact ih afterwards ((funext call.followed).trans same) later loop

/-- Modules that cannot be read and load each other in a circle. -/
theorem reloadModule_endless {depth : Nat} (cycle : TransGen (Unread py s) path path) (same : t.followed = s.followed) :
    reloadModule py depth t path = none := by
  induction depth generalizing t path with
  | zero => rfl
  | succ depth ih =>
    rcases ended : reloadModule py (depth + 1) t path with _ | ⟨last, result⟩
    · rfl
    · exfalso
      obtain ⟨next, ⟨unread, loads, follows⟩, back⟩ := Relation.TransGen.head'_iff.mp cycle
      obtain ⟨listed, loop, _⟩ := reloadModule_of_needs (needs_of_unread unread) ended
      rw [if_pos loads, same] at loop
      have again : TransGen (Unread py s) next next := Relation.TransGen.tail' back ⟨unread, loads, follows⟩
      have unchanged : ((t.performModuleReload py path).updateModuleInfo py path).followed = s.followed := (followed_after t path).trans same
      have never := reloadDependents_endless (reloads_reloadModule depth) follows (fun between => ih again) unchanged
      exact absurd (never.symm.trans loop) (by simp)

/-! ## Calls that return -/

omit [DecidableEq π] [DecidableEq H] in
theorem reloadDependents_deeper {reload more : ModuleReloader π C H → π → Option (ModuleReloader π C H × ModuleReloadResult π)}
    (deeper : ∀ s path result, reload s path = some result → more s path = some result) {paths : List π} {listed : List π}
    (ended : reloadDependents reload paths s = some (t, listed)) : reloadDependents more paths s = some (t, listed) := by
  induction paths generalizing s listed with
  | nil => exact ended
  | cons dependent rest ih =>
    obtain ⟨between, result, later, first, loop, rfl⟩ := reloadDependents_cons ended
    simp only [reloadDependents, deeper _ _ _ first, ih loop, Option.bind_eq_bind, Option.bind_some, Option.pure_def]

theorem reloadModule_deeper {depth : Nat} {result : ModuleReloader π C H × ModuleReloadResult π}
    (ended : reloadModule py depth s path = some result) : reloadModule py (depth + 1) s path = some result := by
  induction depth generalizing s path result with
  | zero => cases ended
  | succ depth ih =>
    cases needs : s.checkModuleNeedsReload py path with
    | false =>
      simp only [reloadModule, needs] at ended ⊢
      exact ended
    | true =>
      obtain ⟨last, result⟩ := result
      obtain ⟨listed, loop, rfl⟩ := reloadModule_of_needs needs ended
      have again := reloadDependents_deeper (fun s path result => ih) loop
      rw [reloadModule]
      simp only [needs, ↓reduceIte, followed_after, again, Option.bind_eq_bind, Option.bind_some, Option.pure_def]

theorem reloadModule_deeper_le {depth more : Nat} (le : depth ≤ more) {result : ModuleReloader π C H × ModuleReloadResult π}
    (ended : reloadModule py depth s path = some result) : reloadModule py more s path = some result := by
  induction le with
  | refl => exact ended
  | step _ ih => exact reloadModule_deeper ih

/-- The readable modules of a list that still need a reload. -/
def pending (py : ReloadSurroundings π C H) (known : List π) (s : ModuleReloader π C H) : Finset π :=
  known.toFinset.filter fun path => s.checkModuleNeedsReload py path = true ∧ py.readFile path ≠ none

theorem Ran.pending_subset {known : List π} (ran : Ran py s t made) : pending py known t ⊆ pending py known s := by
  intro path member
  simp only [pending, Finset.mem_filter] at member ⊢
  exact ⟨member.1, ran.needed path member.2.1, member.2.2⟩

/-- An attempt on a readable module leaves one module less to reload. -/
theorem pending_lt {known : List π} (member : path ∈ known) (needs : s.checkModuleNeedsReload py path = true) (read : py.readFile path ≠ none) :
    (pending py known ((s.performModuleReload py path).updateModuleInfo py path)).card < (pending py known s).card := by
  refine Finset.card_lt_card (Finset.ssubset_iff_subset_ne.mpr ⟨(Ran.perform needs).pending_subset, fun same => ?_⟩)
  have before : path ∈ pending py known s := by simp [pending, member, needs, read]
  rw [← same] at before
  simp [pending, needs_after, read] at before

section
variable {known : List π} {root : π}

theorem exists_depth_dependents {paths : List π} {count : Nat}
    (each : ∀ next ∈ paths, ∀ u : ModuleReloader π C H, u.followed = s.followed → (pending py known u).card ≤ count →
      ∃ depth result, reloadModule py depth u next = some result)
    (same : t.followed = s.followed) (bound : (pending py known t).card ≤ count) :
    ∃ depth result, reloadDependents (reloadModule py depth) paths t = some result := by
  induction paths generalizing t with
  | nil => exact ⟨0, _, rfl⟩
  | cons next rest ih =>
    obtain ⟨depth, ⟨between, result⟩, first⟩ := each next List.mem_cons_self t same bound
    obtain ⟨made, call, _⟩ := reloads_reloadModule depth _ _ _ _ first
    have fewer : (pending py known between).card ≤ count := (Finset.card_le_card call.pending_subset).trans bound
    obtain ⟨more, ⟨last, listed⟩, loop⟩ := ih (fun other member => each other (List.mem_cons_of_mem _ member))
      ((funext call.followed).trans same) fewer
    have first_deep := reloadModule_deeper_le (Nat.le_max_left depth more) first
    have loop_deep := reloadDependents_deeper (fun s path result => reloadModule_deeper_le (Nat.le_max_right depth more)) loop
    refine ⟨max depth more, (last, if result.success then next :: listed else listed), ?_⟩
    simp only [reloadDependents, first_deep, loop_deep, Option.bind_eq_bind, Option.bind_some, Option.pure_def]

/-- A call returns where unreadable modules do not load in a circle: each attempt on a
    readable module leaves one less, and from an unreadable one a way leads down. -/
theorem exists_depth (within : ∀ path, Follows py s root path → path ∈ known)
    (down : ∀ path, Follows py s root path → Acc (fun next path => Unread py s path next) path) (count : Nat) :
    ∀ path, Follows py s root path → ∀ u : ModuleReloader π C H, u.followed = s.followed → (pending py known u).card ≤ count →
      ∃ depth result, reloadModule py depth u path = some result := by
  induction count using Nat.strong_induction_on with
  | h count fewer =>
    intro path reached
    induction down path reached with
    | intro path _ below =>
      intro u same bound
      cases needs : u.checkModuleNeedsReload py path with
      | false => exact ⟨1, (u, ⟨true, path, false, [], []⟩), by simp [reloadModule, needs]⟩
      | true =>
        have unchanged : ((u.performModuleReload py path).updateModuleInfo py path).followed = s.followed := (followed_after u path).trans same
        have loop : ∃ depth result, reloadDependents (reloadModule py depth) (if (py.perform path).success then s.followed path else [])
            ((u.performModuleReload py path).updateModuleInfo py path) = some result := by
          by_cases loads : (py.perform path).success = true
          · rw [if_pos loads]
            have step (next : π) (follows : next ∈ s.followed path) : Follows py s root next := reached.tail ⟨trivial, loads, follows⟩
            by_cases unread : py.readFile path = none
            · have fewer : pending py known ((u.performModuleReload py path).updateModuleInfo py path) ⊆ pending py known u :=
                (Ran.perform needs).pending_subset
              have no_more := (Finset.card_le_card fewer).trans bound
              exact exists_depth_dependents (fun next follows => below next ⟨unread, loads, follows⟩ (step next follows)) unchanged no_more
            · have one_less := (pending_lt (within path reached) needs unread).trans_le bound
              exact exists_depth_dependents (fun next follows v => fewer _ one_less next (step next follows) v) unchanged (Nat.le_refl _)
          · rw [if_neg loads]
            exact ⟨0, _, rfl⟩
        obtain ⟨depth, ⟨last, listed⟩, loop⟩ := loop
        refine ⟨depth + 1, (last, ⟨(py.perform path).success, path, (py.perform path).statePreserved, listed, (py.perform path).errors⟩), ?_⟩
        rw [reloadModule]
        simp only [needs, ↓reduceIte, followed_after, same, loop, Option.bind_eq_bind, Option.bind_some, Option.pure_def]

end

/-- The modules that following dependents may come to. -/
def reachable (s : ModuleReloader π C H) (root : π) : List π := root :: (s.dependentGraph.entries.map Prod.snd).flatten

omit [DecidableEq H] in
theorem mem_reachable {root : π} (reached : Follows py s root path) : path ∈ s.reachable root := by
  induction reached with
  | refl => exact List.mem_cons_self
  | @tail last next _ step _ =>
    have importer := importedBy_of_followed step.2.2
    unfold ImportedBy dependents at importer
    rcases found : s.dependentGraph.get? last with _ | paths
    · simp [found] at importer
    · rw [found] at importer
      have entry := (Dict.get?_some_iff _ _ _).mp found
      exact List.mem_cons_of_mem _ (List.mem_flatten.mpr ⟨paths, List.mem_map_of_mem entry, importer⟩)

omit [DecidableEq H] in
/-- On finitely many modules, a way without circles leads down. -/
theorem acc_of_no_cycle {root : π} (no_cycle : ∀ path, Follows py s root path → ¬TransGen (Unread py s) path path) (path : π)
    (reached : Follows py s root path) : Acc (fun next path => Unread py s path next) path := by
  let Reached := { path // Follows py s root path }
  have finite : Finite Reached := by
    let place (path : Reached) : { path // path ∈ (s.reachable root).toFinset } :=
      ⟨path.val, List.mem_toFinset.mpr (mem_reachable path.property)⟩
    exact Finite.of_injective place fun path other same => Subtype.ext (congrArg (fun placed => placed.val) same)
  let below (next path : Reached) : Prop := TransGen (Unread py s) path.val next.val
  have trans : IsTrans Reached below := ⟨fun _ _ _ first second => second.trans first⟩
  have irrefl : Std.Irrefl below := ⟨fun path => no_cycle path.val path.property⟩
  have founded := Finite.wellFounded_of_trans_of_irrefl below
  suffices all : ∀ path : Reached, Acc (fun next path => Unread py s path next) path.val from all ⟨path, reached⟩
  intro path
  induction path using founded.induction with
  | h path ih => exact Acc.intro _ fun next step => ih ⟨next, path.property.tail ⟨trivial, step.2⟩⟩ (.single step)

/-! ## Propagation -/

section
variable {root : π} (stale : ∀ importer ≠ root, TransGen s.ImportedBy root importer → s.checkModuleNeedsReload py importer = true)
  {roots : List π} (call : Call py ((s.performModuleReload py root).updateModuleInfo py root) t made roots)
include stale call

/-- A stale importer that is handled was attempted. The module itself is only attempted
    again where it cannot be read. -/
theorem attempted_of_handled (importer : path ≠ root → TransGen s.ImportedBy root path) (handled : Handled py t made path) :
    Attempted made path ∨ (path = root ∧ py.readFile root ≠ none) := by
  rcases handled with attempted | current
  · exact .inl attempted
  · by_cases same : path = root
    · subst same
      exact .inr ⟨rfl, fun unread => absurd ((needs_of_unread unread).symm.trans current) Bool.noConfusion⟩
    · refine .inl (call.attempted path ?_ current)
      rw [needs_after, if_neg fun both => same both.1]
      exact stale path same (importer same)

/-- What is reached from a handled dependent was attempted, unless the way passes the
    module itself. -/
theorem attempted_of_reaches {first : π} (there : first ∈ roots) (follows : first ∈ s.followed root)
    (reaches : Reaches py s.followed (fun other => other = root → py.readFile root = none) first path) :
    TransGen s.ImportedBy root path ∧ (Attempted made path ∨ (path = root ∧ py.readFile root ≠ none)) := by
  induction reaches with
  | refl =>
    have importer : TransGen s.ImportedBy root first := .single (importedBy_of_followed follows)
    exact ⟨importer, attempted_of_handled stale call (fun _ => importer) (call.roots_handled first there)⟩
  | @tail last next _ step ih =>
    obtain ⟨way, attempted_or_root⟩ := ih
    have importer : TransGen s.ImportedBy root next := way.tail (importedBy_of_followed step.2.2)
    refine ⟨importer, attempted_of_handled stale call (fun _ => importer) ?_⟩
    rcases attempted_or_root with ⟨attempt, member, rfl⟩ | ⟨rfl, read⟩
    · have loaded : attempt.success = true := (call.true_to_outside attempt member).2.2.trans step.2.1
      exact call.dependents_handled attempt member loaded next (followed_after s root ▸ step.2.2)
    · exact absurd (step.1 rfl) read

end

section
variable {root : π} (loads : (py.perform root).success = true)
include loads

/-- The call on a changed module that loads: the loop over all its dependents. -/
theorem calls_of_returned {depth : Nat} {result : ModuleReloadResult π} (changed : s.checkModuleNeedsReload py root = true)
    (ended : reloadModule py (depth + 1) s root = some (t, result)) : ∃ later,
      Call py ((s.performModuleReload py root).updateModuleInfo py root) t later (s.followed root) ∧
      t.attempts = s.attempts ++ ⟨root, py.readFile root, true⟩ :: later ∧
      reloadDependents (reloadModule py depth) (s.followed root) ((s.performModuleReload py root).updateModuleInfo py root) =
        some (t, result.dependenciesReloaded) := by
  obtain ⟨listed, loop, rfl⟩ := reloadModule_of_needs changed ended
  rw [if_pos loads] at loop
  obtain ⟨later, calls⟩ := (reloads_reloadModule depth).dependents loop
  refine ⟨later, calls, ?_, loop⟩
  rw [calls.attempts, attempts_after, loads, List.append_assoc]
  rfl

/-- Every module that following dependents comes to was attempted. -/
theorem attempted_of_follows (stale : ∀ importer ≠ root, TransGen s.ImportedBy root importer → s.checkModuleNeedsReload py importer = true)
    (calls : Call py ((s.performModuleReload py root).updateModuleInfo py root) t made (s.followed root))
    (follows : Follows py s root path) : path = root ∨ Attempted made path := by
  induction follows with
  | refl => exact .inl rfl
  | @tail last next way step ih =>
    have handled : Handled py t made next := by
      rcases ih with rfl | ⟨attempt, member, rfl⟩
      · exact calls.roots_handled next step.2.2
      · have loaded : attempt.success = true := (calls.true_to_outside attempt member).2.2.trans step.2.1
        exact calls.dependents_handled attempt member loaded next (followed_after s root ▸ step.2.2)
    have importer (other : next ≠ root) : TransGen s.ImportedBy root next := importer_of_follows (way.tail step) other
    rcases attempted_of_handled stale calls importer handled with attempted | ⟨same, _⟩
    · exact .inr attempted
    · exact .inl same

theorem follows_of_attempted (calls : Call py ((s.performModuleReload py root).updateModuleInfo py root) t made (s.followed root))
    {attempt : Attempt π C} (member : attempt ∈ made) : Follows py s root attempt.path := by
  obtain ⟨first, there, way⟩ := calls.reached attempt member
  rw [followed_after] at way
  exact .head ⟨trivial, loads, there⟩ (Reaches.mono (fun _ _ => trivial) way)

omit loads in
/-- What is listed and was attempted was loaded: had it failed before its turn, it would
    not have been reached before its turn. -/
theorem success_of_listed {depth : Nat} {listed : List π} (covered : Covered py s root)
    (calls : Call py ((s.performModuleReload py root).updateModuleInfo py root) t made (s.followed root))
    (loop : reloadDependents (reloadModule py depth) (s.followed root) ((s.performModuleReload py root).updateModuleInfo py root) = some (t, listed))
    {attempt : Attempt π C} (member_listed : attempt.path ∈ listed) (member : attempt ∈ made) : attempt.success = true := by
  obtain ⟨before, after, between, so_far, split, call, loaded⟩ := (reloads_reloadModule depth).of_listed loop member_listed
  rw [(calls.true_to_outside attempt member).2.2]
  by_contra fails
  have current : between.checkModuleNeedsReload py attempt.path = false := by
    cases needs : between.checkModuleNeedsReload py attempt.path with
    | true => exact absurd (loaded needs) fails
    | false => rfl
  have read : py.readFile attempt.path ≠ none := fun unread => absurd ((needs_of_unread unread).symm.trans current) Bool.noConfusion
  obtain ⟨earlier, before_turn, same⟩ := call.attempted attempt.path (calls.true_to_outside attempt member).1 current
  obtain ⟨first, there, reaches⟩ := call.reached earlier before_turn
  rw [followed_after, same] at reaches
  refine covered.in_turn before attempt.path after split (by simpa using fails) read first there (Reaches.mono ?_ reaches)
  rintro passed ⟨again, member', rfl⟩ rfl
  by_contra read_root
  have needs := (call.true_to_outside again member').1
  rw [needs_after, if_pos ⟨rfl, read_root⟩] at needs
  cases needs

theorem propagates_of_covered (changed : s.checkModuleNeedsReload py root = true) (covered : Covered py s root) : Propagates py s root := by
  obtain ⟨depth, ⟨t, result⟩, ended⟩ := exists_depth (fun _ => mem_reachable) (acc_of_no_cycle covered.no_cycle) _ root .refl s rfl (Nat.le_refl _)
  cases depth with
  | zero => cases ended
  | succ depth =>
    obtain ⟨later, calls, attempts, loop⟩ := calls_of_returned loads changed ended
    have all (importer : π) (other : importer ≠ root) (way : TransGen s.ImportedBy root importer) : Attempted later importer :=
      (attempted_of_follows loads covered.stale calls (covered.followed importer other way)).resolve_left other
    refine ⟨depth + 1, t, result, later, ended, attempts, all, fun importer other => ⟨fun listed => ?_, ?_⟩⟩
    · obtain ⟨before, after, _, _, split, _, _⟩ := (reloads_reloadModule depth).of_listed loop listed
      have follows : importer ∈ s.followed root := split ▸ List.mem_append_right _ List.mem_cons_self
      obtain ⟨attempt, member, rfl⟩ := all importer other (.single (importedBy_of_followed follows))
      exact ⟨attempt, member, rfl, success_of_listed covered calls loop listed member⟩
    · rintro ⟨attempt, member, rfl, success⟩
      have loaded : (py.perform attempt.path).success = true := (calls.true_to_outside attempt member).2.2.symm.trans success
      have follows := covered.direct attempt.path other (follows_of_attempted loads calls member) loaded
      obtain ⟨before, after, split⟩ := List.append_of_mem follows
      rw [split] at loop
      obtain ⟨between, made, _, listed⟩ := (reloads_reloadModule depth).listed_of loop
      exact listed fun _ => loaded

theorem covered_of_propagates (changed : s.checkModuleNeedsReload py root = true) (propagates : Propagates py s root) : Covered py s root := by
  obtain ⟨depth, t, result, later, ended, attempts, all, listed_iff⟩ := propagates
  cases depth with
  | zero => cases ended
  | succ depth =>
    obtain ⟨made, calls, same_attempts, loop⟩ := calls_of_returned loads changed ended
    obtain rfl : later = made := (List.cons.inj (List.append_cancel_left (attempts.symm.trans same_attempts))).2
    have stale (importer : π) (other : importer ≠ root) (way : TransGen s.ImportedBy root importer) :
        s.checkModuleNeedsReload py importer = true := by
      obtain ⟨attempt, member, rfl⟩ := all importer other way
      exact (Ran.perform changed).needed _ (calls.true_to_outside attempt member).1
    exact {
      stale := stale
      followed := by
        intro importer other way
        obtain ⟨attempt, member, rfl⟩ := all importer other way
        exact follows_of_attempted loads calls member
      direct := by
        intro importer other follows loaded
        obtain ⟨attempt, member, rfl⟩ := all importer other (importer_of_follows follows other)
        have success : attempt.success = true := (calls.true_to_outside attempt member).2.2.trans loaded
        have listed := (listed_iff attempt.path other).mpr ⟨attempt, member, rfl, success⟩
        obtain ⟨before, after, _, _, split, _⟩ := (reloads_reloadModule depth).of_listed loop listed
        exact split ▸ List.mem_append_right _ List.mem_cons_self
      in_turn := by
        intro before importer after split fails read first there reaches
        have other : importer ≠ root := by
          rintro rfl
          exact absurd (loads.symm.trans fails) Bool.noConfusion
        have follows : first ∈ s.followed root := split ▸ List.mem_append_left _ there
        have whole := loop
        rw [split] at whole
        obtain ⟨between, made, call, listed⟩ := (reloads_reloadModule depth).listed_of whole
        obtain ⟨_, attempted | ⟨same, _⟩⟩ := attempted_of_reaches stale call there follows reaches
        · obtain ⟨attempt, member, rfl⟩ := attempted
          have readable : attempt.content ≠ none := (call.true_to_outside attempt member).2.1 ▸ read
          have current := call.up_to_date attempt member readable
          obtain ⟨loaded, member', same, success⟩ := (listed_iff attempt.path other).mp
            (listed fun needs => absurd (needs.symm.trans current) Bool.noConfusion)
          have loads' : (py.perform loaded.path).success = true := (calls.true_to_outside loaded member').2.2.symm.trans success
          exact absurd ((same ▸ loads').symm.trans fails) Bool.noConfusion
        · exact other same
      no_cycle := by
        intro importer follows cycle
        rcases attempted_of_follows loads stale calls follows with rfl | ⟨attempt, member, rfl⟩
        · exact absurd ((reloadModule_endless cycle rfl).symm.trans ended) (by simp)
        · obtain ⟨deep, between, last, returned, same⟩ := calls.returned attempt member
          exact absurd ((reloadModule_endless cycle (same.trans (followed_after s root))).symm.trans returned) (by simp) }

end

/-- Two files, the second of which imports the first; the hashes are those of the texts. -/
def two_files (app : String) : ReloadSurroundings String String String where
  readFile path := if path = "app.py" then some app else if path = "views.py" then some "from app import VALUE\n" else none
  md5 content :=
    if content = "VALUE = 1\n" then "3b7c212d80544566c82e63f60e1c0b25"
    else if content = "VALUE = 2\n" then "ff24961be4e4a7aa87dc447fdef090ce"
    else if content = "from app import VALUE\n" then "c74cfcecc372f3746c6079711d537d54"
    else ""
  perform _ := { success := true }

/-- The reloader after its scan. -/
def scanned : ModuleReloader String String String :=
  init (two_files "VALUE = 1\n") true ["app.py", "views.py"] fun _ path => if path = "views.py" then ["app.py"] else []

end RevitPy.ModuleReloader
