import Mathlib.Logic.Relation
import RevitPy.ModuleReloader

/-!
# What a call of the reloader does

During a call a module that can be read is attempted at most once, and what is attempted
is reached from the called module through modules that were loaded. When the call returns,
the dependents of every loaded module have had their turn.
-/

namespace RevitPy.ModuleReloader
variable {π C H : Type} (py : ReloadSurroundings π C H)

/-- A module stands in a list of attempts. -/
def Attempted (attempts : List (Attempt π C)) (path : π) : Prop := ∃ attempt ∈ attempts, attempt.path = path

/-- A dependent of a module that loads, and of which `P` holds. -/
def Step (followed : π → List π) (P : π → Prop) (path next : π) : Prop :=
  P path ∧ (py.perform path).success = true ∧ next ∈ followed path

/-- The way from a module to another through modules that load, and of which `P` holds. -/
abbrev Reaches (followed : π → List π) (P : π → Prop) : π → π → Prop := Relation.ReflTransGen (Step py followed P)

variable {py} {made later : List (Attempt π C)} {path : π}

theorem Attempted.append_left (member : Attempted made path) : Attempted (made ++ later) path := by
  obtain ⟨attempt, there, same⟩ := member
  exact ⟨attempt, List.mem_append_left _ there, same⟩

theorem Attempted.append_right (member : Attempted later path) : Attempted (made ++ later) path := by
  obtain ⟨attempt, there, same⟩ := member
  exact ⟨attempt, List.mem_append_right _ there, same⟩

theorem Reaches.mono {followed : π → List π} {P Q : π → Prop} (more : ∀ path, P path → Q path) {path next : π}
    (reaches : Reaches py followed P path next) : Reaches py followed Q path next := by
  induction reaches with
  | refl => exact .refl
  | tail _ step ih => exact .tail ih ⟨more _ step.1, step.2⟩

variable [DecidableEq π] [DecidableEq H] (py)

/-- From `s` to `t` the attempts of `made` were added. -/
structure Ran (s t : ModuleReloader π C H) (made : List (Attempt π C)) : Prop where
  attempts : t.attempts = s.attempts ++ made
  followed : ∀ path, t.followed path = s.followed path
  needed : ∀ path, t.checkModuleNeedsReload py path = true → s.checkModuleNeedsReload py path = true
  attempted : ∀ path, s.checkModuleNeedsReload py path = true → t.checkModuleNeedsReload py path = false → Attempted made path
  true_to_outside : ∀ attempt ∈ made, s.checkModuleNeedsReload py attempt.path = true ∧
    attempt.content = py.readFile attempt.path ∧ attempt.success = (py.perform attempt.path).success
  up_to_date : ∀ attempt ∈ made, attempt.content ≠ none → t.checkModuleNeedsReload py attempt.path = false

/-- A module has been attempted or needs no attempt. -/
def Handled (t : ModuleReloader π C H) (made : List (Attempt π C)) (path : π) : Prop :=
  Attempted made path ∨ t.checkModuleNeedsReload py path = false

/-- What a call leaves: dependents of loaded modules are handled, and what was attempted
    was reached. -/
structure Call (s t : ModuleReloader π C H) (made : List (Attempt π C)) (roots : List π) : Prop extends Ran py s t made where
  roots_handled : ∀ root ∈ roots, Handled py t made root
  dependents_handled : ∀ attempt ∈ made, attempt.success = true → ∀ next ∈ s.followed attempt.path, Handled py t made next
  reached : ∀ attempt ∈ made, ∃ root ∈ roots, Reaches py s.followed (Attempted made) root attempt.path
  returned : ∀ attempt ∈ made, ∃ depth between result, reloadModule py depth between attempt.path = some result ∧
    between.followed = s.followed

variable {py} {s t u : ModuleReloader π C H}

theorem Ran.refl (s : ModuleReloader π C H) : Ran py s s [] where
  attempts := (List.append_nil _).symm
  followed _ := rfl
  needed _ := id
  attempted path needs current := absurd (needs.symm.trans current) Bool.noConfusion
  true_to_outside := by simp
  up_to_date := by simp

theorem Ran.trans (first : Ran py s t made) (second : Ran py t u later) : Ran py s u (made ++ later) where
  attempts := by rw [second.attempts, first.attempts, List.append_assoc]
  followed path := (second.followed path).trans (first.followed path)
  needed path needs := first.needed path (second.needed path needs)
  attempted path needs current := by
    cases between : t.checkModuleNeedsReload py path with
    | true => exact (second.attempted path between current).append_right
    | false => exact (first.attempted path needs between).append_left
  true_to_outside attempt member := by
    rcases List.mem_append.mp member with now | afterwards
    · exact first.true_to_outside attempt now
    · obtain ⟨needs, outside⟩ := second.true_to_outside attempt afterwards
      exact ⟨first.needed _ needs, outside⟩
  up_to_date attempt member read := by
    rcases List.mem_append.mp member with now | afterwards
    · have current := first.up_to_date attempt now read
      cases still : u.checkModuleNeedsReload py attempt.path with
      | true => exact absurd (current.symm.trans (second.needed _ still)) Bool.noConfusion
      | false => rfl
    · exact second.up_to_date attempt afterwards read

theorem Handled.trans (handled : Handled py t made path) (second : Ran py t u later) : Handled py u (made ++ later) path := by
  rcases handled with attempted | current
  · exact .inl attempted.append_left
  · refine .inr ?_
    cases still : u.checkModuleNeedsReload py path with
    | true => exact absurd (current.symm.trans (second.needed _ still)) Bool.noConfusion
    | false => rfl

theorem Handled.append_right (handled : Handled py t later path) : Handled py t (made ++ later) path :=
  handled.imp Attempted.append_right id

theorem Call.none (s : ModuleReloader π C H) : Call py s s [] [] := ⟨Ran.refl s, by simp, by simp, by simp, by simp⟩

theorem Call.trans {roots more : List π} (first : Call py s t made roots) (second : Call py t u later more) :
    Call py s u (made ++ later) (roots ++ more) where
  toRan := first.toRan.trans second.toRan
  roots_handled root member := by
    rcases List.mem_append.mp member with one | other
    · exact (first.roots_handled root one).trans second.toRan
    · exact (second.roots_handled root other).append_right
  dependents_handled attempt member success next follows := by
    rcases List.mem_append.mp member with now | afterwards
    · exact (first.dependents_handled attempt now success next follows).trans second.toRan
    · exact (second.dependents_handled attempt afterwards success next (first.followed attempt.path ▸ follows)).append_right
  reached attempt member := by
    rcases List.mem_append.mp member with now | afterwards
    · obtain ⟨root, there, path⟩ := first.reached attempt now
      exact ⟨root, List.mem_append_left _ there, Reaches.mono (fun _ => Attempted.append_left) path⟩
    · obtain ⟨root, there, path⟩ := second.reached attempt afterwards
      have same : t.followed = s.followed := funext first.followed
      exact ⟨root, List.mem_append_right _ there, Reaches.mono (fun _ => Attempted.append_right) (same ▸ path)⟩
  returned attempt member := by
    rcases List.mem_append.mp member with now | afterwards
    · exact first.returned attempt now
    · obtain ⟨depth, between, result, ended, same⟩ := second.returned attempt afterwards
      exact ⟨depth, between, result, ended, same.trans (funext first.followed)⟩

/-! ## Calls -/

/-- A module that was attempted needs no reload any more, where it can be read. -/
theorem needs_after (s : ModuleReloader π C H) (path other : π) :
    ((s.performModuleReload py path).updateModuleInfo py path).checkModuleNeedsReload py other =
      if other = path ∧ py.readFile path ≠ none then false else s.checkModuleNeedsReload py other := by
  unfold updateModuleInfo
  cases content : py.readFile path with
  | none => simp [checkModuleNeedsReload, performModuleReload]
  | some text =>
    by_cases same : other = path
    · subst same
      simp [checkModuleNeedsReload, content]
    · simp [checkModuleNeedsReload, performModuleReload, same, Dict.get?_set_ne _ _ (Ne.symm same)]

omit [DecidableEq H] in
theorem followed_after (s : ModuleReloader π C H) (path : π) :
    ((s.performModuleReload py path).updateModuleInfo py path).followed = s.followed := by
  unfold updateModuleInfo
  split
  · rfl
  · rfl

omit [DecidableEq H] in
theorem attempts_after (s : ModuleReloader π C H) (path : π) : ((s.performModuleReload py path).updateModuleInfo py path).attempts =
    s.attempts ++ [⟨path, py.readFile path, (py.perform path).success⟩] := by
  unfold updateModuleInfo
  split
  · rfl
  · rfl

theorem Ran.perform (needs : s.checkModuleNeedsReload py path = true) :
    Ran py s ((s.performModuleReload py path).updateModuleInfo py path) [⟨path, py.readFile path, (py.perform path).success⟩] where
  attempts := attempts_after s path
  followed other := congrFun (followed_after s path) other
  needed other still := by
    rw [needs_after] at still
    split at still
    · cases still
    · exact still
  attempted other before current := by
    rw [needs_after] at current
    split at current
    · next same => exact ⟨_, List.mem_singleton_self _, same.1.symm⟩
    · exact absurd (before.symm.trans current) Bool.noConfusion
  true_to_outside attempt member := by
    obtain rfl := List.mem_singleton.mp member
    exact ⟨needs, rfl, rfl⟩
  up_to_date attempt member read := by
    obtain rfl := List.mem_singleton.mp member
    rw [needs_after, if_pos ⟨rfl, read⟩]

/-- What a function does that reloads one module. -/
def Reloads (py : ReloadSurroundings π C H) (reload : ModuleReloader π C H → π → Option (ModuleReloader π C H × ModuleReloadResult π)) : Prop :=
  ∀ s path t result, reload s path = some (t, result) → ∃ made, Call py s t made [path] ∧
    (result.success = true ↔ (s.checkModuleNeedsReload py path = true → (py.perform path).success = true))

section
variable {reload : ModuleReloader π C H → π → Option (ModuleReloader π C H × ModuleReloadResult π)} {dependent : π} {rest listed : List π}

omit [DecidableEq π] [DecidableEq H] in
/-- One round of the loop over dependents. -/
theorem reloadDependents_cons (ended : reloadDependents reload (dependent :: rest) s = some (t, listed)) :
    ∃ between result later, reload s dependent = some (between, result) ∧ reloadDependents reload rest between = some (t, later) ∧
      listed = if result.success then dependent :: later else later := by
  simp only [reloadDependents, Option.bind_eq_bind, Option.bind_eq_some_iff, Option.pure_def, Option.some.injEq, Prod.mk.injEq] at ended
  obtain ⟨⟨between, result⟩, first, ⟨last, later⟩, loop, same_end, same_list⟩ := ended
  simp only at same_end
  subst same_end
  exact ⟨between, result, later, first, loop, same_list.symm⟩

variable (reloads : Reloads py reload)
include reloads

theorem Reloads.dependents {paths : List π} (ended : reloadDependents reload paths s = some (t, listed)) : ∃ made, Call py s t made paths := by
  induction paths generalizing s listed with
  | nil =>
    obtain ⟨rfl, rfl⟩ := Prod.mk.inj (Option.some.inj ended)
    exact ⟨[], Call.none s⟩
  | cons dependent rest ih =>
    obtain ⟨between, result, later, first, loop, _⟩ := reloadDependents_cons ended
    obtain ⟨made, call, _⟩ := reloads _ _ _ _ first
    obtain ⟨more, calls⟩ := ih loop
    exact ⟨made ++ more, call.trans calls⟩

/-- A listed dependent: in its turn it was loaded, or needed no reload. -/
theorem Reloads.of_listed {paths : List π} (ended : reloadDependents reload paths s = some (t, listed)) (member : path ∈ listed) :
    ∃ before after between made, paths = before ++ path :: after ∧ Call py s between made before ∧
      (between.checkModuleNeedsReload py path = true → (py.perform path).success = true) := by
  induction paths generalizing s listed with
  | nil =>
    obtain ⟨rfl, rfl⟩ := Prod.mk.inj (Option.some.inj ended)
    exact absurd member List.not_mem_nil
  | cons dependent rest ih =>
    obtain ⟨between, result, later, first, loop, rfl⟩ := reloadDependents_cons ended
    obtain ⟨made, call, succeeds⟩ := reloads _ _ _ _ first
    have here_or_later : (result.success = true ∧ path = dependent) ∨ path ∈ later := by
      split at member
      · next success => exact (List.mem_cons.mp member).imp (⟨success, ·⟩) id
      · exact .inr member
    rcases here_or_later with ⟨success, rfl⟩ | below
    · exact ⟨[], rest, s, [], rfl, Call.none s, succeeds.mp success⟩
    · obtain ⟨before, after, last, more, split, calls, loads⟩ := ih loop below
      exact ⟨dependent :: before, after, last, made ++ more, by rw [split]; rfl, call.trans calls, loads⟩

/-- A dependent that in its turn is loaded, or needs no reload, is listed. -/
theorem Reloads.listed_of {before after : List π} (ended : reloadDependents reload (before ++ path :: after) s = some (t, listed)) :
    ∃ between made, Call py s between made before ∧
      ((between.checkModuleNeedsReload py path = true → (py.perform path).success = true) → path ∈ listed) := by
  induction before generalizing s listed with
  | nil =>
    obtain ⟨between, result, later, first, _, rfl⟩ := reloadDependents_cons ended
    obtain ⟨_, _, succeeds⟩ := reloads _ _ _ _ first
    refine ⟨s, [], Call.none s, fun loads => ?_⟩
    rw [if_pos (succeeds.mpr loads)]
    exact List.mem_cons_self
  | cons dependent before ih =>
    obtain ⟨between, result, later, first, loop, rfl⟩ := reloadDependents_cons ended
    obtain ⟨made, call, _⟩ := reloads _ _ _ _ first
    obtain ⟨last, more, calls, listed⟩ := ih loop
    refine ⟨last, made ++ more, call.trans calls, fun loads => ?_⟩
    split
    · exact List.mem_cons_of_mem _ (listed loads)
    · exact listed loads

end

/-- A call that finds the stored hash in the file. -/
theorem reloadModule_of_current {depth : Nat} {result : ModuleReloadResult π} (current : s.checkModuleNeedsReload py path = false)
    (ended : reloadModule py (depth + 1) s path = some (t, result)) : s = t ∧ result = { success := true, modulePath := path } := by
  simp only [reloadModule, current, Bool.false_eq_true, ↓reduceIte, Option.pure_def, Option.some.injEq, Prod.mk.injEq] at ended
  exact ⟨ended.1, ended.2.symm⟩

/-- A call that performs a reload: first the module itself, then the loop over dependents. -/
theorem reloadModule_of_needs {depth : Nat} {result : ModuleReloadResult π} (needs : s.checkModuleNeedsReload py path = true)
    (ended : reloadModule py (depth + 1) s path = some (t, result)) : ∃ listed,
      reloadDependents (reloadModule py depth) (if (py.perform path).success then s.followed path else [])
        ((s.performModuleReload py path).updateModuleInfo py path) = some (t, listed) ∧
      result = ⟨(py.perform path).success, path, (py.perform path).statePreserved, listed, (py.perform path).errors⟩ := by
  simp only [reloadModule, needs, ↓reduceIte, Option.bind_eq_bind, Option.bind_eq_some_iff, Option.pure_def, Option.some.injEq,
    Prod.mk.injEq, followed_after] at ended
  obtain ⟨⟨last, listed⟩, loop, same_end, same_result⟩ := ended
  simp only at same_end
  subst same_end
  exact ⟨listed, loop, same_result.symm⟩

theorem reloads_reloadModule (depth : Nat) : Reloads py (reloadModule py depth) := by
  induction depth with
  | zero => exact fun s path t result ended => by cases ended
  | succ depth ih =>
    intro s path t result ended
    cases needs : s.checkModuleNeedsReload py path with
    | false =>
      obtain ⟨rfl, rfl⟩ := reloadModule_of_current needs ended
      refine ⟨[], ⟨Ran.refl s, ?_, by simp, by simp, by simp⟩, by simp⟩
      intro root member
      exact .inr (List.mem_singleton.mp member ▸ needs)
    | true =>
      have whole := ended
      obtain ⟨listed, loop, rfl⟩ := reloadModule_of_needs needs ended
      obtain ⟨later, calls⟩ := ih.dependents loop
      have ran := (Ran.perform needs).trans calls.toRan
      have own : Attempted ([⟨path, py.readFile path, (py.perform path).success⟩] ++ later) path := ⟨_, List.mem_cons_self, rfl⟩
      refine ⟨_, ⟨ran, ?_, ?_, ?_, ?_⟩, by simp⟩
      · intro root member
        exact .inl (List.mem_singleton.mp member ▸ own)
      · intro attempt member success next follows
        rcases List.mem_cons.mp member with rfl | afterwards
        · have loads : (py.perform path).success = true := success
          rw [if_pos loads] at calls
          exact (calls.roots_handled next follows).append_right
        · exact (calls.dependents_handled attempt afterwards success next (followed_after s path ▸ follows)).append_right
      · intro attempt member
        refine ⟨path, List.mem_singleton_self path, ?_⟩
        rcases List.mem_cons.mp member with rfl | afterwards
        · exact .refl
        · obtain ⟨root, there, way⟩ := calls.reached attempt afterwards
          rw [followed_after] at way
          by_cases loads : (py.perform path).success = true
          · rw [if_pos loads] at there
            exact .head ⟨own, loads, there⟩ (Reaches.mono (fun _ => Attempted.append_right) way)
          · rw [if_neg loads] at there
            exact absurd there List.not_mem_nil
      · intro attempt member
        rcases List.mem_cons.mp member with rfl | afterwards
        · exact ⟨depth + 1, s, _, whole, rfl⟩
        · obtain ⟨deep, between, result, returned, same⟩ := calls.returned attempt afterwards
          exact ⟨deep, between, result, returned, same.trans (followed_after s path)⟩

end RevitPy.ModuleReloader
