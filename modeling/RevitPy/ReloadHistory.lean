import RevitPy.ReloadCalls
import RevitPy.Runs

/-!
# Edits and reloads

The reloader remembers the hash of what it has seen last of a module: at the scan, or at
an attempt, whether the module was loaded then or not. A call reports success where the
file still has that hash.
-/

namespace RevitPy
open Runs ModuleReloader
variable {π C H : Type} [DecidableEq π] [DecidableEq H]

/-- A reloader, the files as they are now, and as they were found by the scan. -/
structure ReloadSession (π C H : Type) where
  reloader : ModuleReloader π C H
  files : π → Option C
  scanned : π → Option C

inductive SessionStep (π C : Type)
  /-- A file is written, or can no longer be read. -/
  | edit (path : π) (content : Option C)
  /-- A call that returns within some depth, with what Python answers meanwhile. -/
  | reloadModule (path : π) (perform : π → PerformedReload) (depth : Nat)

namespace ReloadSession

section
variable (md5 : C → H) (σ : ReloadSession π C H)

def start (dependencyTrackingEnabled : Bool) (pythonFiles : List π) (extractPythonDependencies : C → π → List π) (files : π → Option C) :
    ReloadSession π C H where
  reloader := init ⟨files, md5, fun _ => { success := false }⟩ dependencyTrackingEnabled pythonFiles extractPythonDependencies
  files := files
  scanned path := if path ∈ pythonFiles then files path else none

def step : SessionStep π C → ReloadSession π C H
  | .edit path content => { σ with files := fun other => if other = path then content else σ.files other }
  | .reloadModule path perform depth => match reloadModule ⟨σ.files, md5, perform⟩ (depth + 1) σ.reloader path with
    | some (reloader, _) => { σ with reloader }
    | none => σ

/-! ## What is remembered -/

/-- What an attempt sees of a module. -/
def seen (path : π) (attempt : Attempt π C) : Option C := if attempt.path = path then attempt.content else none

/-- What was seen last of a module, at an attempt or at the scan. -/
def lastSeen (path : π) : Option C := ((σ.reloader.attempts.filterMap (seen path)).getLast?).or (σ.scanned path)

/-- The stored hash of a module is that of what was seen of it last. -/
def Tracks (scanned : π → Option C) (reloader : ModuleReloader π C H) : Prop := ∀ path,
  reloader.moduleHashes.get? path = (((reloader.attempts.filterMap (seen path)).getLast?).or (scanned path)).map md5

variable {md5 σ} {scanned : π → Option C} {py : ReloadSurroundings π C H} {s t : ModuleReloader π C H}

omit [DecidableEq H] in
theorem Tracks.perform (tracks : Tracks py.md5 scanned s) (path : π) :
    Tracks py.md5 scanned ((s.performModuleReload py path).updateModuleInfo py path) := by
  intro other
  rw [attempts_after, List.filterMap_append]
  by_cases same : path = other
  · subst same
    cases content : py.readFile path with
    | none =>
      have hashes : ((s.performModuleReload py path).updateModuleInfo py path).moduleHashes = s.moduleHashes := by
        simp [updateModuleInfo, content, performModuleReload]
      rw [hashes, tracks path]
      simp [seen]
    | some text => simp [updateModuleInfo, content, seen]
  · have hashes : ((s.performModuleReload py path).updateModuleInfo py path).moduleHashes.get? other = s.moduleHashes.get? other := by
      unfold updateModuleInfo
      split
      · exact Dict.get?_set_ne _ _ same
      · rfl
    rw [hashes, tracks other]
    simp [seen, same]

/-- What the reload of one module keeps, a call keeps. -/
theorem reloadModule_keeps {Inv : ModuleReloader π C H → Prop}
    (keeps : ∀ s path, Inv s → Inv ((s.performModuleReload py path).updateModuleInfo py path)) {depth : Nat} {path : π}
    {result : ModuleReloadResult π} (ended : reloadModule py depth s path = some (t, result)) (start : Inv s) : Inv t := by
  induction depth generalizing s t path result with
  | zero => cases ended
  | succ depth ih =>
    cases needs : s.checkModuleNeedsReload py path with
    | false =>
      obtain ⟨rfl, rfl⟩ := reloadModule_of_current needs ended
      exact start
    | true =>
      obtain ⟨listed, loop, _⟩ := reloadModule_of_needs needs ended
      have dependents_keep (paths : List π) (s t : ModuleReloader π C H) (listed : List π)
          (loop : reloadDependents (reloadModule py depth) paths s = some (t, listed)) (start : Inv s) : Inv t := by
        induction paths generalizing s listed with
        | nil =>
          obtain ⟨rfl, rfl⟩ := Prod.mk.inj (Option.some.inj loop)
          exact start
        | cons dependent rest later =>
          obtain ⟨between, _, _, first, loop, _⟩ := reloadDependents_cons loop
          exact later between _ loop (ih first start)
      exact dependents_keep _ _ _ _ loop (keeps s path start)

theorem tracks_step (tracks : Tracks md5 σ.scanned σ.reloader) (input : SessionStep π C) :
    Tracks md5 (step md5 σ input).scanned (step md5 σ input).reloader := by
  cases input with
  | edit path content => exact tracks
  | reloadModule path perform depth =>
    simp only [step]
    split
    · next reloader result ended =>
      have keeps (s : ModuleReloader π C H) (other : π) (tracks : Tracks md5 σ.scanned s) : Tracks md5 σ.scanned
          ((s.performModuleReload ⟨σ.files, md5, perform⟩ other).updateModuleInfo ⟨σ.files, md5, perform⟩ other) := tracks.perform other
      exact reloadModule_keeps keeps ended tracks
    · exact tracks

omit [DecidableEq H] in
theorem moduleHashes_scan (pythonFiles : List π) (extractPythonDependencies : C → π → List π) (path : π) :
    ((pythonFiles.foldl (fun s path => s.scanPythonModule py extractPythonDependencies path) s).moduleHashes.get? path =
      ((if path ∈ pythonFiles then py.readFile path else none).map py.md5).or (s.moduleHashes.get? path)) ∧
    (pythonFiles.foldl (fun s path => s.scanPythonModule py extractPythonDependencies path) s).attempts = s.attempts := by
  induction pythonFiles generalizing s with
  | nil => simp
  | cons first rest ih =>
    rw [List.foldl_cons, ih.1, ih.2]
    unfold scanPythonModule
    cases content : py.readFile first with
    | none =>
      refine ⟨?_, rfl⟩
      by_cases same : path = first
      · subst same
        simp [content]
      · simp [same]
    | some text =>
      refine ⟨?_, rfl⟩
      by_cases same : path = first
      · subst same
        by_cases again : path ∈ rest <;> simp [content, again]
      · simp [same, Dict.get?_set_ne _ _ (Ne.symm same)]

omit [DecidableEq H] in
/-- The graph is all that building it changes. -/
theorem buildDependencyGraph_keeps (s : ModuleReloader π C H) :
    s.buildDependencyGraph.moduleHashes = s.moduleHashes ∧ s.buildDependencyGraph.attempts = s.attempts := by
  refine List.foldlRecOn (motive := fun (t : ModuleReloader π C H) => t.moduleHashes = s.moduleHashes ∧ t.attempts = s.attempts) _ _ ⟨rfl, rfl⟩ ?_
  intro t keeps entry _
  refine List.foldlRecOn (motive := fun (t : ModuleReloader π C H) => t.moduleHashes = s.moduleHashes ∧ t.attempts = s.attempts) _ _ keeps ?_
  intro t keeps path _
  unfold addDependent
  split
  · exact keeps
  · exact keeps

omit [DecidableEq H] in
theorem tracks_start (dependencyTrackingEnabled : Bool) (pythonFiles : List π) (extractPythonDependencies : C → π → List π)
    (files : π → Option C) : Tracks md5 (start md5 dependencyTrackingEnabled pythonFiles extractPythonDependencies files).scanned
      (start md5 dependencyTrackingEnabled pythonFiles extractPythonDependencies files).reloader := by
  intro path
  simp only [start, init]
  split
  · rw [(buildDependencyGraph_keeps _).1, (buildDependencyGraph_keeps _).2, (moduleHashes_scan _ _ path).1, (moduleHashes_scan _ _ path).2]
    simp
  · rw [(moduleHashes_scan _ _ path).1, (moduleHashes_scan _ _ path).2]
    simp

end

section
variable [DecidableEq C] (md5 : C → H) (σ : ReloadSession π C H)

/-- The last attempt to load a module with the given content was successful. -/
def LastLoaded (attempts : List (Attempt π C)) (path : π) (content : Option C) : Prop :=
  ∃ attempt, (attempts.filter fun attempt => attempt.path = path ∧ attempt.content = content).getLast? = some attempt ∧ attempt.success = true

/-- A call that returns success has the current content loaded. -/
def Reported : SessionStep π C → Prop
  | .edit _ _ => True
  | .reloadModule path perform depth => ∀ reloader result,
    reloadModule ⟨σ.files, md5, perform⟩ (depth + 1) σ.reloader path = some (reloader, result) → result.success = true →
      LastLoaded reloader.attempts path (σ.files path)

/-- Where a module has the hash of what was seen of it last, its content was loaded. -/
def Unspoiled : SessionStep π C → Prop
  | .edit _ _ => True
  | .reloadModule path _ _ => ∀ content last, σ.files path = some content → σ.lastSeen path = some last → md5 last = md5 content →
    LastLoaded σ.reloader.attempts path (some content)

variable {md5 σ} {py : ReloadSurroundings π C H} {s t : ModuleReloader π C H}

/-! ## Calls that return success -/

/-- After an attempt that was successful the content stands as loaded. -/
theorem lastLoaded_of_attempted {made : List (Attempt π C)} {path : π} (ran : Ran py s t made) (attempted : Attempted made path)
    (success : (py.perform path).success = true) : LastLoaded t.attempts path (py.readFile path) := by
  obtain ⟨attempt, member, rfl⟩ := attempted
  have here : attempt ∈ made.filter fun other => other.path = attempt.path ∧ other.content = py.readFile attempt.path := by
    refine List.mem_filter.mpr ⟨member, ?_⟩
    simp [(ran.true_to_outside attempt member).2.1]
  obtain ⟨last, found⟩ := Option.ne_none_iff_exists'.mp (mt List.getLast?_eq_none_iff.mp (List.ne_nil_of_mem here))
  refine ⟨last, ?_, ?_⟩
  · rw [ran.attempts, List.filter_append, List.getLast?_append, found]
    rfl
  · have kept := List.mem_filter.mp (List.mem_of_getLast? found)
    have same : last.path = attempt.path := (of_decide_eq_true kept.2).1
    rw [(ran.true_to_outside last kept.1).2.2, same, success]

omit [DecidableEq C] in
/-- No reload is needed where the file has the hash of what was seen last. -/
theorem current_iff (tracks : Tracks md5 σ.scanned σ.reloader) (perform : π → PerformedReload) (path : π) :
    σ.reloader.checkModuleNeedsReload ⟨σ.files, md5, perform⟩ path = false ↔
      ∃ content last, σ.files path = some content ∧ σ.lastSeen path = some last ∧ md5 last = md5 content := by
  have stored : σ.reloader.moduleHashes.get? path = (σ.lastSeen path).map md5 := tracks path
  simp only [checkModuleNeedsReload, stored]
  cases σ.lastSeen path with
  | none => simp
  | some last => cases σ.files path with
    | none => simp
    | some content => simp

theorem reported_iff (tracks : Tracks md5 σ.scanned σ.reloader) (input : SessionStep π C) :
    Reported md5 σ input ↔ Unspoiled md5 σ input := by
  cases input with
  | edit path content => exact Iff.rfl
  | reloadModule path perform depth =>
    constructor
    · intro reported content last now before same
      have current := (current_iff tracks perform path).mpr ⟨content, last, now, before, same⟩
      rw [← now]
      exact reported σ.reloader { success := true, modulePath := path } (by simp [reloadModule, current]) rfl
    · intro unspoiled reloader result ended success
      cases needs : σ.reloader.checkModuleNeedsReload ⟨σ.files, md5, perform⟩ path with
      | false =>
        obtain ⟨content, last, now, before, same⟩ := (current_iff tracks perform path).mp needs
        obtain ⟨rfl, _⟩ := reloadModule_of_current needs ended
        rw [now]
        exact unspoiled content last now before same
      | true =>
        obtain ⟨made, call, loads⟩ := reloads_reloadModule _ _ _ _ _ ended
        have attempted : Attempted made path := by
          rcases call.roots_handled path (List.mem_singleton_self path) with done | current
          · exact done
          · exact call.attempted path needs current
        exact lastLoaded_of_attempted call.toRan attempted (loads.mp success needs)

/-- In every run of edits and calls, the calls that return success have the current content
    loaded exactly where no call finds a hash of content that was not. -/
theorem reported_along_iff (dependencyTrackingEnabled : Bool) (pythonFiles : List π) (extractPythonDependencies : C → π → List π)
    (files : π → Option C) (steps : List (SessionStep π C)) :
    Along (step md5) (Reported md5) (start md5 dependencyTrackingEnabled pythonFiles extractPythonDependencies files) steps ↔
      Along (step md5) (Unspoiled md5) (start md5 dependencyTrackingEnabled pythonFiles extractPythonDependencies files) steps := by
  have keeps (σ : ReloadSession π C H) (input : SessionStep π C) (tracks : Tracks md5 σ.scanned σ.reloader) := tracks_step tracks input
  exact along_congr keeps (fun _ input tracks => reported_iff tracks input)
    (tracks_start dependencyTrackingEnabled pythonFiles extractPythonDependencies files)

/-- A file before and after an edit that breaks it; the hashes are those of the texts. -/
def app_md5 (content : String) : String :=
  if content = "VALUE = 1\n" then "3b7c212d80544566c82e63f60e1c0b25" else if content = "VALUE =\n" then "1face06d1bcfce620391b08ac9c3739e" else ""

/-- The reload of the broken file fails; the next call for it returns success. -/
theorem failed_reload_reported : ¬Along (step app_md5) (Reported app_md5)
    (start app_md5 true ["app.py"] (fun _ _ => []) fun path => if path = "app.py" then some "VALUE = 1\n" else none)
    [.edit "app.py" (some "VALUE =\n"), .reloadModule "app.py" (fun _ => { success := false }) 0,
      .reloadModule "app.py" (fun _ => { success := false }) 0] := by
  rintro ⟨_, _, second, _⟩
  obtain ⟨attempt, found, success⟩ := second _ _ rfl rfl
  obtain rfl := Option.some.inj found
  cases success

end

end ReloadSession
end RevitPy
