import Mathlib.Data.List.Pairwise
import RevitPy.CacheCleanup
import RevitPy.Runs

/-!
# The store of cached packages

A row of the table describes the file of a package. `cache_package` opens the file, which
empties it, writes at the next turn of the event loop and inserts the row after that, and
between the two anything else may happen: the same package may be cached again, and a
cleanup may take the file away. What the store is for is a shelf with the contents of
packages, and what is on the shelf is what a row and its file give back.
-/

namespace RevitPy.PackageStore

/-- `datetime.now()`, in microseconds and as the text that is stored. -/
structure Moment where
  micros : Int
  text : String

/-- A row with the columns that a cleanup does not read. -/
structure StoredRow (κ : Type) extends CacheCleanup.CacheRow where
  /-- `package_name` and `version` -/
  package : κ
  metadata : String
  file_hash : String
  access_count : Nat

/-- The table `cache_entries`. -/
structure PackageTable (κ : Type) where
  rows : List (StoredRow κ)
  next_id : Int
  distinct : (rows.map fun r => r.toCacheRow.id).Nodup
  older : ∀ r ∈ rows, r.id < next_id
  unique : (rows.map StoredRow.package).Nodup

/-- A call of `cache_package` that has opened its file. -/
structure Writing (κ : Type) where
  package : κ
  file_content : List UInt8
  metadata : String
  /-- The open file is the one at its path. -/
  linked : Bool := true
  /-- No other call has had the file open at the same time. -/
  alone : Bool := true

structure Store (κ : Type) where
  table : PackageTable κ
  files : String → Option (List UInt8)
  writing : List (Writing κ)

inductive Ending
  | stores (now : Moment)
  /-- The metadata is no JSON, or the database refuses the row. -/
  | raises

section
variable {κ : Type} [DecidableEq κ]

namespace PackageTable

def empty : PackageTable κ := ⟨[], 1, .nil, by simp, .nil⟩

/-- Some of the rows, with other values in the columns that do not identify them. -/
def change (table : PackageTable κ) (left : StoredRow κ → Bool) (values : StoredRow κ → StoredRow κ)
    (same_id : ∀ r, (values r).id = r.id) (same_package : ∀ r, (values r).package = r.package) : PackageTable κ where
  rows := (table.rows.filter left).map values
  next_id := table.next_id
  distinct := by
    simpa [Function.comp_def, same_id] using table.distinct.sublist (List.filter_sublist.map _)
  older := by
    intro r member
    obtain ⟨old, there, rfl⟩ := List.mem_map.mp member
    rw [same_id]
    exact table.older old (List.mem_of_mem_filter there)
  unique := by
    simpa [Function.comp_def, same_package] using table.unique.sublist (List.filter_sublist.map _)

def delete (table : PackageTable κ) (left : StoredRow κ → Bool) : PackageTable κ := table.change left id (fun _ => rfl) fun _ => rfl

/-- `UPDATE cache_entries SET last_accessed = ?, access_count = access_count + 1` -/
def touch (table : PackageTable κ) (package : κ) (now : Moment) : PackageTable κ :=
  table.change (fun _ => true)
    (fun r => if r.package = package then { r with last_accessed := now.text, access_count := r.access_count + 1 } else r)
    (fun r => by split <;> rfl) fun r => by split <;> rfl

/-- `INSERT OR REPLACE INTO cache_entries`, which gives the row a new id. -/
def insert (table : PackageTable κ) (row : StoredRow κ) : PackageTable κ where
  rows := (table.rows.filter fun r => r.package ≠ row.package) ++ [{ row with id := table.next_id }]
  next_id := table.next_id + 1
  distinct := by
    have kept := table.distinct.sublist ((List.filter_sublist (p := fun r => decide (r.package ≠ row.package))).map _)
    rw [List.map_append, List.nodup_append]
    refine ⟨kept, List.nodup_singleton _, fun i member j last same => ?_⟩
    obtain ⟨r, there, rfl⟩ := List.mem_map.mp member
    have before := table.older r (List.mem_of_mem_filter there)
    rw [List.map_singleton, List.mem_singleton] at last
    rw [same, last] at before
    exact Int.lt_irrefl _ before
  older := by
    intro r member
    rcases List.mem_append.mp member with kept | last
    · have := table.older r (List.mem_of_mem_filter kept)
      omega
    · rw [List.mem_singleton.mp last]
      exact Int.lt_succ _
  unique := by
    have kept := table.unique.sublist ((List.filter_sublist (p := fun r => decide (r.package ≠ row.package))).map _)
    rw [List.map_append, List.nodup_append]
    refine ⟨kept, List.nodup_singleton _, fun p member q last same => ?_⟩
    obtain ⟨r, there, rfl⟩ := List.mem_map.mp member
    rw [List.map_singleton, List.mem_singleton] at last
    exact of_decide_eq_true (List.mem_filter.mp there).2 (same.trans last)

/-- What a cleanup reads. -/
def toCacheTable (table : PackageTable κ) : CacheCleanup.CacheTable where
  rows := table.rows.map StoredRow.toCacheRow
  distinct := by
    rw [List.map_map]
    exact table.distinct

/-- `ORDER BY last_accessed ASC` -/
def entries (table : PackageTable κ) : List CacheCleanup.CacheRow :=
  table.toCacheTable.rows.mergeSort fun a b => decide (a.last_accessed ≤ b.last_accessed)

end PackageTable

namespace Store

def empty : Store κ := ⟨.empty, fun _ => none, []⟩

/-- The row that answers `is_package_cached` and `get_cached_package`. -/
def cached (store : Store κ) (package : κ) : Option (StoredRow κ) := store.table.rows.find? fun r => r.package = package

/-- What `get_cached_package` changes. -/
def get_cached_package (store : Store κ) (package : κ) (now : Moment) : Store κ :=
  { store with table := store.table.touch package now }

variable (path : κ → String) (sha256 : List UInt8 → String)

/-- `cache_package` up to the turn of the loop in which it writes. -/
def open_file (store : Store κ) (package : κ) (file_content : List UInt8) (metadata : String) : Store κ :=
  let others := store.writing.map fun call => if path call.package = path package then { call with alone := false } else call
  { store with
    files := Function.update store.files (path package) (some [])
    writing := others ++ [⟨package, file_content, metadata, true, store.writing.all fun call => path call.package ≠ path package⟩] }

/-- What is written at the beginning of a file covers what was there. -/
def overlay (content before : List UInt8) : List UInt8 := content ++ before.drop content.length

def write (store : Store κ) (call : Writing κ) : String → Option (List UInt8) :=
  if call.linked then
    Function.update store.files (path call.package) ((store.files (path call.package)).map (overlay call.file_content))
  else store.files

/-- The row of a call that has written its file. -/
def row (call : Writing κ) (now : Moment) : StoredRow κ where
  id := 0
  package := call.package
  file_path := path call.package
  metadata := call.metadata
  file_hash := sha256 call.file_content
  file_size := call.file_content.length
  cached_at := now.micros
  last_accessed := now.text
  access_count := 1

/-- `cache_package` from its write on. -/
def finish (store : Store κ) (i : Nat) (ending : Ending) : Store κ :=
  match store.writing[i]? with
  | none => store
  | some call =>
    let store := { store with files := store.write path call, writing := store.writing.eraseIdx i }
    match ending with
    | .stores now => { store with table := store.table.insert (row path sha256 call now) }
    | .raises => store

/-- The files that a cleanup leaves. -/
def leave (store : Store κ) (left : String → Bool) : Store κ :=
  { store with
    files := fun name => if left name then store.files name else none
    writing := store.writing.map fun call => { call with linked := call.linked && left (path call.package) } }

/-- A cleanup that raises loses the files, but not their rows. -/
def cleanup_cache (store : Store κ) (w : CacheCleanup.Surroundings) (max_size_mb max_age_days : Int) : Store κ :=
  match CacheCleanup.cleanup_cache w store.table.toCacheTable store.table.entries (fun name => (store.files name).isSome)
      max_size_mb max_age_days with
  | .ok cleaned => { store.leave path cleaned.files with table := store.table.delete fun r => r.toCacheRow ∈ cleaned.rows }
  | .error aborted => store.leave path aborted.files

end Store

inductive Event (κ : Type)
  | open_file (package : κ) (file_content : List UInt8) (metadata : String)
  | finish (call : Nat) (ending : Ending)
  | get_cached_package (package : κ) (now : Moment)
  | cleanup_cache (w : CacheCleanup.Surroundings) (max_size_mb max_age_days : Int)

/-- The packages that a run caches. -/
def cached_in (events : List (Event κ)) : List κ := events.filterMap fun
  | .open_file package _ _ => some package
  | _ => none

/-! ## The shelf -/

/-- The store, with the contents on the shelf and whether something went wrong before. -/
structure Session (κ : Type) where
  store : Store κ
  shelf : κ → Option (List UInt8)
  failed : Bool

namespace Session

def empty : Session κ := ⟨.empty, fun _ => none, false⟩

variable (path : κ → String) (sha256 : List UInt8 → String)

/-- A package leaves the shelf where its file is opened or lost, and is put on it by a call whose file nobody else touched. -/
def step (s : Session κ) : Event κ → Session κ
  | .open_file package file_content metadata =>
    { s with store := s.store.open_file path package file_content metadata, shelf := Function.update s.shelf package none }
  | .finish i ending =>
    let store := s.store.finish path sha256 i ending
    match s.store.writing[i]?, ending with
    | some call, .stores _ =>
      if call.linked && call.alone then { s with store, shelf := Function.update s.shelf call.package (some call.file_content) }
      else { s with store, failed := true }
    | some _, .raises => { s with store, failed := true }
    | none, _ => { s with store }
  | .get_cached_package package now => { s with store := s.store.get_cached_package package now }
  | .cleanup_cache w max_size_mb max_age_days =>
    let store := s.store.cleanup_cache path w max_size_mb max_age_days
    let shelf package := if (store.files (path package)).isSome then s.shelf package else none
    match CacheCleanup.cleanup_cache w s.store.table.toCacheTable s.store.table.entries (fun name => (s.store.files name).isSome)
        max_size_mb max_age_days with
    | .ok _ => { s with store, shelf }
    | .error _ => { store, shelf, failed := true }

end Session

/-! ## Rows -/

namespace PackageTable
variable {table : PackageTable κ} {r : StoredRow κ}

omit [DecidableEq κ] in
theorem mem_delete {left : StoredRow κ → Bool} : r ∈ (table.delete left).rows ↔ r ∈ table.rows ∧ left r = true := by
  simp [delete, change]

theorem mem_insert {row : StoredRow κ} :
    r ∈ (table.insert row).rows ↔ r ∈ table.rows ∧ r.package ≠ row.package ∨ r = { row with id := table.next_id } := by
  simp [insert]

/-- Touching a row changes neither its package nor what it says about the file. -/
theorem mem_touch {package : κ} {now : Moment} (member : r ∈ (table.touch package now).rows) :
    ∃ old ∈ table.rows, r.package = old.package ∧ r.file_path = old.file_path ∧ r.file_hash = old.file_hash ∧
      r.file_size = old.file_size := by
  obtain ⟨old, there, rfl⟩ := List.mem_map.mp member
  refine ⟨old, List.mem_of_mem_filter there, ?_⟩
  split <;> exact ⟨rfl, rfl, rfl, rfl⟩

theorem touch_mem (package : κ) (now : Moment) (member : r ∈ table.rows) :
    ∃ new ∈ (table.touch package now).rows, new.package = r.package ∧ new.file_path = r.file_path ∧ new.file_hash = r.file_hash ∧
      new.file_size = r.file_size := by
  refine ⟨_, List.mem_map_of_mem (List.mem_filter.mpr ⟨member, rfl⟩), ?_⟩
  split <;> exact ⟨rfl, rfl, rfl, rfl⟩

omit [DecidableEq κ] in
/-- Rows of one package are one row. -/
theorem eq_of_package {q : StoredRow κ} (member : r ∈ table.rows) (present : q ∈ table.rows) (same : r.package = q.package) : r = q :=
  List.inj_on_of_nodup_map table.unique member present same

end PackageTable

theorem Store.cached_eq_some {store : Store κ} {package : κ} {r : StoredRow κ} :
    store.cached package = some r ↔ r ∈ store.table.rows ∧ r.package = package := by
  constructor
  · intro found
    exact ⟨List.mem_of_find?_eq_some found, by simpa using List.find?_some found⟩
  · rintro ⟨member, rfl⟩
    cases found : store.cached r.package with
    | none =>
      have missed := List.find?_eq_none.mp found r member
      simp at missed
    | some q =>
      have same : q.package = r.package := by simpa using List.find?_some found
      rw [store.table.eq_of_package (List.mem_of_find?_eq_some found) member same]

/-! ## What a run keeps -/

/-- The row and the file of a package give back a content. -/
structure Store.Gives (path : κ → String) (sha256 : List UInt8 → String) (store : Store κ) (package : κ) (content : List UInt8) : Prop where
  file : store.files (path package) = some content
  row : ∃ r ∈ store.table.rows, r.package = package ∧ r.file_path = path package ∧ r.file_hash = sha256 content ∧
    r.file_size = content.length

structure Session.Kept (path : κ → String) (sha256 : List UInt8 → String) (D : Set κ) (s : Session κ) : Prop where
  held : ∀ package content, s.shelf package = some content →
    (∀ call ∈ s.store.writing, call.package ≠ package) ∧ s.store.Gives path sha256 package content
  rows : ∀ r ∈ s.store.table.rows, r.package ∈ D ∧ r.file_path = path r.package
  calls : ∀ call ∈ s.store.writing, call.package ∈ D
  apart : s.store.writing.Pairwise fun a b => a.package = b.package → a.alone = false ∧ b.alone = false
  fresh : ∀ call ∈ s.store.writing, call.linked = true → call.alone = true → s.store.files (path call.package) = some []
  whole : s.failed = false → ∀ r ∈ s.store.table.rows, (∃ call ∈ s.store.writing, call.package = r.package) ∨ (s.shelf r.package).isSome

section
variable {path : κ → String} {sha256 : List UInt8 → String} {D : Set κ} {s : Session κ}

omit [DecidableEq κ] in
theorem Session.kept_empty : (empty : Session κ).Kept path sha256 D where
  held := nofun
  rows := by simp [empty, Store.empty, PackageTable.empty]
  calls := by simp [empty, Store.empty]
  apart := .nil
  fresh := by simp [empty, Store.empty]
  whole := by simp [empty, Store.empty, PackageTable.empty]

omit [DecidableEq κ] in
/-- A call that finishes leaves those for other packages. -/
theorem still_open {i : Nat} {call other : Writing κ} (found : s.store.writing[i]? = some call) (member : other ∈ s.store.writing)
    (different : other.package ≠ call.package) : other ∈ s.store.writing.eraseIdx i := by
  obtain ⟨below, rfl⟩ := List.getElem?_eq_some_iff.mp found
  have perm := List.getElem_cons_eraseIdx_perm below
  rcases List.mem_cons.mp (perm.mem_iff.mpr member) with rfl | left
  · exact absurd rfl different
  · exact left

namespace Session.Kept
variable (kept : s.Kept path sha256 D)
include kept

omit [DecidableEq κ] in
theorem on_shelf {package : κ} {content : List UInt8} (held : s.shelf package = some content) : package ∈ D := by
  obtain ⟨r, member, rfl, -⟩ := (kept.held package content held).2.row
  exact (kept.rows r member).1

omit [DecidableEq κ] in
/-- A call and the others that have a file open. -/
theorem others {i : Nat} {call : Writing κ} (found : s.store.writing[i]? = some call) :
    ∀ other ∈ s.store.writing.eraseIdx i, other ∈ s.store.writing ∧
      (other.package = call.package → other.alone = false ∧ call.alone = false) := by
  obtain ⟨below, rfl⟩ := List.getElem?_eq_some_iff.mp found
  have perm := List.getElem_cons_eraseIdx_perm below
  have pairs : (s.store.writing[i] :: s.store.writing.eraseIdx i).Pairwise fun a b => a.package = b.package → a.alone = false ∧ b.alone = false :=
    (perm.pairwise_iff fun pair same => (pair same.symm).symm).mpr kept.apart
  intro other member
  refine ⟨List.mem_of_mem_eraseIdx member, fun same => ?_⟩
  exact ((List.pairwise_cons.mp pairs).1 other member same.symm).symm

omit [DecidableEq κ] in
/-- A write leaves the files of other packages alone. -/
theorem write_elsewhere (separate : D.InjOn path) {i : Nat} {call : Writing κ} (found : s.store.writing[i]? = some call) {package : κ}
    (known : package ∈ D) (different : package ≠ call.package) : s.store.write path call (path package) = s.store.files (path package) := by
  have elsewhere : path package ≠ path call.package := fun same =>
    different (separate known (kept.calls call (List.mem_of_getElem? found)) same)
  unfold Store.write
  split
  · exact Function.update_of_ne elsewhere _ _
  · rfl

omit [DecidableEq κ] in
/-- The file of a call that nobody disturbed has its content afterwards. -/
theorem write_alone {i : Nat} {call : Writing κ} (found : s.store.writing[i]? = some call) (linked : call.linked = true)
    (alone : call.alone = true) : s.store.write path call (path call.package) = some call.file_content := by
  rw [Store.write, if_pos linked, Function.update_self, kept.fresh call (List.mem_of_getElem? found) linked alone]
  simp [Store.overlay]

section
variable (separate : D.InjOn path)
include separate

theorem opens {package : κ} (known : package ∈ D) (file_content : List UInt8) (metadata : String) :
    (s.step path sha256 (.open_file package file_content metadata)).Kept path sha256 D where
  held other content held := by
    obtain ⟨different, held⟩ : other ≠ package ∧ s.shelf other = some content := by
      by_cases same : other = package
      · simp [Session.step, same] at held
      · simpa [Session.step, same] using held
    obtain ⟨absent, gives⟩ := kept.held other content held
    refine ⟨fun call member => ?_, ?_, gives.row⟩
    · rcases List.mem_append.mp member with old | new
      · obtain ⟨call, there, rfl⟩ := List.mem_map.mp old
        have away := absent call there
        split <;> exact away
      · rw [List.mem_singleton.mp new]
        exact Ne.symm different
    · have elsewhere : path other ≠ path package := fun same => different (separate (kept.on_shelf held) known same)
      exact (Function.update_of_ne elsewhere _ _).trans gives.file
  rows := kept.rows
  calls call member := by
    rcases List.mem_append.mp member with old | new
    · obtain ⟨call, there, rfl⟩ := List.mem_map.mp old
      have inside := kept.calls call there
      split <;> exact inside
    · rw [List.mem_singleton.mp new]
      exact known
  apart := by
    refine List.pairwise_append.mpr ⟨List.pairwise_map.mpr (kept.apart.imp fun {a b} pair => ?_), List.pairwise_singleton _ _, ?_⟩
    · intro same
      have packages : a.package = b.package := by
        revert same
        split <;> split <;> exact id
      obtain ⟨first, second⟩ := pair packages
      constructor
      · split
        · rfl
        · exact first
      · split
        · rfl
        · exact second
    · intro a old b new same
      obtain ⟨call, there, rfl⟩ := List.mem_map.mp old
      rw [List.mem_singleton.mp new] at same ⊢
      have here : call.package = package := by
        revert same
        split <;> exact id
      refine ⟨by simp [here], ?_⟩
      rw [List.all_eq_false]
      exact ⟨call, there, by simp [here]⟩
  fresh call member linked alone := by
    rcases List.mem_append.mp member with old | new
    · obtain ⟨call, there, rfl⟩ := List.mem_map.mp old
      by_cases same : path call.package = path package
      · rw [if_pos same] at alone
        cases alone
      · rw [if_neg same] at linked alone ⊢
        exact (Function.update_of_ne same _ _).trans (kept.fresh call there linked alone)
    · rw [List.mem_singleton.mp new]
      exact Function.update_self _ _ _
  whole fine r member := by
    by_cases same : r.package = package
    · exact .inl ⟨_, List.mem_append_right _ (List.mem_singleton_self _), same.symm⟩
    · rcases kept.whole fine r member with ⟨call, there, package_eq⟩ | stays
      · refine .inl ⟨_, List.mem_append_left _ (List.mem_map_of_mem there), ?_⟩
        split <;> exact package_eq
      · refine .inr ?_
        show (Function.update s.shelf package none r.package).isSome
        rwa [Function.update_of_ne same]

omit [DecidableEq κ] in
/-- A call that ends without a row. -/
theorem closes {i : Nat} {call : Writing κ} (found : s.store.writing[i]? = some call) :
    Kept path sha256 D { s with
      store := { s.store with files := s.store.write path call, writing := s.store.writing.eraseIdx i }, failed := true } where
  held other content held := by
    obtain ⟨absent, gives⟩ := kept.held other content held
    have different : other ≠ call.package := Ne.symm (absent call (List.mem_of_getElem? found))
    exact ⟨fun call member => absent call (List.mem_of_mem_eraseIdx member),
      (kept.write_elsewhere separate found (kept.on_shelf held) different).trans gives.file, gives.row⟩
  rows := kept.rows
  calls call member := kept.calls call (List.mem_of_mem_eraseIdx member)
  apart := kept.apart.sublist (List.eraseIdx_sublist _ _)
  fresh other member linked alone := by
    obtain ⟨there, shared⟩ := kept.others found other member
    have different : other.package ≠ call.package := fun same => nomatch alone.symm.trans (shared same).1
    exact (kept.write_elsewhere separate found (kept.calls other there) different).trans (kept.fresh other there linked alone)
  whole := nofun

omit separate in
/-- A row for a package that is not on the shelf. -/
theorem inserts (row : StoredRow κ) (known : row.package ∈ D) (placed : row.file_path = path row.package) (off : s.shelf row.package = none) :
    Kept path sha256 D { s with store := { s.store with table := s.store.table.insert row }, failed := true } where
  held other content held := by
    obtain ⟨absent, file, r, member, package, said⟩ := kept.held other content held
    have different : r.package ≠ row.package := by
      intro same
      rw [← same, package] at off
      exact nomatch off.symm.trans held
    exact ⟨absent, file, r, PackageTable.mem_insert.mpr (.inl ⟨member, different⟩), package, said⟩
  rows r member := by
    rcases PackageTable.mem_insert.mp member with ⟨old, -⟩ | rfl
    · exact kept.rows r old
    · exact ⟨known, placed⟩
  calls := kept.calls
  apart := kept.apart
  fresh := kept.fresh
  whole := nofun

omit separate in
/-- A call that nobody disturbed puts its content on the shelf. -/
theorem stores {i : Nat} {call : Writing κ} (found : s.store.writing[i]? = some call) (linked : call.linked = true)
    (alone : call.alone = true) (now : Moment)
    (disturbed : Kept path sha256 D { s with store := s.store.finish path sha256 i (.stores now), failed := true }) :
    Kept path sha256 D { s with
      store := s.store.finish path sha256 i (.stores now), shelf := Function.update s.shelf call.package (some call.file_content) } where
  held other content held := by
    by_cases same : other = call.package
    · subst same
      have stored : content = call.file_content := by simpa using held.symm
      subst stored
      refine ⟨fun other member => ?_, ?_, ?_⟩
      · simp only [Store.finish, found] at member
        exact fun same => nomatch alone.symm.trans ((kept.others found other member).2 same).2
      · simp only [Store.finish, found]
        exact kept.write_alone found linked alone
      · simp only [Store.finish, found]
        exact ⟨_, PackageTable.mem_insert.mpr (.inr rfl), rfl, rfl, rfl, rfl⟩
    · simp only [Function.update_of_ne same] at held
      exact disturbed.held other content held
  rows := disturbed.rows
  calls := disturbed.calls
  apart := disturbed.apart
  fresh := disturbed.fresh
  whole fine r member := by
    simp only [Store.finish, found] at member
    rcases PackageTable.mem_insert.mp member with ⟨old, different⟩ | rfl
    · rcases kept.whole fine r old with ⟨other, there, package⟩ | stays
      · refine .inl ⟨other, ?_, package⟩
        simp only [Store.finish, found]
        exact still_open found there (by rw [package]; exact different)
      · have elsewhere : r.package ≠ call.package := different
        refine .inr ?_
        show (Function.update s.shelf call.package _ r.package).isSome
        rwa [Function.update_of_ne elsewhere]
    · exact .inr (by simp [Store.row])

theorem finishes (i : Nat) (ending : Ending) : (s.step path sha256 (.finish i ending)).Kept path sha256 D := by
  cases found : s.store.writing[i]? with
  | none =>
    have same : s.store.finish path sha256 i ending = s.store := by simp only [Store.finish, found]
    simpa only [Session.step, found, same] using kept
  | some call =>
    have off : s.shelf call.package = none := by
      cases held : s.shelf call.package with
      | none => rfl
      | some content => exact absurd rfl ((kept.held _ content held).1 call (List.mem_of_getElem? found))
    have closed := kept.closes separate found
    cases ending with
    | raises =>
      have ended : s.store.finish path sha256 i .raises =
          { s.store with files := s.store.write path call, writing := s.store.writing.eraseIdx i } := by simp only [Store.finish, found]
      simpa only [Session.step, found, ended] using closed
    | stores now =>
      have known := kept.calls call (List.mem_of_getElem? found)
      have inserted := closed.inserts (Store.row path sha256 call now) known rfl off
      have disturbed : Kept path sha256 D { s with store := s.store.finish path sha256 i (.stores now), failed := true } := by
        simpa only [Store.finish, found] using inserted
      simp only [Session.step, found]
      split
      · next undisturbed =>
        obtain ⟨linked, alone⟩ := Bool.and_eq_true_iff.mp undisturbed
        exact kept.stores found linked alone now disturbed
      · exact disturbed

omit separate in
theorem gets (package : κ) (now : Moment) : (s.step path sha256 (.get_cached_package package now)).Kept path sha256 D where
  held other content held := by
    obtain ⟨absent, file, r, member, named, placed, hashed, sized⟩ := kept.held other content held
    obtain ⟨new, there, package_eq, path_eq, hash_eq, size_eq⟩ := PackageTable.touch_mem package now member
    exact ⟨absent, file, new, there, package_eq.trans named, path_eq.trans placed, hash_eq.trans hashed, size_eq.trans sized⟩
  rows r member := by
    obtain ⟨old, there, package_eq, path_eq, -⟩ := PackageTable.mem_touch member
    rw [package_eq, path_eq]
    exact kept.rows old there
  calls := kept.calls
  apart := kept.apart
  fresh := kept.fresh
  whole fine r member := by
    obtain ⟨old, there, package_eq, -⟩ := PackageTable.mem_touch member
    rw [package_eq]
    exact kept.whole fine old there

omit [DecidableEq κ] separate in
/-- Some files go, and rows only with their files. -/
theorem leaves {left : String → Bool} (table : PackageTable κ) {failed : Bool} (rest : ∀ r ∈ table.rows, r ∈ s.store.table.rows)
    (with_files : ∀ r ∈ s.store.table.rows, r ∈ table.rows ∨ left r.file_path = false)
    (fine : failed = false → s.failed = false ∧ ∀ r ∈ table.rows, (s.store.files r.file_path).isSome → left r.file_path = true) :
    Kept path sha256 D
      { store := { s.store.leave path left with table }
        shelf := fun package => if ((s.store.leave path left).files (path package)).isSome then s.shelf package else none
        failed } where
  held package content held := by
    simp only [Store.leave] at held
    have there : left (path package) = true := by
      by_contra gone
      simp [gone] at held
    obtain ⟨absent, file, r, member, named, placed, said⟩ := kept.held package content (by simp [there] at held; exact held.2)
    refine ⟨fun call open_ => ?_, by simpa [Store.leave, there] using file, r, ?_, named, placed, said⟩
    · obtain ⟨old, was, rfl⟩ := List.mem_map.mp open_
      exact absent old was
    · rcases with_files r member with stays | gone
      · exact stays
      · rw [placed, there] at gone
        cases gone
  rows r member := kept.rows r (rest r member)
  calls call member := by
    obtain ⟨old, was, rfl⟩ := List.mem_map.mp member
    exact kept.calls old was
  apart := List.pairwise_map.mpr kept.apart
  fresh call member linked alone := by
    obtain ⟨old, was, rfl⟩ := List.mem_map.mp member
    obtain ⟨linked, there⟩ := Bool.and_eq_true_iff.mp linked
    simpa [Store.leave, there] using kept.fresh old was linked alone
  whole good r member := by
    obtain ⟨before, files⟩ := fine good
    rcases kept.whole before r (rest r member) with ⟨call, was, package⟩ | held
    · exact .inl ⟨_, List.mem_map_of_mem was, package⟩
    · refine .inr ?_
      obtain ⟨content, held⟩ := Option.isSome_iff_exists.mp held
      have placed := (kept.rows r (rest r member)).2
      have file := (kept.held _ content held).2.file
      have there := files r member (by rw [placed, file]; rfl)
      rw [placed] at there
      simp [Store.leave, there, file, held]

theorem cleans (w : CacheCleanup.Surroundings) (max_size_mb max_age_days : Int) :
    (s.step path sha256 (.cleanup_cache w max_size_mb max_age_days)).Kept path sha256 D := by
  cases ended : CacheCleanup.cleanup_cache w s.store.table.toCacheTable s.store.table.entries (fun name => (s.store.files name).isSome)
      max_size_mb max_age_days with
  | error aborted =>
    have after : s.store.cleanup_cache path w max_size_mb max_age_days = s.store.leave path aborted.files := by
      simp only [Store.cleanup_cache, ended]
    simp only [Session.step, ended, after]
    exact kept.leaves s.store.table (fun _ member => member) (fun _ member => .inl member) nofun
  | ok cleaned =>
    have after : s.store.cleanup_cache path w max_size_mb max_age_days =
        { s.store.leave path cleaned.files with table := s.store.table.delete fun r => r.toCacheRow ∈ cleaned.rows } := by
      simp only [Store.cleanup_cache, ended]
    simp only [Session.step, ended, after]
    have removed := CacheCleanup.removed_gone rfl ended
    have listed : ∀ q ∈ CacheCleanup.gone w (max_size_mb * 1024 * 1024) max_age_days s.store.table.entries, ∃ r ∈ s.store.table.rows, r.toCacheRow = q :=
      fun q member => List.mem_map.mp ((List.mergeSort_perm _ _).mem_iff.mp (CacheCleanup.mem_of_gone member))
    have kept_iff : ∀ r ∈ s.store.table.rows, r.toCacheRow ∈ cleaned.rows ↔
        r.toCacheRow ∉ CacheCleanup.gone w (max_size_mb * 1024 * 1024) max_age_days s.store.table.entries := by
      intro r member
      have there : r.toCacheRow ∈ s.store.table.toCacheTable.rows := List.mem_map_of_mem member
      rw [removed.rows, List.mem_filter, decide_eq_true_eq, and_iff_right there]
      refine not_congr ⟨fun id_gone => ?_, List.mem_map_of_mem⟩
      obtain ⟨q, inside, same⟩ := List.mem_map.mp id_gone
      obtain ⟨other, was, rfl⟩ := listed q inside
      rwa [← s.store.table.toCacheTable.eq_of_id (List.mem_map_of_mem was) there same]
    refine kept.leaves _ (fun r member => (PackageTable.mem_delete.mp member).1) (fun r member => ?_) fun fine => ⟨fine, fun r member file => ?_⟩
    · by_cases stays : r.toCacheRow ∈ cleaned.rows
      · exact .inl (PackageTable.mem_delete.mpr ⟨member, decide_eq_true stays⟩)
      · refine .inr ?_
        have inside := not_not.mp (mt (kept_iff r member).mpr stays)
        rw [removed.files, decide_eq_false (not_not.mpr (List.mem_map_of_mem inside)), Bool.and_false]
    · obtain ⟨there, stays⟩ := PackageTable.mem_delete.mp member
      have spared := (kept_iff r there).mp (of_decide_eq_true stays)
      rw [removed.files, Bool.and_eq_true_iff, decide_eq_true_eq]
      refine ⟨file, fun path_gone => spared ?_⟩
      obtain ⟨q, inside, same⟩ := List.mem_map.mp path_gone
      obtain ⟨other, was, rfl⟩ := listed q inside
      -- the file of another row is the file of another package
      obtain ⟨known, placed⟩ := kept.rows r there
      obtain ⟨other_known, other_placed⟩ := kept.rows other was
      have packages : other.package = r.package := separate other_known known (by rw [← other_placed, ← placed, same])
      rwa [← s.store.table.eq_of_package was there packages]

/-- What one step keeps. -/
theorem step {event : Event κ} (known : ∀ package ∈ cached_in [event], package ∈ D) : (s.step path sha256 event).Kept path sha256 D := by
  cases event with
  | open_file package file_content metadata =>
    exact kept.opens separate (known package (by simp [cached_in])) file_content metadata
  | finish i ending => exact kept.finishes separate i ending
  | get_cached_package package now => exact kept.gets package now
  | cleanup_cache w max_size_mb max_age_days => exact kept.cleans separate w max_size_mb max_age_days

end
end Session.Kept

/-! ## Whole runs -/

/-- In every run a package on the shelf has a row, and row and file give its content back. Where nothing
    went wrong, each row that is found is that of a package on the shelf, or of one that is being cached again. -/
theorem cached_packages_give_back (path : κ → String) (sha256 : List UInt8 → String) (events : List (Event κ))
    (separate : ∀ p ∈ cached_in events, ∀ q ∈ cached_in events, path p = path q → p = q) :
    let s := events.foldl (Session.step path sha256) .empty
    (∀ package content, s.shelf package = some content → ∃ r, s.store.cached package = some r ∧
      r.file_path = path package ∧ s.store.files r.file_path = some content ∧
      r.file_hash = sha256 content ∧ r.file_size = content.length) ∧
    (s.failed = false → ∀ package r, s.store.cached package = some r →
      (∃ call ∈ s.store.writing, call.package = package) ∨ (s.shelf package).isSome) := by
  intro s
  have kept : s.Kept path sha256 {package | package ∈ cached_in events} := by
    have injective : Set.InjOn path {package | package ∈ cached_in events} := fun p known q other same => separate p known q other same
    refine Runs.foldl_keeps (P := fun _ event => ∀ package ∈ cached_in [event], package ∈ {package | package ∈ cached_in events})
      (fun _ _ kept known => kept.step injective known) Session.kept_empty (Runs.along_of_mem fun _ event member package cached => ?_)
    obtain ⟨e, here, found⟩ := List.mem_filterMap.mp cached
    rw [List.mem_singleton.mp here] at found
    exact List.mem_filterMap.mpr ⟨event, member, found⟩
  constructor
  · intro package content held
    obtain ⟨-, file, r, member, named, placed, hashed, sized⟩ := kept.held package content held
    exact ⟨r, Store.cached_eq_some.mpr ⟨member, named⟩, placed, placed ▸ file, hashed, sized⟩
  · intro fine package r found
    obtain ⟨member, rfl⟩ := Store.cached_eq_some.mp found
    exact kept.whole fine r member

end

/-! ## Two packages -/

def under_packages (package : String × String) : String := "packages/" ++ package.1 ++ "/" ++ package.2 ++ ".rpyx"

/-- What `hashlib.sha256(content).hexdigest()` answers for the contents below. -/
def digest (content : List UInt8) : String :=
  if content = [97, 98, 99] then "ba7816bf8f01cfea414140de5dae2223b00361a396177a9cb410ff61f20015ad"
  else "769a4e6d0003189c7e96c5d9b7e810a0d11c3a12832527ec94b0f86d277f51ca"

/-- Two packages are cached at the same time. -/
def two_packages : List (Event (String × String)) := [
  .open_file ("core", "1.0") [97, 98, 99] "{}", .open_file ("tools", "2.1") [120, 121] "{}",
  .finish 1 (.stores ⟨1, "2025-01-01 00:00:00.000001"⟩), .finish 0 (.stores ⟨2, "2025-01-01 00:00:00.000002"⟩)]

theorem two_packages_give_back :
    ∃ r, (two_packages.foldl (Session.step under_packages digest) .empty).store.cached ("core", "1.0") = some r ∧
      r.file_path = "packages/core/1.0.rpyx" ∧
      (two_packages.foldl (Session.step under_packages digest) .empty).store.files r.file_path = some [97, 98, 99] ∧
      r.file_hash = "ba7816bf8f01cfea414140de5dae2223b00361a396177a9cb410ff61f20015ad" ∧ r.file_size = 3 :=
  (cached_packages_give_back under_packages digest two_packages (by decide)).1 ("core", "1.0") [97, 98, 99] rfl

end
end RevitPy.PackageStore
