import Mathlib.Algebra.BigOperators.Group.List.Basic
import Mathlib.Algebra.Order.Ring.Int
import Mathlib.Data.List.Infix
import Mathlib.Data.List.Nodup
import Mathlib.Logic.Function.Basic

/-!
# Cleaning up the cache of packages

Rows that are too old go, and the rows accessed longest ago go as long as the running total
is above the limit. The total begins with the rows that are too old, wherever they stand in
the order, so that it may take rows away that would fit without them.
-/

namespace RevitPy.CacheCleanup

/-- A row of the table `cache_entries`. -/
structure CacheRow where
  id : Int
  file_path : String
  file_size : Nat
  /-- In microseconds. -/
  cached_at : Int
  last_accessed : String
  deriving DecidableEq

/-- The table, whose primary key is `id`. -/
structure CacheTable where
  rows : List CacheRow
  distinct : (rows.map CacheRow.id).Nodup

/-- What a cleanup meets outside: the clock when a row is looked at, and files that cannot be removed. -/
structure Surroundings where
  now : CacheRow → Int
  unlink : String → Option String

inductive CleanupError
  | OverflowError
  | OSError (message : String)
  deriving DecidableEq

/-- A cleanup that raised: the rows are rolled back, and the files that are gone are gone. -/
structure Aborted where
  error : CleanupError
  files : String → Bool

structure CleanupStats where
  removed_files : Nat := 0
  freed_bytes : Nat := 0
  kept_files : Nat := 0

structure State where
  rows : List CacheRow
  /-- The files that exist. -/
  files : String → Bool
  total_size : Int
  stats : CleanupStats := {}

def total (rows : List CacheRow) : Int := (rows.map fun r => (r.file_size : Int)).sum

/-- `timedelta(days=days)`, in microseconds. -/
def timedelta (days : Int) : Option Int := if days.natAbs ≤ 999999999 then some (days * 86400000000) else none

/-- Remove the file of a row, if it exists. -/
def remove_file (w : Surroundings) (s : State) (entry : CacheRow) : Except Aborted State :=
  if s.files entry.file_path then
    match w.unlink entry.file_path with
    | some message => .error ⟨.OSError message, s.files⟩
    | none => .ok { s with
        files := Function.update s.files entry.file_path false
        stats := { s.stats with
          freed_bytes := s.stats.freed_bytes + entry.file_size
          removed_files := s.stats.removed_files + 1 } }
  else .ok s

/-- One turn of the loop over the rows. -/
def check_entry (w : Surroundings) (max_size_bytes max_age_days : Int) (s : State) (entry : CacheRow) : Except Aborted State :=
  match timedelta max_age_days with
  | none => .error ⟨.OverflowError, s.files⟩
  | some max_age =>
    let too_old := decide (w.now entry - entry.cached_at > max_age)
    let too_much := decide (s.total_size > max_size_bytes)
    let s := if too_much then { s with total_size := s.total_size - entry.file_size } else s
    if too_old || too_much then
      match remove_file w s entry with
      | .ok s => .ok { s with rows := s.rows.filter fun r => r.id ≠ entry.id }
      | .error aborted => .error aborted
    else .ok { s with stats := { s.stats with kept_files := s.stats.kept_files + 1 } }

/-- Clean up cache based on size and age constraints, where the query has answered `entries`. -/
def cleanup_cache (w : Surroundings) (table : CacheTable) (entries : List CacheRow) (files : String → Bool)
    (max_size_mb : Int := 500) (max_age_days : Int := 30) : Except Aborted State :=
  let max_size_bytes := max_size_mb * 1024 * 1024
  entries.foldlM (check_entry w max_size_bytes max_age_days) { rows := table.rows, files, total_size := total entries }

/-- The answer of the query: all rows, in the order in which they were last accessed. -/
structure Answer (table : CacheTable) (entries : List CacheRow) : Prop where
  perm : entries.Perm table.rows
  sorted : entries.Pairwise fun a b => a.last_accessed ≤ b.last_accessed

/-- A row is within the age limit when it is looked at. -/
def fresh (w : Surroundings) (max_age_days : Int) (r : CacheRow) : Bool := w.now r - r.cached_at ≤ max_age_days * 86400000000

/-- What a cleanup should leave. -/
structure Cleaned (w : Surroundings) (table : CacheTable) (entries : List CacheRow) (max_size_mb max_age_days : Int) (s : State) : Prop where
  bounded : total s.rows ≤ max_size_mb * 1024 * 1024
  young : ∀ r ∈ s.rows, fresh w max_age_days r = true
  recent : (entries.filter fun r => r ∈ s.rows) <:+ entries.filter (fresh w max_age_days)
  deleted : ∀ r ∈ table.rows, r ∉ s.rows → s.files r.file_path = false
  needed : ∀ r ∈ table.rows, r ∉ s.rows → fresh w max_age_days r = true →
    max_size_mb * 1024 * 1024 < total (table.rows.filter (fresh w max_age_days))

/-! ## Rows that are spared -/

@[simp] theorem total_nil : total [] = 0 := rfl
@[simp] theorem total_cons (r : CacheRow) (rest : List CacheRow) : total (r :: rest) = r.file_size + total rest := by simp [total]

theorem total_nonneg (rows : List CacheRow) : 0 ≤ total rows := by
  induction rows with
  | nil => simp
  | cons r rest ih => rw [total_cons]; omega

theorem total_sublist {some_rows rows : List CacheRow} (sub : some_rows.Sublist rows) : total some_rows ≤ total rows := by
  induction sub with
  | slnil => simp
  | cons r _ ih => rw [total_cons]; omega
  | cons_cons r _ ih => rw [total_cons, total_cons]; omega

theorem total_perm {rows others : List CacheRow} (perm : rows.Perm others) : total rows = total others := (perm.map _).sum_eq

/-- The longest end of a list of rows that is within a limit. -/
def spared (limit : Int) : List CacheRow → List CacheRow
  | [] => []
  | r :: rest => if limit < total (r :: rest) then spared limit rest else r :: rest

theorem spared_suffix (limit : Int) (entries : List CacheRow) : spared limit entries <:+ entries := by
  induction entries with
  | nil => exact List.suffix_refl _
  | cons r rest ih =>
    rw [spared]
    split
    · exact ih.trans (List.suffix_cons r rest)
    · exact List.suffix_refl _

theorem total_spared {limit : Int} (nonneg : 0 ≤ limit) (entries : List CacheRow) : total (spared limit entries) ≤ limit := by
  induction entries with
  | nil => exact nonneg
  | cons r rest ih =>
    rw [spared]
    split
    · exact ih
    · next fits => exact Int.not_lt.mp fits

/-- A row is spared when it and the rows after it are within the limit. -/
theorem mem_spared_iff {limit : Int} {before after : List CacheRow} {r : CacheRow} (distinct : (before ++ r :: after).Nodup) :
    r ∈ spared limit (before ++ r :: after) ↔ total (r :: after) ≤ limit := by
  induction before with
  | nil =>
    have once : r ∉ after := (List.nodup_cons.mp distinct).1
    rw [List.nil_append, spared]
    split
    · next above => exact iff_of_false (fun member => once ((spared_suffix limit after).subset member)) (Int.not_le.mpr above)
    · next fits => exact iff_of_true List.mem_cons_self (Int.not_lt.mp fits)
  | cons b before ih =>
    rw [List.cons_append, spared]
    split
    · exact ih (List.nodup_cons.mp distinct).2
    · next fits =>
      have part := total_sublist (List.sublist_append_of_sublist_right (List.Sublist.refl (r :: after)) : (r :: after).Sublist (before ++ r :: after))
      rw [total_cons] at fits
      exact iff_of_true (by simp) (by omega)

/-- The rows that a cleanup removes. -/
def gone (w : Surroundings) (limit max_age_days : Int) : List CacheRow → List CacheRow
  | [] => []
  | r :: rest => if limit < total (r :: rest) then r :: gone w limit max_age_days rest else (r :: rest).filter fun r => !fresh w max_age_days r

variable {w : Surroundings} {limit max_age_days : Int} {s t u : State} {entries : List CacheRow}

theorem mem_gone_iff (distinct : entries.Nodup) {r : CacheRow} (known : r ∈ entries) :
    r ∈ gone w limit max_age_days entries ↔ ¬ (r ∈ spared limit entries ∧ fresh w max_age_days r = true) := by
  induction entries with
  | nil => cases known
  | cons first rest ih =>
    obtain ⟨once, distinct⟩ := List.nodup_cons.mp distinct
    rw [gone, spared]
    split
    · rcases List.mem_cons.mp known with rfl | later
      · exact iff_of_true List.mem_cons_self fun left => once ((spared_suffix limit rest).subset left.1)
      · have other : r ≠ first := fun same => once (same ▸ later)
        rw [List.mem_cons, or_iff_right other]
        exact ih distinct later
    · simp [known]

theorem mem_of_gone {r : CacheRow} (member : r ∈ gone w limit max_age_days entries) : r ∈ entries := by
  induction entries with
  | nil => cases member
  | cons first rest ih =>
    rw [gone] at member
    split at member
    · exact List.mem_cons.mpr ((List.mem_cons.mp member).imp id ih)
    · exact (List.mem_filter.mp member).1

/-! ## The loop -/

/-- From `s` to `t` some rows were removed, with their files. -/
structure Removed (s t : State) (removed : List CacheRow) : Prop where
  rows : t.rows = s.rows.filter fun r => r.id ∉ removed.map CacheRow.id
  files : ∀ path, t.files path = (s.files path && decide (path ∉ removed.map CacheRow.file_path))

theorem Removed.none (s : State) : Removed s s [] := ⟨by simp, by simp⟩

theorem Removed.trans {first second : List CacheRow} (before : Removed s t first) (after : Removed t u second) : Removed s u (first ++ second) where
  rows := by
    rw [after.rows, before.rows, List.filter_filter]
    refine List.filter_congr fun r _ => ?_
    rw [List.map_append]
    simp only [List.mem_append, not_or, Bool.decide_and]
    exact Bool.and_comm ..
  files path := by
    rw [after.files, before.files]
    simp [Bool.and_assoc]

/-- What one turn does. -/
structure Turn (w : Surroundings) (limit max_age_days : Int) (s : State) (entry : CacheRow) (t : State) : Prop where
  total_size : t.total_size = if limit < s.total_size then s.total_size - entry.file_size else s.total_size
  removed : Removed s t (if fresh w max_age_days entry && !decide (limit < s.total_size) then [] else [entry])

theorem remove_file_ok {entry : CacheRow} (ended : remove_file w s entry = .ok t) : t.rows = s.rows ∧ t.total_size = s.total_size ∧
    ∀ path, t.files path = (s.files path && decide (path ≠ entry.file_path)) := by
  unfold remove_file at ended
  split at ended
  · split at ended
    · cases ended
    · cases ended
      refine ⟨rfl, rfl, fun path => ?_⟩
      by_cases same : path = entry.file_path
      · simp [same]
      · simp [same]
  · next absent =>
    cases ended
    refine ⟨rfl, rfl, fun path => ?_⟩
    by_cases same : path = entry.file_path
    · simpa [same] using absent
    · simp [same]

theorem turn {entry : CacheRow} (ended : check_entry w limit max_age_days s entry = .ok t) : Turn w limit max_age_days s entry t := by
  unfold check_entry at ended
  cases days : timedelta max_age_days with
  | none => simp [days] at ended
  | some max_age =>
    obtain rfl : max_age_days * 86400000000 = max_age := by
      unfold timedelta at days
      split at days
      · exact Option.some.inj days
      · cases days
    have aged : decide (w.now entry - entry.cached_at > max_age_days * 86400000000) = !fresh w max_age_days entry := by
      rw [fresh, ← decide_not, decide_eq_decide]
      exact Int.not_le.symm
    simp only [days, aged, gt_iff_lt] at ended
    generalize looked : (if decide (limit < s.total_size) = true then { s with total_size := s.total_size - entry.file_size } else s) = s' at ended
    have sized : s'.total_size = if limit < s.total_size then s.total_size - entry.file_size else s.total_size := by
      rw [← looked]
      split <;> simp_all
    have same_rows : s'.rows = s.rows := by rw [← looked]; split <;> rfl
    have same_files : s'.files = s.files := by rw [← looked]; split <;> rfl
    split at ended
    · next go =>
      have removes : (fresh w max_age_days entry && !decide (limit < s.total_size)) = false := by
        rw [← Bool.not_eq_true', Bool.not_and, Bool.not_not]
        exact go
      cases file : remove_file w s' entry with
      | error aborted => simp [file] at ended
      | ok u =>
        simp only [file, Except.ok.injEq] at ended
        obtain ⟨rows, size, files⟩ := remove_file_ok file
        subst ended
        refine ⟨size.trans sized, ?_⟩
        rw [removes]
        refine ⟨?_, fun path => ?_⟩
        · simp [rows, same_rows]
        · simp [files, same_files]
    · next stay =>
      have spares : (fresh w max_age_days entry && !decide (limit < s.total_size)) = true := by
        rw [← Bool.not_eq_false', Bool.not_and, Bool.not_not]
        exact Bool.not_eq_true _ ▸ stay
      cases ended
      refine ⟨sized, ?_⟩
      rw [spares]
      exact ⟨by simp [same_rows], by simp [same_files]⟩

/-- Once the running total is within the limit, only age counts. -/
theorem settled (within : s.total_size ≤ limit) (ended : entries.foldlM (check_entry w limit max_age_days) s = .ok t) :
    Removed s t (entries.filter fun r => !fresh w max_age_days r) := by
  induction entries generalizing s with
  | nil =>
    cases ended
    exact Removed.none _
  | cons entry rest ih =>
    rw [List.foldlM_cons] at ended
    cases first : check_entry w limit max_age_days s entry with
    | error aborted => rw [first] at ended; cases ended
    | ok u =>
      rw [first] at ended
      have step := turn first
      have total_size := step.total_size
      have removed := step.removed
      rw [if_neg (Int.not_lt.mpr within)] at total_size
      have later := ih (total_size.trans_le within) ended
      have both := removed.trans later
      rw [List.filter_cons]
      cases young : fresh w max_age_days entry with
      | true => simpa [young, Int.not_lt.mpr within] using both
      | false => simpa [young] using both

theorem removed_gone (start : s.total_size = total entries) (ended : entries.foldlM (check_entry w limit max_age_days) s = .ok t) :
    Removed s t (gone w limit max_age_days entries) := by
  induction entries generalizing s with
  | nil =>
    cases ended
    exact Removed.none _
  | cons entry rest ih =>
    rw [gone]
    split
    · next above =>
      rw [List.foldlM_cons] at ended
      cases first : check_entry w limit max_age_days s entry with
      | error aborted => rw [first] at ended; cases ended
      | ok u =>
        rw [first] at ended
        have step := turn first
        have total_size := step.total_size
        have removed := step.removed
        rw [start, if_pos above, total_cons, add_sub_cancel_left] at total_size
        rw [start, decide_eq_true above, Bool.not_true, Bool.and_false, if_neg Bool.false_ne_true] at removed
        exact removed.trans (ih total_size ended)
    · next within => exact settled (start.trans_le (Int.not_lt.mp within)) ended

/-! ## A whole cleanup -/

section
variable {table : CacheTable} {max_size_mb : Int} {files : String → Bool}

/-- Rows are the same when their ids are. -/
theorem CacheTable.eq_of_id {r q : CacheRow} (member : r ∈ table.rows) (present : q ∈ table.rows) (same : r.id = q.id) : r = q :=
  List.inj_on_of_nodup_map table.distinct member present same

theorem Answer.nodup (answer : Answer table entries) : entries.Nodup := answer.perm.nodup_iff.mpr table.distinct.of_map

section
variable (answer : Answer table entries) (returned : cleanup_cache w table entries files max_size_mb max_age_days = .ok s)
include answer returned

/-- What is kept is what is spared and within the age limit. -/
theorem mem_rows_iff (r : CacheRow) :
    r ∈ s.rows ↔ r ∈ spared (max_size_mb * 1024 * 1024) entries ∧ fresh w max_age_days r = true := by
  have removed := removed_gone rfl returned
  rw [removed.rows, List.mem_filter, decide_eq_true_eq]
  by_cases known : r ∈ table.rows
  · have listed := answer.perm.mem_iff.mpr known
    have by_id : r.id ∈ (gone w (max_size_mb * 1024 * 1024) max_age_days entries).map CacheRow.id ↔
        r ∈ gone w (max_size_mb * 1024 * 1024) max_age_days entries := by
      refine ⟨fun member => ?_, List.mem_map_of_mem⟩
      obtain ⟨q, inside, same⟩ := List.mem_map.mp member
      exact table.eq_of_id (answer.perm.mem_iff.mp (mem_of_gone inside)) known same ▸ inside
    rw [by_id, mem_gone_iff answer.nodup listed, not_not]
    simp [known]
  · refine iff_of_false (fun kept => known kept.1) fun kept => known ?_
    exact answer.perm.mem_iff.mp ((spared_suffix _ _).subset kept.1)

theorem rows_perm : s.rows.Perm ((spared (max_size_mb * 1024 * 1024) entries).filter (fresh w max_age_days)) := by
  have distinct : s.rows.Nodup := by
    rw [(removed_gone rfl returned).rows]
    exact table.distinct.of_map.filter _
  have spared_distinct := (answer.nodup.sublist (spared_suffix (max_size_mb * 1024 * 1024) entries).sublist).filter (fresh w max_age_days)
  refine (List.perm_ext_iff_of_nodup distinct spared_distinct).mpr fun r => ?_
  rw [mem_rows_iff answer returned, List.mem_filter]

theorem bounded_iff : total s.rows ≤ max_size_mb * 1024 * 1024 ↔ 0 ≤ max_size_mb := by
  constructor
  · intro bounded
    have := total_nonneg s.rows
    omega
  · intro nonneg
    rw [total_perm (rows_perm answer returned)]
    exact (total_sublist List.filter_sublist).trans (total_spared (by omega) entries)

theorem recent : (entries.filter fun r => r ∈ s.rows) <:+ entries.filter (fresh w max_age_days) := by
  have kept : (entries.filter fun r => r ∈ s.rows) = (spared (max_size_mb * 1024 * 1024) entries).filter (fresh w max_age_days) := by
    obtain ⟨before, split⟩ := spared_suffix (max_size_mb * 1024 * 1024) entries
    have distinct := answer.nodup
    rw [← split] at distinct
    have dropped : (before.filter fun r => r ∈ s.rows) = [] := by
      refine List.filter_eq_nil_iff.mpr fun r earlier kept => ?_
      have spares := ((mem_rows_iff answer returned r).mp (decide_eq_true_eq.mp kept)).1
      exact (List.nodup_append.mp distinct).2.2 r earlier r spares rfl
    nth_rewrite 1 [← split]
    rw [List.filter_append, dropped, List.nil_append]
    refine List.filter_congr fun r member => ?_
    rw [Bool.eq_iff_iff, decide_eq_true_eq, mem_rows_iff answer returned]
    exact and_iff_right member
  rw [kept]
  exact (spared_suffix _ entries).filter _

/-- The file of a row that is removed does not exist any more. -/
theorem deleted {r : CacheRow} (known : r ∈ table.rows) (removed : r ∉ s.rows) : s.files r.file_path = false := by
  have all := removed_gone rfl returned
  have inside : r ∈ gone w (max_size_mb * 1024 * 1024) max_age_days entries := by
    rw [mem_gone_iff answer.nodup (answer.perm.mem_iff.mpr known), ← mem_rows_iff answer returned]
    exact removed
  rw [all.files, decide_eq_false (not_not.mpr (List.mem_map_of_mem inside)), Bool.and_false]

end

/-- The rows within the age limit exceed the size limit, or each of them fits with the rows accessed after it. -/
def Fits (w : Surroundings) (entries : List CacheRow) (max_size_mb max_age_days : Int) : Prop :=
  max_size_mb * 1024 * 1024 < total (entries.filter (fresh w max_age_days)) ∨
    ∀ before r after, entries = before ++ r :: after → fresh w max_age_days r = true → total (r :: after) ≤ max_size_mb * 1024 * 1024

/-- A cleanup that returns leaves what it should exactly if the size limit is not negative and either the
    rows that are not too old exceed it, or each of these is within it together with all rows accessed later. -/
theorem cleaned_iff (answer : Answer table entries) (returned : cleanup_cache w table entries files max_size_mb max_age_days = .ok s) :
    Cleaned w table entries max_size_mb max_age_days s ↔ 0 ≤ max_size_mb ∧ Fits w entries max_size_mb max_age_days := by
  have same_total : total (table.rows.filter (fresh w max_age_days)) = total (entries.filter (fresh w max_age_days)) :=
    (total_perm (answer.perm.filter _)).symm
  constructor
  · intro cleaned
    refine ⟨(bounded_iff answer returned).mp cleaned.bounded, ?_⟩
    by_contra misfit
    obtain ⟨room, misfit⟩ := not_or.mp misfit
    refine misfit fun before r after split young => ?_
    have known : r ∈ table.rows := answer.perm.mem_iff.mp (by simp [split])
    have distinct := answer.nodup
    rw [split] at distinct
    refine (mem_spared_iff distinct).mp ?_
    rw [← split]
    by_contra dropped
    have removed : r ∉ s.rows := fun kept => dropped ((mem_rows_iff answer returned r).mp kept).1
    exact room (same_total ▸ cleaned.needed r known removed young)
  · rintro ⟨nonneg, fits⟩
    refine ⟨(bounded_iff answer returned).mpr nonneg, fun r kept => ((mem_rows_iff answer returned r).mp kept).2, recent answer returned,
      fun r known removed => deleted answer returned known removed, fun r known removed young => ?_⟩
    rw [same_total]
    rcases fits with above | each
    · exact above
    · obtain ⟨before, after, split⟩ := List.append_of_mem (answer.perm.mem_iff.mpr known)
      have distinct := answer.nodup
      rw [split] at distinct
      have spares := (mem_spared_iff distinct).mpr (each before r after split young)
      rw [← split] at spares
      exact absurd ((mem_rows_iff answer returned r).mpr ⟨spares, young⟩) removed

/-- A clock that stands still, and files that can be removed. -/
def still : Surroundings := ⟨fun _ => 0, fun _ => none⟩

/-- A young row with 600000 bytes is kept. -/
theorem young_kept : ∃ (table : CacheTable) (s : State), cleanup_cache still table table.rows (fun _ => true) 1 30 = .ok s ∧
    Cleaned still table table.rows 1 30 s := by
  refine ⟨⟨[⟨1, "core.rpyx", 600000, 0, "2024-01-01"⟩], by decide⟩, ⟨[⟨1, "core.rpyx", 600000, 0, "2024-01-01"⟩], _, _, _⟩, rfl, ?_⟩
  refine (cleaned_iff ⟨.refl _, by decide⟩ rfl).mpr ⟨by decide, .inr fun before r after split _ => ?_⟩
  obtain ⟨rfl, rfl, rfl⟩ : before = [] ∧ r = _ ∧ after = [] := by
    cases before with
    | nil => exact ⟨rfl, (List.cons.inj split).1.symm, (List.cons.inj split).2.symm⟩
    | cons b rest => cases rest <;> simp at split
  decide

/-- A young row with 600000 bytes goes because of an old one, which was accessed later and goes as well. -/
theorem young_removed : ∃ (table : CacheTable) (s : State), Answer table table.rows ∧
    cleanup_cache still table table.rows (fun _ => true) 1 30 = .ok s ∧ ¬ Cleaned still table table.rows 1 30 s := by
  refine ⟨⟨[⟨1, "core.rpyx", 600000, 0, "2024-01-01"⟩, ⟨2, "views.rpyx", 600000, -40 * 86400000000, "2024-01-02"⟩], by decide⟩,
    ⟨[], _, _, _⟩, ⟨.refl _, by decide⟩, rfl, fun cleaned => ?_⟩
  exact absurd (cleaned.needed ⟨1, "core.rpyx", 600000, 0, "2024-01-01"⟩ (by decide) (by decide) (by decide)) (by decide)

end
end RevitPy.CacheCleanup
