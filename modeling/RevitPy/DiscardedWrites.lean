import RevitPy.ParameterWrites

/-!
# Discarding written parameters

A write goes to the Revit element at once, and discarding it only drops the cache entry.
The parameter is then read from Revit, which has the new value.
-/

namespace RevitPy.Api
variable {σ ν : Type}

/-- Reading a parameter of a Revit element gives a value. -/
def Reads (v : Values ν) (r : IRevitElement σ ν) (s : σ) (parameter_name : String) (value : Option ν) : Prop :=
  ∃ entry, Element.read v r { revit_element := s } parameter_name = .ok (entry, value)

namespace Element
variable (v : Values ν) (r : IRevitElement σ ν)

/-- Save all tracked changes to Revit. The id is read for a message before the changes are cleared. -/
def save_changes (e : Element σ ν) : Except (ElementException ν) Unit × Element σ ν :=
  if ¬e._is_dirty then (.ok (), e)
  else match e.id r with
    | .error message => (.error (.other message), e)
    | .ok _ =>
      (.ok (),
        { e with
          _change_tracker := ∅
          _is_dirty := false })

/-- Tracked writes, up to the first that raises. -/
def writes : List (String × Option ν) → Element σ ν → Except (ElementException ν) (Element σ ν)
  | [], e => .ok e
  | (parameter_name, value) :: rest, e => match e.set_parameter_value v r parameter_name value true with
    | (.ok (), e) => writes rest e
    | (.error raised, _) => .error raised

/-- What the writes do to the Revit element. -/
def revit_writes : List (String × Option ν) → σ → Except String σ
  | [], s => .ok s
  | (parameter_name, value) :: rest, s => match r.SetParameterValue parameter_name value s with
    | .ok s => revit_writes rest s
    | .error cause => .error cause

/-- No change is tracked. -/
def Clean (e : Element σ ν) : Prop := e._change_tracker = ∅ ∧ e._is_dirty = false

/-- Changes are tracked only in elements that are dirty. -/
def Tidy (e : Element σ ν) : Prop := e._is_dirty = false → e._change_tracker = ∅

/-- Every written parameter that had a value has it again, once the changes are discarded. -/
def Restored (ws : List (String × Option ν)) (e left : Element σ ν) : Prop :=
  ∀ item ∈ ws, ∀ old, (e.get_parameter_value v r item.1 true).1 = .ok old →
    (left.discard_changes.get_parameter_value v r item.1 true).1 = .ok old

/-- Revit has the old value of every tracked parameter, also after the writes, and the
    values that are not tracked are the old ones. -/
def Harmless (ws : List (String × Option ν)) (s written : σ) : Prop :=
  ∀ item ∈ ws, ∀ old, Reads v r s item.1 old →
    (v.ne none item.2 = .ok true → Reads v r written item.1 old) ∧ (v.ne none item.2 = .ok false → item.2 = old)

/-! ## What calls do -/

variable {v r} {e left : Element σ ν} {parameter_name : String}

theorem get_cached {entry : ParameterValue ν} (cached : e._parameter_cache.get? parameter_name = some entry) :
    e.get_parameter_value v r parameter_name true = (.ok entry.value, e) := by
  rw [get_parameter_value, if_pos rfl, cached]

/-- Without a cache entry, the value is what Revit has. -/
theorem get_uncached (uncached : e._parameter_cache.get? parameter_name = none) (value : Option ν) :
    (e.get_parameter_value v r parameter_name true).1 = .ok value ↔ Reads v r e.revit_element parameter_name value := by
  have reads : Reads v r e.revit_element parameter_name value ↔ ∃ entry, e.read v r parameter_name = .ok (entry, value) := Iff.rfl
  rw [get_parameter_value, if_pos rfl, uncached, reads]
  cases e.read v r parameter_name with
  | error cause =>
    simp only [reduceCtorEq, exists_false, iff_false]
    cases e.id r <;> exact fun returned => by cases returned
  | ok answer =>
    obtain ⟨entry, converted⟩ := answer
    simp

/-- A tracked write that returns: the parameter was not cached, Revit is written, and the
    value is cached, and tracked unless it equals `None`. -/
theorem set_returned {value : Option ν} (returned : e.set_parameter_value v r parameter_name value true = (.ok (), left)) :
    e._parameter_cache.get? parameter_name = none ∧ ∃ differs entry, v.ne none value = .ok differs ∧ entry.value = value ∧
      r.SetParameterValue parameter_name value e.revit_element = .ok left.revit_element ∧
      left._parameter_cache = e._parameter_cache.set parameter_name entry ∧
      left._change_tracker = (if differs then e._change_tracker.set parameter_name ⟨none, value⟩ else e._change_tracker) ∧
      left._is_dirty = (e._is_dirty || differs) := by
  unfold set_parameter_value _convert_to_revit at returned
  cases accepted : r.SetParameterValue parameter_name value e.revit_element with
  | error cause => simp [accepted] at returned
  | ok written =>
    simp only [accepted, if_true, track] at returned
    cases cached : e._parameter_cache.get? parameter_name with
    | some entry => simp [cached] at returned
    | none =>
      simp only [cached] at returned
      cases compared : v.ne none value with
      | error cause => simp [compared] at returned
      | ok differs =>
        cases stored : _get_storage_type v value with
        | error cause => cases differs <;> simp [compared, stored] at returned
        | ok storage_type =>
          refine ⟨rfl, differs, ⟨parameter_name, value, v.type_name value, false, storage_type⟩, rfl, rfl, ?_⟩
          cases differs <;>
          · simp only [compared, stored, create_eq] at returned
            split at returned
            · cases returned
            · cases returned
              simp

/-! ## What a sequence of writes does -/

/-- A sequence of tracked writes that all return. -/
structure Sequence (v : Values ν) (r : IRevitElement σ ν) (ws : List (String × Option ν)) (e left : Element σ ν) : Prop where
  revit : revit_writes r ws e.revit_element = .ok left.revit_element
  names : (ws.map Prod.fst).Nodup
  uncached : ∀ item ∈ ws, e._parameter_cache.get? item.1 = none
  cached : ∀ item ∈ ws, ∃ entry, left._parameter_cache.get? item.1 = some entry ∧ entry.value = item.2
  others : ∀ k, k ∉ ws.map Prod.fst → left._parameter_cache.get? k = e._parameter_cache.get? k
  compared : ∀ item ∈ ws, ∃ differs, v.ne none item.2 = .ok differs
  tracked : ∀ k, k ∈ left._change_tracker.keys ↔ k ∈ e._change_tracker.keys ∨ ∃ item ∈ ws, item.1 = k ∧ v.ne none item.2 = .ok true
  dirty : left._is_dirty = true ↔ e._is_dirty = true ∨ ∃ item ∈ ws, v.ne none item.2 = .ok true

theorem sequence_of_writes {ws : List (String × Option ν)} (succeed : writes v r ws e = .ok left) : Sequence v r ws e left := by
  induction ws generalizing e with
  | nil =>
    obtain rfl := Except.ok.inj succeed
    exact ⟨rfl, List.nodup_nil, nofun, nofun, fun _ _ => rfl, nofun, fun k => by simp, by simp⟩
  | cons first rest ih =>
    obtain ⟨name, value⟩ := first
    rw [writes] at succeed
    split at succeed
    · next e' returned =>
      obtain ⟨absent, differs, entry, compared, same, written, cache, changes, dirty⟩ := set_returned returned
      have later := ih succeed
      have fresh : name ∉ rest.map Prod.fst := by
        intro again
        obtain ⟨item, member, rfl⟩ := List.mem_map.mp again
        have gone := later.uncached item member
        rw [cache, Dict.get?_set_self] at gone
        cases gone
      refine ⟨?_, List.nodup_cons.mpr ⟨fresh, later.names⟩, ?_, ?_, ?_, ?_, ?_, ?_⟩
      · rw [revit_writes, written]
        exact later.revit
      · rintro item (_ | ⟨_, member⟩)
        · exact absent
        · have gone := later.uncached item member
          rw [cache, Dict.get?_set] at gone
          split at gone
          · cases gone
          · exact gone
      · rintro item (_ | ⟨_, member⟩)
        · exact ⟨entry, by rw [later.others name fresh, cache, Dict.get?_set_self], same⟩
        · exact later.cached item member
      · intro k outside
        rw [List.map_cons, List.mem_cons, not_or] at outside
        rw [later.others k outside.2, cache, Dict.get?_set_ne _ _ (Ne.symm outside.1)]
      · rintro item (_ | ⟨_, member⟩)
        · exact ⟨differs, compared⟩
        · exact later.compared item member
      · intro k
        rw [later.tracked k, changes]
        cases differs <;> simp [compared, or_assoc, or_left_comm, eq_comm]
      · rw [later.dirty, dirty]
        cases differs <;> simp [compared]
    · cases succeed

theorem get?_erase_all {α : Type} (ks : List String) (d : Dict String α) (k : String) :
    (ks.foldl Dict.erase d).get? k = if k ∈ ks then none else d.get? k := by
  induction ks generalizing d with
  | nil => simp
  | cons first rest ih =>
    rw [List.foldl_cons, ih, Dict.get?_erase]
    by_cases same : first = k
    · simp [same]
    · simp [same, Ne.symm same]

/-- Discarding drops the cache entries of the tracked parameters. -/
theorem cache_discard_changes (e : Element σ ν) (tidy : e.Tidy) (k : String) :
    e.discard_changes._parameter_cache.get? k = if k ∈ e._change_tracker.keys then none else e._parameter_cache.get? k := by
  unfold discard_changes
  cases dirty : e._is_dirty with
  | false => simp [tidy dirty]
  | true =>
    simp only [not_true_eq_false, if_false]
    exact get?_erase_all _ _ k

theorem revit_discard_changes (e : Element σ ν) : e.discard_changes.revit_element = e.revit_element := by
  unfold discard_changes
  split <;> rfl

/-- What is read of a written parameter once the changes are discarded. -/
theorem discarded_value {ws : List (String × Option ν)} (clean : e.Clean) (sequence : Sequence v r ws e left)
    {item : String × Option ν} (member : item ∈ ws) (old : Option ν) :
    (left.discard_changes.get_parameter_value v r item.1 true).1 = .ok old ↔
      (v.ne none item.2 = .ok true → Reads v r left.revit_element item.1 old) ∧ (v.ne none item.2 = .ok false → item.2 = old) := by
  have only (k : String) : k ∈ left._change_tracker.keys ↔ ∃ item ∈ ws, item.1 = k ∧ v.ne none item.2 = .ok true := by
    rw [sequence.tracked k, clean.1]
    simp
  have tidy : left.Tidy := by
    intro quiet
    have none_tracked : ∀ k, k ∉ left._change_tracker.keys := by
      intro k tracked
      obtain ⟨item, known, -, differs⟩ := (only k).mp tracked
      have dirty := sequence.dirty.mpr (Or.inr ⟨item, known, differs⟩)
      rw [quiet] at dirty
      cases dirty
    exact Dict.ext (List.map_eq_nil_iff.mp (List.eq_nil_iff_forall_not_mem.mpr none_tracked))
  obtain ⟨differs, compared⟩ := sequence.compared item member
  cases differs with
  | true =>
    have dropped : left.discard_changes._parameter_cache.get? item.1 = none := by
      rw [cache_discard_changes left tidy, if_pos ((only item.1).mpr ⟨item, member, rfl, compared⟩)]
    rw [get_uncached dropped, revit_discard_changes]
    simp [compared]
  | false =>
    have untracked : item.1 ∉ left._change_tracker.keys := by
      intro tracked
      obtain ⟨other, known, same, differs⟩ := (only item.1).mp tracked
      obtain rfl := List.inj_on_of_nodup_map sequence.names known member same
      rw [compared] at differs
      cases differs
    obtain ⟨entry, cached, value⟩ := sequence.cached item member
    have kept : left.discard_changes._parameter_cache.get? item.1 = some entry := by
      rw [cache_discard_changes left tidy, if_neg untracked, cached]
    rw [get_cached kept, value]
    simp [compared]

/-- Discarding restores the old values exactly where the writes have done no harm. -/
theorem restored_iff {ws : List (String × Option ν)} (clean : e.Clean) (succeed : writes v r ws e = .ok left) :
    Restored v r ws e left ↔ ∃ written, revit_writes r ws e.revit_element = .ok written ∧ Harmless v r ws e.revit_element written := by
  have sequence := sequence_of_writes succeed
  have value (item : String × Option ν) (member : item ∈ ws) (old : Option ν) :
      (e.get_parameter_value v r item.1 true).1 = .ok old ↔ Reads v r e.revit_element item.1 old :=
    get_uncached (sequence.uncached item member) old
  constructor
  · intro restored
    refine ⟨left.revit_element, sequence.revit, fun item member old reads => ?_⟩
    exact (discarded_value clean sequence member old).mp (restored item member old ((value item member old).mpr reads))
  · rintro ⟨written, revit, harmless⟩ item member old before
    obtain rfl : left.revit_element = written := Except.ok.inj (sequence.revit.symm.trans revit)
    exact (discarded_value clean sequence member old).mpr (harmless item member old ((value item member old).mp before))

/-- A wall of height 2 that is set to 3 keeps the new height. -/
theorem height_stays : ∃ left, writes numbers wall [("Height", some 3)] { revit_element := some 2 } = .ok left ∧
    ¬Restored numbers wall [("Height", some 3)] { revit_element := some 2 } left := by
  refine ⟨_, rfl, fun restored => ?_⟩
  have height := congrArg Except.toOption (restored ("Height", some 3) List.mem_cons_self (some 2) rfl)
  revert height
  decide +kernel

theorem height_written_again : ∃ left, writes numbers wall [("Height", some 2)] { revit_element := some 2 } = .ok left ∧
    (Restored numbers wall [("Height", some 2)] { revit_element := some 2 } left ↔
      ∃ written, revit_writes wall [("Height", some 2)] (some 2) = .ok written ∧
        Harmless numbers wall [("Height", some 2)] (some 2) written) :=
  ⟨_, rfl, restored_iff ⟨rfl, rfl⟩ rfl⟩

/-! ## Revit elements that keep what they are given -/

/-- A parameter that is written reads as what was written, and the others as before. -/
structure Stores (v : Values ν) (r : IRevitElement σ ν) : Prop where
  written : ∀ name value s s', r.SetParameterValue name value s = .ok s' → ∀ old, Reads v r s' name old ↔ value = old
  others : ∀ name value s s', r.SetParameterValue name value s = .ok s' → ∀ other, other ≠ name →
    ∀ old, Reads v r s' other old ↔ Reads v r s other old

theorem reads_after_writes (stores : Stores v r) {ws : List (String × Option ν)} (names : (ws.map Prod.fst).Nodup) {s written : σ}
    (revit : revit_writes r ws s = .ok written) :
    (∀ item ∈ ws, ∀ old, Reads v r written item.1 old ↔ item.2 = old) ∧
      ∀ other, other ∉ ws.map Prod.fst → ∀ old, Reads v r written other old ↔ Reads v r s other old := by
  induction ws generalizing s with
  | nil =>
    obtain rfl := Except.ok.inj revit
    exact ⟨nofun, fun _ _ _ => Iff.rfl⟩
  | cons first rest ih =>
    obtain ⟨name, value⟩ := first
    obtain ⟨fresh, names⟩ := List.nodup_cons.mp names
    rw [revit_writes] at revit
    split at revit
    · next s' accepted =>
      obtain ⟨each, others⟩ := ih names revit
      refine ⟨?_, fun other outside old => ?_⟩
      · rintro item (_ | ⟨_, member⟩) old
        · rw [others name fresh, stores.written name value s s' accepted]
        · exact each item member old
      · rw [List.map_cons, List.mem_cons, not_or] at outside
        rw [others other outside.2, stores.others name value s s' accepted other outside.1]
    · cases revit

/-- There, nothing is restored but what was not changed. -/
theorem restored_iff_of_stores (stores : Stores v r) {ws : List (String × Option ν)} (clean : e.Clean)
    (succeed : writes v r ws e = .ok left) :
    Restored v r ws e left ↔ ∀ item ∈ ws, ∀ old, Reads v r e.revit_element item.1 old → item.2 = old := by
  have sequence := sequence_of_writes succeed
  obtain ⟨each, -⟩ := reads_after_writes stores sequence.names sequence.revit
  rw [restored_iff clean succeed]
  constructor
  · rintro ⟨written, revit, harmless⟩ item member old before
    obtain rfl : left.revit_element = written := Except.ok.inj (sequence.revit.symm.trans revit)
    obtain ⟨differs, compared⟩ := sequence.compared item member
    cases differs with
    | true => exact (each item member old).mp ((harmless item member old before).1 compared)
    | false => exact (harmless item member old before).2 compared
  · intro same
    refine ⟨left.revit_element, sequence.revit, fun item member old before => ⟨fun _ => ?_, fun _ => same item member old before⟩⟩
    exact (each item member old).mpr (same item member old before)

/-! ## What is tracked -/

theorem tidy_track {value : Option ν} (tidy : e.Tidy) (tracks : e.track v parameter_name value = .ok left) : left.Tidy := by
  unfold track at tracks
  split at tracks
  · cases tracks
  · split at tracks
    · cases tracks
    · obtain rfl := Except.ok.inj tracks
      exact tidy
    · obtain rfl := Except.ok.inj tracks
      exact nofun

/-- Changes are tracked only in dirty elements, whatever is called. -/
theorem tidy_call (e : Element σ ν) (tidy : e.Tidy) (made : ElementCall ν) : (e.call v r made).Tidy := by
  cases made with
  | get_parameter_value parameter_name use_cache =>
    simp only [call, get_parameter_value]
    repeat' split
    all_goals exact tidy
  | set_parameter_value parameter_name value track_changes =>
    simp only [call, set_parameter_value]
    split
    · exact tidy
    · next written _ =>
      have kept : Element.Tidy { e with revit_element := written } := tidy
      split
      · exact kept
      · next tracked tracks =>
        have tidy' : tracked.Tidy := by
          split at tracks
          · exact tidy_track kept tracks
          · exact Except.ok.inj tracks ▸ kept
        repeat' split
        all_goals exact tidy'
  | discard_changes =>
    simp only [call, discard_changes]
    split
    · exact tidy
    · exact fun _ => rfl
  | refresh => exact fun _ => rfl

theorem tidy_run (revit_element : σ) (calls : List (ElementCall ν)) : (run v r revit_element calls).Tidy :=
  List.foldlRecOn (motive := Tidy) calls (call v r) (fun _ => rfl) fun e tidy made _ => tidy_call e tidy made

/-- Saving leaves no tracked changes. -/
theorem clean_save_changes (tidy : e.Tidy) (saved : (e.save_changes r).1 = .ok ()) : (e.save_changes r).2.Clean := by
  unfold save_changes at saved ⊢
  cases dirty : e._is_dirty with
  | false => exact ⟨tidy dirty, dirty⟩
  | true =>
    simp only [dirty, not_true_eq_false, if_false] at saved ⊢
    split at saved
    · cases saved
    · exact ⟨rfl, rfl⟩

end Element
end RevitPy.Api
