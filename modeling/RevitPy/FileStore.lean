import RevitPy.FileExchange
import RevitPy.Runs

/-!
# Files that are read back

What a create call wrote is read back as long as no other file comes to its place and the
reader's view of the file agrees with the writer's. A compressed dictionary is never read
back: its path ends in `.gz`, and the reader takes it for bytes.
-/

namespace RevitPy.Exchange
open PosixPath (Directory lastSegment splitSuffix)
open FileExchangeHandler Runs
variable {δ β : Type} {host : Host δ β}

/-! ## What a tracked file is read as -/

/-- A tracked file and its bytes stand for a content. -/
def Fits (host : Host δ β) (f : ExchangeFile) (b : β) : Content δ β → Prop
  | .dict d => host.load b = some d ∧ (∃ stem, stem ≠ [] ∧ f.file_path.name = stem ++ json) ∧ f.is_compressed = false
  | .bytes x => (if f.is_compressed then host.decompress b = some x else b = x) ∧
      (∃ stem, f.file_path.name = stem ++ ".dat".toList ∨ f.file_path.name = stem ++ ".dat.gz".toList) ∧
      ∃ value, (f.metadata.getD ∅).get? "compressed" = some value

theorem suffix_json {p : PosixPath} {stem : List Char} (some_stem : stem ≠ []) (name : p.name = stem ++ json) : p.suffix = json := by
  rw [PosixPath.suffix, name]
  exact congrArg Prod.snd (PosixPath.splitSuffix_append some_stem (by decide) (by decide))

theorem suffix_dat {p : PosixPath} {stem : List Char} (name : p.name = stem ++ ".dat".toList ∨ p.name = stem ++ ".dat.gz".toList) :
    json.isPrefixOf p.suffix = false := by
  rcases name with plain | compressed
  · rw [PosixPath.suffix, plain]
    by_cases hidden : stem = []
    · subst hidden
      rfl
    · have split : splitSuffix (stem ++ ".dat".toList) = (stem, ".dat".toList) := PosixPath.splitSuffix_append hidden (by decide) (by decide)
      rw [split]
      rfl
  · have shape : stem ++ ".dat.gz".toList = (stem ++ ".dat".toList) ++ gz := by simp [gz]
    have split : splitSuffix ((stem ++ ".dat".toList) ++ gz) = (stem ++ ".dat".toList, gz) :=
      PosixPath.splitSuffix_append (by simp) (by decide) (by decide)
    rw [PosixPath.suffix, compressed, shape, split]
    rfl

theorem decode_of_fits {f : ExchangeFile} {b : β} {content : Content δ β} (fits : Fits host f b content) : decode host f b = some content := by
  cases content with
  | dict d =>
    obtain ⟨loads, ⟨stem, some_stem, name⟩, plain⟩ := fits
    have is_json : json.isPrefixOf f.file_path.suffix = true := by
      rw [suffix_json some_stem name]
      rfl
    simp [decode, is_json, plain, loads]
  | bytes x =>
    obtain ⟨stored, ⟨stem, name⟩, _⟩ := fits
    rw [decode, if_neg (by simp [suffix_dat name])]
    cases compressed : f.is_compressed with
    | true =>
      rw [compressed, if_pos rfl] at stored
      simp [stored]
    | false =>
      rw [compressed, if_neg Bool.false_ne_true] at stored
      simp [stored]

/-! ## What the calls keep -/

/-- No two tracked files lie at one place, and those that were written are there. -/
structure Intact (host : Host δ β) (s : FileExchangeHandler β) (written : List (String × Content δ β)) : Prop where
  apart : ∀ j k f g, s.tracked_files.get? j = some f → s.tracked_files.get? k = some g →
    host.place f.file_path = host.place g.file_path → j = k
  there : ∀ entry ∈ written, ∀ f, s.tracked_files.get? entry.1 = some f →
    ∃ b, s.files.get? (host.place f.file_path) = some b ∧ Fits host f b entry.2

/-- No tracked file lies where a path leads. -/
def FreePlace (host : Host δ β) (s : FileExchangeHandler β) (path : PosixPath) : Prop :=
  ∀ j f, s.tracked_files.get? j = some f → host.place f.file_path ≠ host.place path

/-- No other tracked file lies where a file would be archived to. -/
def FreeArchive (host : Host δ β) (s : FileExchangeHandler β) (file_id : String) (archiving : Archiving) : Prop :=
  archiving.moves = true → ∀ f, s.tracked_files.get? file_id = some f → s.files.get? (host.place f.file_path) ≠ none →
    ∀ j g, s.tracked_files.get? j = some g → j ≠ file_id →
      host.place g.file_path ≠ host.place (s.archive_path archiving.timestamp f.file_path)

variable {s : FileExchangeHandler β} {written : List (String × Content δ β)}

/-- A file that is created where no tracked file lies. -/
theorem intact_store (intact : Intact host s written) {file_id : String} {file : ExchangeFile} {text : Option β} {write : Write β}
    (free : write ≠ .refused → FreePlace host s file.file_path) (untracked : write = .complete → file_id ∉ s.tracked_files.keys)
    (known : ∀ entry ∈ written, entry.1 ∈ s.tracked_files.keys) : Intact host (s.store host file_id file text write).2 written := by
  have elsewhere (b : β) (place : FreePlace host s file.file_path) (entry : String × Content δ β) (member : entry ∈ written) (f : ExchangeFile)
      (tracked : s.tracked_files.get? entry.1 = some f) :
      ∃ b', (s.files.set (host.place file.file_path) b).get? (host.place f.file_path) = some b' ∧ Fits host f b' entry.2 := by
    rw [Dict.get?_set_ne _ _ (Ne.symm (place _ f tracked))]
    exact intact.there entry member f tracked
  unfold store
  split
  · next b =>
    have place := free (by simp)
    have fresh := untracked rfl
    refine ⟨?_, ?_⟩
    · intro j k f g first second same
      rw [Dict.get?_set] at first second
      split at first
      · next here =>
        obtain rfl := Option.some.inj first
        split at second
        · next also => exact here.symm.trans also
        · exact absurd same.symm (place k g second)
      · split at second
        · obtain rfl := Option.some.inj second
          exact absurd same (place j f first)
        · exact intact.apart j k f g first second same
    · intro entry member f tracked
      have other : file_id ≠ entry.1 := by
        rintro rfl
        exact fresh (known entry member)
      rw [Dict.get?_set_ne _ _ other] at tracked
      exact elsewhere b place entry member f tracked
  · next left => exact ⟨intact.apart, elsewhere left (free (by simp))⟩
  · exact intact

/-- The name of an archived file is the old one with something before it. -/
theorem name_archive_path (s : FileExchangeHandler β) (timestamp : Rat) (source : PosixPath) (long : 1 < source.name.length) :
    ∃ stem, stem ≠ [] ∧ (s.archive_path timestamp source).name = stem ++ source.name := by
  have slash : '/' ∉ (String.ofList source.name).toList := by
    rw [String.toList_ofList, PosixPath.name]
    split
    · simp
    · next part _ => exact part.no_slash
  refine ⟨lastSegment ((seconds timestamp).toList ++ ['_']), ?_, ?_⟩
  · exact PosixPath.lastSegment_append_ne_nil (seconds timestamp).toList (by decide)
  · refine (PosixPath.name_join _ _ _ (by simpa using long) slash).trans ?_
    rw [String.toList_ofList, String.toList_append]
    rfl

theorem fits_archived {f : ExchangeFile} {b : β} {content : Content δ β} (fits : Fits host f b content) (archiving : Archiving) :
    Fits host { f with file_path := s.archive_path archiving.timestamp f.file_path, status := "archived", modified_at := archiving.modified_at }
      b content := by
  cases content with
  | dict d =>
    obtain ⟨loads, ⟨stem, some_stem, name⟩, plain⟩ := fits
    obtain ⟨before, some_before, renamed⟩ := name_archive_path s archiving.timestamp f.file_path (by simp [name, json])
    have named : (s.archive_path archiving.timestamp f.file_path).name = (before ++ stem) ++ json := by
      rw [renamed, name, List.append_assoc]
    have json_before := suffix_json some_stem name
    have json_after := suffix_json (by simp [some_before]) named
    refine ⟨loads, ⟨before ++ stem, by simp [some_before], named⟩, ?_⟩
    simp only [ExchangeFile.is_compressed, json_before, json_after] at plain ⊢
    exact plain
  | bytes x =>
    obtain ⟨stored, ⟨stem, name⟩, value, flag⟩ := fits
    obtain ⟨before, _, renamed⟩ := name_archive_path s archiving.timestamp f.file_path (by
      rcases name with name | name
      · simp [name]
      · simp [name])
    refine ⟨?_, ⟨before ++ stem, ?_⟩, value, flag⟩
    · simp only [ExchangeFile.is_compressed, flag] at stored ⊢
      exact stored
    · rcases name with name | name
      · exact Or.inl (by rw [renamed, name, List.append_assoc])
      · exact Or.inr (by rw [renamed, name, List.append_assoc])

theorem intact_archive_file (intact : Intact host s written) {file_id : String} {archiving : Archiving}
    (free : FreeArchive host s file_id archiving) : Intact host (s.archive_file host file_id archiving).2 written := by
  unfold archive_file
  split
  · exact intact
  · next f tracked =>
    split
    · exact intact
    · next b stored =>
      split
      · next moves =>
        have apart := free moves f tracked (by simp [stored])
        refine ⟨?_, ?_⟩
        · intro j k g h first second same
          rw [Dict.get?_set] at first second
          split at first
          · next here =>
            obtain rfl := Option.some.inj first
            split at second
            · next also => exact here.symm.trans also
            · next other => exact absurd same.symm (apart k h second (Ne.symm other))
          · next other =>
            split at second
            · obtain rfl := Option.some.inj second
              exact absurd same (apart j g first (Ne.symm other))
            · exact intact.apart j k g h first second same
        · intro entry member g tracked_g
          rw [Dict.get?_set] at tracked_g
          split at tracked_g
          · next here =>
            obtain rfl := Option.some.inj tracked_g
            obtain ⟨b', stored', fits⟩ := intact.there entry member f (here ▸ tracked)
            obtain rfl := Option.some.inj (stored.symm.trans stored')
            exact ⟨b, Dict.get?_set_self .., fits_archived fits archiving⟩
          · next other =>
            have away : host.place f.file_path ≠ host.place g.file_path := fun same => other (intact.apart _ _ f g tracked tracked_g same)
            have kept := intact.there entry member g tracked_g
            rw [Dict.get?_set_ne _ _ (Ne.symm (apart _ g tracked_g (Ne.symm other))), Dict.get?_erase_ne _ away]
            exact kept
      · exact intact

theorem intact_delete_file (intact : Intact host s written) (file_id : String) (unlinks : Bool) :
    Intact host (s.delete_file host file_id unlinks).2 written := by
  unfold delete_file
  split
  · exact intact
  · next f tracked =>
    split
    · exact intact
    · refine ⟨?_, ?_⟩
      · intro j k g h first second same
        exact intact.apart j k g h (Dict.get?_of_erase first) (Dict.get?_of_erase second) same
      · intro entry member g tracked_g
        rw [Dict.get?_erase] at tracked_g
        split at tracked_g
        · cases tracked_g
        · next other =>
          have away : host.place f.file_path ≠ host.place g.file_path := fun same => other (intact.apart _ _ f g tracked tracked_g same)
          rw [Dict.get?_erase_ne _ away]
          exact intact.there entry member g tracked_g

/-- New metadata does not change whether the file counts as compressed. -/
def KeepsCompression (s : FileExchangeHandler β) (file_id : String) (metadata : Option Metadata) : Prop :=
  ∀ f, s.tracked_files.get? file_id = some f → ∀ new, metadata = some new → ∀ value, new.get? "compressed" = some value →
    value.truthy = f.is_compressed

theorem intact_update_file_status (intact : Intact host s written) {file_id status : String} {metadata : Option Metadata} {now : Rat}
    (keeps : KeepsCompression s file_id metadata) : Intact host (s.update_file_status file_id status metadata now) written := by
  unfold update_file_status
  split
  · exact intact
  · next f tracked =>
    have replaced (g : ExchangeFile) (path : g.file_path = f.file_path) (compressed : g.is_compressed = f.is_compressed)
        (flag : ∀ value, (f.metadata.getD ∅).get? "compressed" = some value → ∃ value, (g.metadata.getD ∅).get? "compressed" = some value) :
        Intact host { s with tracked_files := s.tracked_files.set file_id g } written := by
      have before (j : String) (h : ExchangeFile) (found : (s.tracked_files.set file_id g).get? j = some h) :
          ∃ h', s.tracked_files.get? j = some h' ∧ h'.file_path = h.file_path ∧ (h = h' ∨ h = g ∧ h' = f) := by
        rw [Dict.get?_set] at found
        split at found
        · next here =>
          obtain rfl := Option.some.inj found
          exact ⟨f, here ▸ tracked, path.symm, Or.inr ⟨rfl, rfl⟩⟩
        · exact ⟨h, found, rfl, Or.inl rfl⟩
      refine ⟨?_, ?_⟩
      · intro j k h h' first second same
        obtain ⟨_, first_before, first_path, _⟩ := before j h first
        obtain ⟨_, second_before, second_path, _⟩ := before k h' second
        exact intact.apart j k _ _ first_before second_before (by rw [first_path, second_path, same])
      · intro entry member h found
        obtain ⟨h', found_before, same_path, unchanged | ⟨rfl, rfl⟩⟩ := before _ h found
        · exact unchanged ▸ intact.there entry member h' found_before
        · obtain ⟨b, stored, fits⟩ := intact.there entry member h' found_before
          refine ⟨b, path ▸ stored, ?_⟩
          revert fits
          cases entry.2 with
          | dict d => exact fun fits => ⟨fits.1, path ▸ fits.2.1, compressed.trans fits.2.2⟩
          | bytes x => exact fun fits => ⟨compressed ▸ fits.1, path ▸ fits.2.1, fits.2.2.elim flag⟩
    cases metadata with
    | none => exact replaced _ rfl rfl fun value flag => ⟨value, flag⟩
    | some new =>
      dsimp only
      split
      · exact replaced _ rfl rfl fun value flag => ⟨value, flag⟩
      · refine replaced _ rfl ?_ fun value flag => ?_
        · simp only [ExchangeFile.is_compressed, Option.getD_some, Dict.get?_update_entries]
          cases given : new.get? "compressed" with
          | none => rfl
          | some value => exact keeps f tracked new rfl value given
        · cases given : new.get? "compressed" with
          | none => exact ⟨value, by simp [Dict.get?_update_entries, given, flag]⟩
          | some other => exact ⟨other, by simp [Dict.get?_update_entries, given]⟩

theorem intact_cleanup_old_files (intact : Intact host s written) {current_time : Rat} {archivings : String → Archiving}
    {unlinks : String → Bool} (free : Along (fun s file_id => (s.archive_file host file_id (archivings file_id)).2)
      (fun s file_id => FreeArchive host s file_id (archivings file_id)) s (s.files_to_archive current_time)) :
    Intact host (s.cleanup_old_files host current_time archivings unlinks) written := by
  have archives (s : FileExchangeHandler β) (file_id : String) (intact : Intact host s written)
      (free : FreeArchive host s file_id (archivings file_id)) : Intact host (s.archive_file host file_id (archivings file_id)).2 written :=
    intact_archive_file intact free
  have archived := foldl_keeps archives intact free
  have deletes (s : FileExchangeHandler β) (file_id : String) (intact : Intact host s written) (_ : True) :
      Intact host (s.delete_file host file_id (unlinks file_id)).2 written := intact_delete_file intact file_id (unlinks file_id)
  exact foldl_keeps deletes archived (along_of_mem fun _ _ _ => trivial)

/-! ## Sequences of calls -/

namespace Session

/-- What a create call returned an identifier for is read back, unless it was deleted. -/
def ReadsBack (host : Host δ β) (s : Session δ β) : Prop := ∀ entry ∈ s.written, s.handler.read_file host entry.1 = .ok (some entry.2)

/-- A create call opens no tracked file and returns no identifier that is in use. -/
def Apart (host : Host δ β) (s : FileExchangeHandler β) (file_id : String) (file : ExchangeFile) (write : Write β) : Prop :=
  (write ≠ .refused → FreePlace host s file.file_path) ∧ (write = .complete → file_id ∉ s.tracked_files.keys)

/-- What must hold when a call is made. -/
def Readable (host : Host δ β) (s : Session δ β) : Call δ β → Prop
  | .create_request_file data file_id times write =>
    Apart host s.handler (request_id host data file_id times) (s.handler.request_file host data file_id times) write ∧
      (write = .complete → lastSegment (request_id host data file_id times).toList ≠ [])
  | .create_response_file _ request_id times write =>
    Apart host s.handler (response_id request_id times) (s.handler.response_file request_id times) write
  | .create_data_file data data_type file_id compress times write =>
    Apart host s.handler (data_id host data data_type file_id times) (s.handler.data_file host data data_type file_id compress times) write ∧
      (write = .complete → ∀ d, data = .dict d → compress = false ∧ lastSegment (data_id host data data_type file_id times).toList ≠ [])
  | .update_file_status file_id _ metadata _ => KeepsCompression s.handler file_id metadata
  | .archive_file file_id archiving => FreeArchive host s.handler file_id archiving
  | .delete_file _ _ => True
  | .cleanup_old_files current_time archivings _ => Along (fun s file_id => (s.archive_file host file_id (archivings file_id)).2)
      (fun s file_id => FreeArchive host s file_id (archivings file_id)) s.handler (s.handler.files_to_archive current_time)

structure Sound (host : Host δ β) (s : Session δ β) : Prop where
  intact : Intact host s.handler s.written
  tracked : ∀ entry ∈ s.written, entry.1 ∈ s.handler.tracked_files.keys

variable {s : Session δ β}

theorem readsBack_of_sound (sound : s.Sound host) : s.ReadsBack host := by
  intro entry member
  obtain ⟨f, found⟩ := (Dict.mem_keys_iff ..).mp (sound.tracked entry member)
  obtain ⟨b, stored, fits⟩ := sound.intact.there entry member f found
  simp [read_file, found, stored, decode_of_fits fits]

theorem sound_advance {handler : FileExchangeHandler β} (intact : Intact host handler s.written) : (s.advance handler).Sound host := by
  refine ⟨⟨intact.apart, fun entry member => intact.there entry (List.mem_filter.mp member).1⟩, fun entry member => ?_⟩
  exact (Dict.contains_iff ..).mp (List.mem_filter.mp member).2

/-- A file that is written under a new identifier stands for what was to be written. -/
theorem sound_record (sound : s.Sound host) {file_id : String} {file : ExchangeFile} {text : Option β} {write : Write β} {content : Content δ β}
    (apart : Apart host s.handler file_id file write) (fits : write = .complete → ∀ b, text = some b → Fits host file b content) :
    (s.record content (s.handler.store host file_id file text write)).Sound host := by
  have intact : Intact host (s.handler.store host file_id file text write).2 s.written :=
    intact_store sound.intact apart.1 apart.2 sound.tracked
  have kept := sound_advance intact
  by_cases complete : write = .complete ∧ ∃ b, text = some b
  · obtain ⟨rfl, b, rfl⟩ := complete
    refine ⟨⟨kept.intact.apart, fun entry member f found => ?_⟩, fun entry member => ?_⟩
    · rcases List.mem_append.mp member with old | new
      · exact kept.intact.there entry old f found
      · obtain rfl := List.mem_singleton.mp new
        have same : f = file := (Option.some.inj ((Dict.get?_set_self ..).symm.trans found)).symm
        subst same
        exact ⟨b, Dict.get?_set_self .., fits rfl b rfl⟩
    · rcases List.mem_append.mp member with old | new
      · exact kept.tracked entry old
      · obtain rfl := List.mem_singleton.mp new
        exact (Dict.mem_keys_set ..).mpr (Or.inl rfl)
  · have failed : ∃ e, (s.handler.store host file_id file text write).1 = .error e := by
      unfold store
      split
      · next b => exact absurd ⟨rfl, b, rfl⟩ complete
      · exact ⟨_, rfl⟩
      · exact ⟨_, rfl⟩
    obtain ⟨e, raised⟩ := failed
    have unchanged : s.record content (s.handler.store host file_id file text write) = s.advance (s.handler.store host file_id file text write).2 := by
      generalize s.handler.store host file_id file text write = created at raised
      obtain ⟨_, handler⟩ := created
      subst raised
      rfl
    rw [unchanged]
    exact kept

theorem fits_json (load_dump : ∀ d b, host.dump d = some b → host.load b = some d) {d : δ} {b : β} (dumped : host.dump d = some b)
    {f : ExchangeFile} {directory : PosixPath} {file_id : String} (path : f.file_path = directory.join (file_id ++ ".json"))
    (named : lastSegment file_id.toList ≠ []) (plain : (f.metadata.getD ∅).get? "compressed" = none ∨
      (f.metadata.getD ∅).get? "compressed" = some (.bool false)) : Fits host f b (.dict d) := by
  have name : f.file_path.name = lastSegment file_id.toList ++ json := by
    rw [path]
    exact PosixPath.name_join directory file_id ".json" (by decide) (by decide)
  refine ⟨load_dump d b dumped, ⟨_, named, name⟩, ?_⟩
  rcases plain with absent | off
  · rw [ExchangeFile.is_compressed, absent, suffix_json named name]
    rfl
  · rw [ExchangeFile.is_compressed, off]
    rfl

theorem seconds_last (t : Rat) : ∃ before c, (seconds t).toList = before ++ [c] ∧ c ≠ '/' := by
  have digits (n : Nat) : ∃ before c, (toString n).toList = before ++ [c] ∧ c ≠ '/' := by
    obtain ⟨before, c, split⟩ := (List.eq_nil_or_concat' (Nat.toDigits 10 n)).resolve_left Nat.toDigits_ne_nil
    have digit : c.isDigit = true := Nat.isDigit_of_mem_toDigits (n := n) (by decide) (by decide) (split ▸ List.mem_concat_self)
    refine ⟨before, c, Nat.toList_repr.trans split, ?_⟩
    rintro rfl
    exact absurd digit (by decide)
  unfold seconds
  generalize (if 0 ≤ t then t.floor else t.ceil) = whole
  cases whole with
  | ofNat n => exact digits n
  | negSucc n =>
    obtain ⟨before, c, split, other⟩ := digits (n + 1)
    refine ⟨'-' :: before, c, ?_, other⟩
    have shape : (toString (Int.negSucc n)).toList = '-' :: (toString (n + 1)).toList := String.toList_append ..
    rw [shape, split]
    rfl

theorem lastSegment_response_id (request_id : String) (times : CreateTimes) : lastSegment (response_id request_id times).toList ≠ [] := by
  obtain ⟨before, c, split, other⟩ := seconds_last times.file_id
  have shape : (response_id request_id times).toList = (("resp_" ++ request_id ++ "_").toList ++ before) ++ [c] := by
    have ends : (response_id request_id times).toList = ("resp_" ++ request_id ++ "_").toList ++ (seconds times.file_id).toList :=
      String.toList_append ..
    rw [ends, split, List.append_assoc]
  rw [shape]
  exact PosixPath.lastSegment_append_ne_nil _ other

section
variable (load_dump : ∀ d b, host.dump d = some b → host.load b = some d)
  (decompress_compress : ∀ b, host.decompress (host.compress b) = some b)
include load_dump decompress_compress

theorem sound_step (sound : s.Sound host) (call : Call δ β) (readable : s.Readable host call) : (s.step host call).Sound host := by
  cases call with
  | create_request_file data file_id times write =>
    obtain ⟨apart, named⟩ := readable
    exact sound_record sound apart fun complete b dumped => fits_json load_dump dumped rfl (named complete) (Or.inl rfl)
  | create_response_file data request_id times write =>
    have recorded : (s.record (.dict (response_content host data request_id times))
        (s.handler.create_response_file host data request_id times write)).Sound host :=
      sound_record sound readable fun _ b dumped => fits_json load_dump dumped rfl (lastSegment_response_id request_id times) (Or.inl rfl)
    simp only [step, recordReply]
    split
    · exact ⟨recorded.intact, recorded.tracked⟩
    · exact recorded
  | create_data_file data data_type file_id compress times write =>
    obtain ⟨apart, plain⟩ := readable
    have flag : (Dict.ofList [("data_type", MetadataValue.str data_type), ("compressed", .bool compress)]).get? "compressed" =
        some (.bool compress) := by
      simp [Dict.ofList]
    refine sound_record sound apart fun complete b encoded => ?_
    cases data with
    | dict d =>
      obtain ⟨rfl, named⟩ := plain complete d rfl
      exact fits_json load_dump encoded rfl named (Or.inr flag)
    | bytes x =>
      have path (ext : String) (same : file_ext compress (.bytes x : Content δ β) = ext) (long : 1 < ext.toList.length)
          (slash : '/' ∉ ext.toList) : (s.handler.data_file host (.bytes x) data_type file_id compress times).file_path.name =
            lastSegment (data_id host (.bytes x) data_type file_id times).toList ++ ext.toList := by
        rw [data_file, same]
        exact PosixPath.name_join s.handler.data_dir _ ext long slash
      have off : (s.handler.data_file host (.bytes x) data_type file_id compress times).is_compressed = compress := by
        simp only [data_file, ExchangeFile.is_compressed, Option.getD_some, flag, MetadataValue.truthy]
      have stored : b = if compress then host.compress x else x := (Option.some.inj encoded).symm
      refine ⟨?_, ⟨lastSegment (data_id host (.bytes x) data_type file_id times).toList, ?_⟩, .bool compress, flag⟩
      · rw [off, stored]
        cases compress with
        | true => exact decompress_compress x
        | false => rfl
      · cases compress with
        | true => exact Or.inr (path ".dat.gz" rfl (by decide) (by decide))
        | false => exact Or.inl (path ".dat" rfl (by decide) (by decide))
  | update_file_status file_id status metadata now => exact sound_advance (intact_update_file_status sound.intact readable)
  | archive_file file_id archiving => exact sound_advance (intact_archive_file sound.intact readable)
  | delete_file file_id unlinks => exact sound_advance (intact_delete_file sound.intact file_id unlinks)
  | cleanup_old_files current_time archivings unlinks => exact sound_advance (intact_cleanup_old_files sound.intact readable)

/-- While files keep apart and are read the way they were written, everything that was written and not
    deleted is read back. -/
theorem readsBack_of_readable (exchange_dir : PosixPath) (max_file_age : Rat) (files : Dict Directory β) (calls : List (Call δ β))
    (readable : Along (step host) (Readable host) { handler := { exchange_dir, max_file_age, files } } calls) :
    Throughout (step host) (ReadsBack host) { handler := { exchange_dir, max_file_age, files } } calls := by
  have start : Sound host ({ handler := { exchange_dir, max_file_age, files } } : Session δ β) := by
    refine ⟨⟨?_, by simp⟩, by simp⟩
    intro j k f g first
    cases first
  have keeps (s : Session δ β) (call : Call δ β) (sound : s.Sound host) (readable : s.Readable host call) : (s.step host call).Sound host :=
    sound_step load_dump decompress_compress sound call readable
  exact throughout_mono (fun _ => readsBack_of_sound) (throughout_keeps keeps start readable)

end

/-! ## Two short sequences -/

/-- A host on which only one dictionary is written. Dictionaries are empty but for their metadata. -/
def hostOf (known : List (String × MetadataValue)) (text : String) : Host (List (String × MetadataValue)) String where
  place := PosixPath.location []
  hash_str := fun _ => 0
  set_metadata := fun _ metadata => metadata
  dump := fun d => if d = known then some text else none
  dumps := fun d => if d = known then some text else none
  load := fun b => if b = text then some known else none
  compress := fun b => "gzip" ++ b
  decompress := fun b => some (String.ofList (b.toList.drop 4))

theorem load_dump_hostOf (known : List (String × MetadataValue)) (text : String) (d : List (String × MetadataValue)) (b : String)
    (dumped : (hostOf known text).dump d = some b) : (hostOf known text).load b = some d := by
  simp only [hostOf, Option.ite_none_right_eq_some, Option.some.injEq] at dumped ⊢
  exact ⟨dumped.2.symm, dumped.1.symm⟩

theorem decompress_compress_hostOf (known : List (String × MetadataValue)) (text b : String) :
    (hostOf known text).decompress ((hostOf known text).compress b) = some b := by
  simp [hostOf]

def exchangeDirectory : PosixPath := PosixPath.parse "/exchange"

def requestMetadata : List (String × MetadataValue) :=
  [("file_id", .str "a"), ("created_at", .float 1700000000), ("file_type", .str "request"), ("version", .str "1.0.0")]

def requestHost : Host (List (String × MetadataValue)) String := hostOf requestMetadata
  ("\x7b\n  \"_metadata\": \x7b\n    \"file_id\": \"a\",\n    \"created_at\": 1700000000.0,\n    \"file_type\": \"request\",\n    " ++
    "\"version\": \"1.0.0\"\n  \x7d\n\x7d")

def dataMetadata : List (String × MetadataValue) :=
  [("file_id", .str "w"), ("data_type", .str "walls"), ("created_at", .float 1700000000), ("file_type", .str "data"),
    ("compressed", .bool true), ("version", .str "1.0.0")]

def dataHost : Host (List (String × MetadataValue)) String := hostOf dataMetadata
  ("\x7b\"_metadata\": \x7b\"file_id\": \"w\", \"data_type\": \"walls\", \"created_at\": 1700000000.0, \"file_type\": \"data\", " ++
    "\"compressed\": true, \"version\": \"1.0.0\"\x7d\x7d")

def noon : CreateTimes := { file_id := 1700000000, metadata := 1700000000, created_at := 1700000000, modified_at := 1700000000 }

/-- A request is created, completed and archived. -/
theorem readsBack_archived_request : Throughout (step requestHost) (ReadsBack requestHost)
    { handler := { exchange_dir := exchangeDirectory, max_file_age := 86400 } }
    [.create_request_file [] (some "a") noon .complete, .update_file_status "a" "completed" none 1700000001,
      .archive_file "a" { timestamp := 1700000002, modified_at := 1700000002, moves := true }] := by
  refine readsBack_of_readable (load_dump_hostOf _ _) (decompress_compress_hostOf _ _) exchangeDirectory 86400 ∅ _ ?_
  refine ⟨⟨⟨?_, fun _ => by decide⟩, fun _ => by decide⟩, ?_, ?_, trivial⟩
  · intro _ j f tracked
    cases tracked
  · intro f _ new given
    cases given
  · intro _ f _ _ j g tracked other
    have only_a : j ∈ ["a"] := Dict.mem_keys_of_get? tracked
    exact absurd (List.mem_singleton.mp only_a) other

/-- A dictionary that is written compressed is read as the bytes of its text. -/
theorem compressed_dict_lost : ¬Throughout (step dataHost) (ReadsBack dataHost)
    { handler := { exchange_dir := exchangeDirectory, max_file_age := 86400 } } [.create_data_file (.dict []) "walls" (some "w") true noon .complete] := by
  intro throughout
  have read := throughout_last throughout ("w", .dict dataMetadata) (List.mem_singleton_self _)
  cases read

end Session
end RevitPy.Exchange
