import RevitPy.FileStore
import RevitPy.Runs

/-!
# Responses that are looked up

A response is looked up by the request named in the metadata of its tracked file. No
response is tracked with metadata, so no lookup finds one.
-/

namespace RevitPy.Exchange
open FileExchangeHandler Runs
variable {δ β : Type} {host : Host δ β}

namespace Session

/-- Some response to the request is neither archived nor deleted. -/
def Answered (s : Session δ β) (request_id : String) : Prop := ∃ reply ∈ s.replies, reply.request_id = request_id ∧ reply.kept = true

/-- Where a response to the request is there, one is returned, and nothing where none was created. -/
def RepliesFound (host : Host δ β) (s : Session δ β) (request_id : String) : Prop :=
  (s.Answered request_id →
    ∃ reply ∈ s.replies, reply.request_id = request_id ∧ s.handler.get_file_exchange_response host request_id = some reply.content) ∧
  ((∀ reply ∈ s.replies, reply.request_id ≠ request_id) → s.handler.get_file_exchange_response host request_id = none)

end Session

def Call.isUpdate : Call δ β → Bool
  | .update_file_status .. => true
  | _ => false

/-! ## Responses have no metadata -/

def Unlabelled (s : FileExchangeHandler β) : Prop :=
  ∀ file_id f, s.tracked_files.get? file_id = some f → f.file_type = .response → f.metadata = none

variable {s : FileExchangeHandler β}

theorem unlabelled_store (unlabelled : Unlabelled s) {file_id : String} {file : ExchangeFile} {text : Option β} {write : Write β}
    (plain : file.file_type = .response → file.metadata = none) : Unlabelled (s.store host file_id file text write).2 := by
  unfold store
  split
  · intro j f tracked
    rw [Dict.get?_set] at tracked
    split at tracked
    · obtain rfl := Option.some.inj tracked
      exact plain
    · exact unlabelled j f tracked
  · exact unlabelled
  · exact unlabelled

theorem unlabelled_archive_file (unlabelled : Unlabelled s) (file_id : String) (archiving : Archiving) :
    Unlabelled (s.archive_file host file_id archiving).2 := by
  unfold archive_file
  split
  · exact unlabelled
  · next f tracked =>
    split
    · exact unlabelled
    · split
      · intro j g tracked_g
        rw [Dict.get?_set] at tracked_g
        split at tracked_g
        · obtain rfl := Option.some.inj tracked_g
          exact unlabelled file_id f tracked
        · exact unlabelled j g tracked_g
      · exact unlabelled

theorem unlabelled_delete_file (unlabelled : Unlabelled s) (file_id : String) (unlinks : Bool) :
    Unlabelled (s.delete_file host file_id unlinks).2 := by
  unfold delete_file
  split
  · exact unlabelled
  · split
    · exact unlabelled
    · exact fun j f tracked => unlabelled j f (Dict.get?_of_erase tracked)

theorem unlabelled_cleanup_old_files (unlabelled : Unlabelled s) (current_time : Rat) (archivings : String → Archiving) (unlinks : String → Bool) :
    Unlabelled (s.cleanup_old_files host current_time archivings unlinks) := by
  have archives (s : FileExchangeHandler β) (file_id : String) (unlabelled : Unlabelled s) (_ : True) :
      Unlabelled (s.archive_file host file_id (archivings file_id)).2 := unlabelled_archive_file unlabelled file_id _
  have deletes (s : FileExchangeHandler β) (file_id : String) (unlabelled : Unlabelled s) (_ : True) :
      Unlabelled (s.delete_file host file_id (unlinks file_id)).2 := unlabelled_delete_file unlabelled file_id _
  exact foldl_keeps deletes (foldl_keeps archives unlabelled (along_of_mem fun _ _ _ => trivial)) (along_of_mem fun _ _ _ => trivial)

/-- A lookup finds nothing. -/
theorem get_file_exchange_response_eq_none (unlabelled : Unlabelled s) (request_id : String) :
    s.get_file_exchange_response host request_id = none := by
  have unmatched : (s.list_files .response "completed").find? (fun f => f.metadata.any fun metadata =>
      metadata.get? "request_id" = some (.str request_id)) = none := by
    refine List.find?_eq_none.mpr fun f listed => ?_
    obtain ⟨member, kind⟩ := List.mem_filter.mp listed
    obtain ⟨⟨file_id, _⟩, entry, same⟩ := List.mem_map.mp member
    subst same
    have response := of_decide_eq_true (Bool.and_eq_true_iff.mp kind).1
    simp [unlabelled file_id _ ((Dict.get?_some_iff ..).mpr entry) response]
  simp only [get_file_exchange_response, unmatched]

namespace Session
variable {s : Session δ β}

theorem handler_record (content : Content δ β) (created : Except BridgeDataError String × FileExchangeHandler β) :
    (s.record content created).handler = created.2 := by
  obtain ⟨result, handler⟩ := created
  cases result with
  | error e => rfl
  | ok file_id => rfl

theorem handler_recordReply (request_id : String) (content : Content δ β) (created : Except BridgeDataError String × FileExchangeHandler β) :
    (s.recordReply request_id content created).handler = created.2 := by
  unfold recordReply
  split
  · exact handler_record content created
  · exact handler_record content created

theorem unlabelled_step (unlabelled : Unlabelled s.handler) (call : Call δ β) (no_update : call.isUpdate = false) :
    Unlabelled (s.step host call).handler := by
  cases call with
  | create_request_file data file_id times write =>
    simp only [step, handler_record]
    exact unlabelled_store unlabelled fun _ => rfl
  | create_response_file data request_id times write =>
    simp only [step, handler_recordReply]
    exact unlabelled_store unlabelled fun _ => rfl
  | create_data_file data data_type file_id compress times write =>
    simp only [step, handler_record]
    refine unlabelled_store unlabelled fun response => ?_
    cases response
  | update_file_status file_id status metadata now => cases no_update
  | archive_file file_id archiving => exact unlabelled_archive_file unlabelled file_id archiving
  | delete_file file_id unlinks => exact unlabelled_delete_file unlabelled file_id unlinks
  | cleanup_old_files current_time archivings unlinks => exact unlabelled_cleanup_old_files unlabelled current_time archivings unlinks

theorem repliesFound_iff_of_unlabelled (unlabelled : Unlabelled s.handler) (request_id : String) :
    s.RepliesFound host request_id ↔ ¬s.Answered request_id := by
  unfold RepliesFound
  rw [get_file_exchange_response_eq_none unlabelled]
  constructor
  · intro found answered
    obtain ⟨_, _, _, returned⟩ := found.1 answered
    cases returned
  · exact fun unanswered => ⟨fun answered => absurd answered unanswered, fun _ => rfl⟩

/-- After any sequence of calls a request's responses are found exactly where the request has none left. -/
theorem repliesFound_iff (host : Host δ β) (exchange_dir : PosixPath) (max_file_age : Rat) (files : Dict PosixPath.Directory β)
    (calls : List (Call δ β)) (no_update : ∀ call ∈ calls, call.isUpdate = false) (request_id : String) :
    (calls.foldl (step host) { handler := { exchange_dir, max_file_age, files } }).RepliesFound host request_id ↔
      ¬(calls.foldl (step host) { handler := { exchange_dir, max_file_age, files } }).Answered request_id := by
  have keeps (s : Session δ β) (call : Call δ β) (unlabelled : Unlabelled s.handler) (no_update : call.isUpdate = false) :
      Unlabelled (s.step host call).handler := unlabelled_step unlabelled call no_update
  refine repliesFound_iff_of_unlabelled ?_ request_id
  refine foldl_keeps (P := fun _ call => call.isUpdate = false) keeps ?_ (along_of_mem fun _ call member => no_update call member)
  intro file_id f tracked
  cases tracked

def responseHost : Host (List (String × MetadataValue)) String := hostOf
  [("response_id", .str "resp_r_1700000000"), ("request_id", .str "r"), ("created_at", .float 1700000000), ("file_type", .str "response"),
    ("version", .str "1.0.0")]
  ("\x7b\n  \"_metadata\": \x7b\n    \"response_id\": \"resp_r_1700000000\",\n    \"request_id\": \"r\",\n    \"created_at\": 1700000000.0,\n    " ++
    "\"file_type\": \"response\",\n    \"version\": \"1.0.0\"\n  \x7d\n\x7d")

/-- A response is created and deleted. -/
theorem repliesFound_deleted_response : ([.create_response_file [] "r" noon .complete, .delete_file "resp_r_1700000000" true].foldl
    (step responseHost) { handler := { exchange_dir := exchangeDirectory, max_file_age := 86400 } }).RepliesFound responseHost "r" := by
  refine (repliesFound_iff responseHost exchangeDirectory 86400 ∅ _ (by decide) "r").mpr ?_
  rintro ⟨reply, member, _, kept⟩
  obtain rfl := List.mem_singleton.mp member
  cases kept

/-- The only response to a request is not found. -/
theorem response_not_found : ¬([.create_response_file [] "r" noon .complete].foldl
    (step responseHost) { handler := { exchange_dir := exchangeDirectory, max_file_age := 86400 } }).RepliesFound responseHost "r" := by
  rintro ⟨found, _⟩
  obtain ⟨_, _, _, returned⟩ := found ⟨_, List.mem_singleton_self _, rfl, rfl⟩
  cases returned

end Session
end RevitPy.Exchange
