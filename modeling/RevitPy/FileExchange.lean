import RevitPy.Dict
import RevitPy.PosixPaths

/-!
# The exchange of files

Requests, responses and data are written to files below one directory and tracked by their
identifiers. A reader decides by the suffix of the path and the metadata of the tracked file
how to read it.
-/

namespace RevitPy.Exchange
open PosixPath (Directory)

inductive FileType
  | request | response | data
deriving DecidableEq

/-- A value of a metadata dictionary. Of other objects only their truth is looked at. -/
inductive MetadataValue
  | str (text : String)
  | float (value : Rat)
  | bool (value : Bool)
  | other (truth : Bool)
deriving DecidableEq

def MetadataValue.truthy : MetadataValue → Bool
  | .str text => text ≠ ""
  | .float value => value ≠ 0
  | .bool value => value
  | .other truth => truth

abbrev Metadata := Dict String MetadataValue

structure ExchangeFile where
  file_path : PosixPath
  file_type : FileType
  status : String
  created_at : Rat
  modified_at : Rat
  metadata : Option Metadata := none

/-- What is written to a file and read from it: a dictionary or bytes. -/
inductive Content (δ β : Type)
  | dict (data : δ)
  | bytes (data : β)

inductive BridgeDataError
  | file_creation (file_type : FileType)
  | file_reading (file_id : String)

/-- The file system's naming, `hash`, `json` and `gzip`. A writer returns the bytes of the file,
    and nothing where it raises. -/
structure Host (δ β : Type) where
  /-- The place that a path leads to. -/
  place : PosixPath → Directory
  /-- `hash(str(data))` -/
  hash_str : Content δ β → Int
  /-- `data["_metadata"] = …` -/
  set_metadata : δ → List (String × MetadataValue) → δ
  /-- `json.dump(data, f, indent=2)` -/
  dump : δ → Option β
  /-- `json.dumps(data)` -/
  dumps : δ → Option β
  /-- `json.load(f)` -/
  load : β → Option δ
  compress : β → β
  decompress : β → Option β

/-- How a write to the disk ends: the file cannot be opened, it is left with other bytes, or it is written. -/
inductive Write (β : Type)
  | refused
  | broken (left : β)
  | complete

/-- The clock readings of a create call, in their order. -/
structure CreateTimes where
  file_id : Rat
  metadata : Rat
  created_at : Rat
  modified_at : Rat

/-- The clock readings of an archive call, and whether its move succeeds. -/
structure Archiving where
  timestamp : Rat
  modified_at : Rat
  moves : Bool

structure FileExchangeHandler (β : Type) where
  exchange_dir : PosixPath
  max_file_age : Rat
  files : Dict Directory β := ∅
  tracked_files : Dict String ExchangeFile := ∅

/-- `int(t)` in decimal. -/
def seconds (t : Rat) : String := toString (if 0 ≤ t then t.floor else t.ceil)

/-- `h % 10000` in four digits. -/
def shortHash (h : Int) : String := String.ofList ((toString (h % 10000)).toList.leftpad 4 '0')

def json : List Char := ['.', 'j', 's', 'o', 'n']
def gz : List Char := ['.', 'g', 'z']

/-- Whether the file counts as compressed when it is read. -/
def ExchangeFile.is_compressed (f : ExchangeFile) : Bool := match (f.metadata.getD ∅).get? "compressed" with
  | some value => value.truthy
  | none => gz.isSuffixOf f.file_path.suffix

namespace FileExchangeHandler
variable {δ β : Type} (host : Host δ β) (s : FileExchangeHandler β)

def request_dir : PosixPath := s.exchange_dir.join "requests"
def response_dir : PosixPath := s.exchange_dir.join "responses"
def data_dir : PosixPath := s.exchange_dir.join "data"
def archive_dir : PosixPath := s.exchange_dir.join "archive"

/-- Writes a file and tracks it. -/
def store (file_id : String) (file : ExchangeFile) (written : Option β) (write : Write β) :
    Except BridgeDataError String × FileExchangeHandler β := match write, written with
  | .complete, some b => (.ok file_id, { s with
      files := s.files.set (host.place file.file_path) b
      tracked_files := s.tracked_files.set file_id file })
  | .broken left, _ => (.error (.file_creation file.file_type), { s with files := s.files.set (host.place file.file_path) left })
  | _, _ => (.error (.file_creation file.file_type), s)

def request_id (request_data : δ) (file_id : Option String) (times : CreateTimes) : String :=
  file_id.getD s!"req_{seconds times.file_id}_{shortHash (host.hash_str (.dict request_data))}"

def request_content (request_data : δ) (file_id : Option String) (times : CreateTimes) : δ :=
  host.set_metadata request_data [("file_id", .str (request_id host request_data file_id times)), ("created_at", .float times.metadata),
    ("file_type", .str "request"), ("version", .str "1.0.0")]

def request_file (request_data : δ) (file_id : Option String) (times : CreateTimes) : ExchangeFile :=
  { file_path := s.request_dir.join (request_id host request_data file_id times ++ ".json")
    file_type := .request
    status := "pending"
    created_at := times.created_at
    modified_at := times.modified_at }

def create_request_file (request_data : δ) (file_id : Option String) (times : CreateTimes) (write : Write β) :
    Except BridgeDataError String × FileExchangeHandler β :=
  s.store host (request_id host request_data file_id times) (s.request_file host request_data file_id times)
    (host.dump (request_content host request_data file_id times)) write

def response_id (request_id : String) (times : CreateTimes) : String := s!"resp_{request_id}_{seconds times.file_id}"

def response_content (response_data : δ) (request_id : String) (times : CreateTimes) : δ :=
  host.set_metadata response_data [("response_id", .str (response_id request_id times)), ("request_id", .str request_id),
    ("created_at", .float times.metadata), ("file_type", .str "response"), ("version", .str "1.0.0")]

def response_file (request_id : String) (times : CreateTimes) : ExchangeFile :=
  { file_path := s.response_dir.join (response_id request_id times ++ ".json")
    file_type := .response
    status := "completed"
    created_at := times.created_at
    modified_at := times.modified_at }

def create_response_file (response_data : δ) (request_id : String) (times : CreateTimes) (write : Write β) :
    Except BridgeDataError String × FileExchangeHandler β :=
  s.store host (response_id request_id times) (s.response_file request_id times)
    (host.dump (response_content host response_data request_id times)) write

def data_id (data : Content δ β) (data_type : String) (file_id : Option String) (times : CreateTimes) : String :=
  file_id.getD s!"data_{data_type}_{seconds times.file_id}_{shortHash (host.hash_str data)}"

def file_ext (compress : Bool) : Content δ β → String
  | .dict _ => if compress then ".json.gz" else ".json"
  | .bytes _ => if compress then ".dat.gz" else ".dat"

def data_content (data : Content δ β) (data_type : String) (file_id : Option String) (compress : Bool) (times : CreateTimes) : Content δ β :=
  match data with
  | .dict d => .dict (host.set_metadata d [("file_id", .str (data_id host data data_type file_id times)), ("data_type", .str data_type),
      ("created_at", .float times.metadata), ("file_type", .str "data"), ("compressed", .bool compress), ("version", .str "1.0.0")])
  | .bytes b => .bytes b

/-- The bytes of a data file. -/
def encode (compress : Bool) : Content δ β → Option β
  | .dict d => if compress then (host.dumps d).map host.compress else host.dump d
  | .bytes b => some (if compress then host.compress b else b)

def data_file (data : Content δ β) (data_type : String) (file_id : Option String) (compress : Bool) (times : CreateTimes) : ExchangeFile :=
  { file_path := s.data_dir.join (data_id host data data_type file_id times ++ file_ext compress data)
    file_type := .data
    status := "completed"
    created_at := times.created_at
    modified_at := times.modified_at
    metadata := some (Dict.ofList [("data_type", .str data_type), ("compressed", .bool compress)]) }

def create_data_file (data : Content δ β) (data_type : String) (file_id : Option String) (compress : Bool) (times : CreateTimes)
    (write : Write β) : Except BridgeDataError String × FileExchangeHandler β :=
  s.store host (data_id host data data_type file_id times) (s.data_file host data data_type file_id compress times)
    (encode host compress (data_content host data data_type file_id compress times)) write

/-- Reads bytes the way that the path's suffix and the metadata of a tracked file say. -/
def decode (f : ExchangeFile) (b : β) : Option (Content δ β) :=
  if json.isPrefixOf f.file_path.suffix then
    if f.is_compressed then ((host.decompress b).bind host.load).map .dict else (host.load b).map .dict
  else if f.is_compressed then (host.decompress b).map .bytes else some (.bytes b)

def read_file (file_id : String) : Except BridgeDataError (Option (Content δ β)) := match s.tracked_files.get? file_id with
  | none => .ok none
  | some f => match s.files.get? (host.place f.file_path) with
    | none => .ok none
    | some b => match decode host f b with
      | none => .error (.file_reading file_id)
      | some content => .ok (some content)

def update_file_status (file_id status : String) (metadata : Option Metadata) (now : Rat) : FileExchangeHandler β :=
  match s.tracked_files.get? file_id with
  | none => s
  | some f =>
    let f := { f with status, modified_at := now }
    let f := match metadata with
      | none => f
      | some metadata =>
        if metadata.entries = [] then f else { f with metadata := some ((f.metadata.getD ∅).update metadata.entries) }
    { s with tracked_files := s.tracked_files.set file_id f }

def list_files (file_type : FileType) (status : String) : List ExchangeFile :=
  s.tracked_files.values.filter fun f => f.file_type = file_type && f.status = status

def archive_path (timestamp : Rat) (source_path : PosixPath) : PosixPath :=
  s.archive_dir.join (s!"{seconds timestamp}_" ++ String.ofList source_path.name)

def archive_file (file_id : String) (archiving : Archiving) : Bool × FileExchangeHandler β := match s.tracked_files.get? file_id with
  | none => (false, s)
  | some f => match s.files.get? (host.place f.file_path) with
    | none => (false, s)
    | some b =>
      if archiving.moves then
        let path := s.archive_path archiving.timestamp f.file_path
        (true, { s with
          files := (s.files.erase (host.place f.file_path)).set (host.place path) b
          tracked_files := s.tracked_files.set file_id { f with file_path := path, status := "archived", modified_at := archiving.modified_at } })
      else (false, s)

/-- A file that is there may fail to be unlinked. -/
def delete_file (file_id : String) (unlinks : Bool) : Bool × FileExchangeHandler β := match s.tracked_files.get? file_id with
  | none => (false, s)
  | some f =>
    if s.files.contains (host.place f.file_path) && !unlinks then (false, s)
    else (true, { s with files := s.files.erase (host.place f.file_path), tracked_files := s.tracked_files.erase file_id })

def files_to_archive (current_time : Rat) : List String :=
  (s.tracked_files.entries.filter fun (_, f) =>
    current_time - f.created_at > s.max_file_age && (f.status = "completed" || f.status = "error")).map Prod.fst

def files_to_delete (current_time : Rat) : List String :=
  (s.tracked_files.entries.filter fun (_, f) => current_time - f.created_at > s.max_file_age && f.status = "archived").map Prod.fst

def cleanup_old_files (current_time : Rat) (archivings : String → Archiving) (unlinks : String → Bool) : FileExchangeHandler β :=
  let archived := (s.files_to_archive current_time).foldl (fun s file_id => (s.archive_file host file_id (archivings file_id)).2) s
  (s.files_to_delete current_time).foldl (fun s file_id => (s.delete_file host file_id (unlinks file_id)).2) archived

/-- `get_file_exchange_response` of the protocol manager, which returns nothing where reading raises. -/
def get_file_exchange_response (request_id : String) : Option (Content δ β) :=
  let response_files := s.list_files .response "completed"
  match response_files.find? fun f => f.metadata.any fun metadata => metadata.get? "request_id" = some (.str request_id) with
  | none => none
  | some f => match s.read_file host (String.ofList f.file_path.stem) with
    | .ok content => content
    | .error _ => none

end FileExchangeHandler

/-! ## Sequences of calls -/

/-- A response that was created, and whether it has been neither archived nor deleted. -/
structure Reply (δ β : Type) where
  response_id : String
  request_id : String
  content : Content δ β
  kept : Bool := true

structure Session (δ β : Type) where
  handler : FileExchangeHandler β
  /-- The identifiers that create calls returned and that were not deleted, and what the calls wrote. -/
  written : List (String × Content δ β) := []
  replies : List (Reply δ β) := []

inductive Call (δ β : Type)
  | create_request_file (request_data : δ) (file_id : Option String) (times : CreateTimes) (write : Write β)
  | create_response_file (response_data : δ) (request_id : String) (times : CreateTimes) (write : Write β)
  | create_data_file (data : Content δ β) (data_type : String) (file_id : Option String) (compress : Bool) (times : CreateTimes) (write : Write β)
  | update_file_status (file_id status : String) (metadata : Option Metadata) (now : Rat)
  | archive_file (file_id : String) (archiving : Archiving)
  | delete_file (file_id : String) (unlinks : Bool)
  | cleanup_old_files (current_time : Rat) (archivings : String → Archiving) (unlinks : String → Bool)

namespace Session
open FileExchangeHandler
variable {δ β : Type} (host : Host δ β) (s : Session δ β)

/-- An identifier leaves the tracking only where its file is deleted. -/
def advance (handler : FileExchangeHandler β) : Session δ β where
  handler := handler
  written := s.written.filter fun entry => handler.tracked_files.contains entry.1
  replies := s.replies.map fun reply =>
    { reply with kept := reply.kept && (handler.tracked_files.get? reply.response_id).any fun f => f.status ≠ "archived" }

/-- A create call that returned an identifier. -/
def record (content : Content δ β) : Except BridgeDataError String × FileExchangeHandler β → Session δ β
  | (.ok file_id, handler) => { s.advance handler with written := (s.advance handler).written ++ [(file_id, content)] }
  | (.error _, handler) => s.advance handler

def recordReply (request_id : String) (content : Content δ β) (created : Except BridgeDataError String × FileExchangeHandler β) :
    Session δ β := match created.1 with
  | .ok response_id => { s.record content created with
      replies := (s.record content created).replies ++ [{ response_id, request_id, content }] }
  | .error _ => s.record content created

def step : Call δ β → Session δ β
  | .create_request_file data file_id times write =>
    s.record (.dict (request_content host data file_id times)) (s.handler.create_request_file host data file_id times write)
  | .create_response_file data request_id times write =>
    s.recordReply request_id (.dict (response_content host data request_id times)) (s.handler.create_response_file host data request_id times write)
  | .create_data_file data data_type file_id compress times write =>
    s.record (data_content host data data_type file_id compress times)
      (s.handler.create_data_file host data data_type file_id compress times write)
  | .update_file_status file_id status metadata now => s.advance (s.handler.update_file_status file_id status metadata now)
  | .archive_file file_id archiving => s.advance (s.handler.archive_file host file_id archiving).2
  | .delete_file file_id unlinks => s.advance (s.handler.delete_file host file_id unlinks).2
  | .cleanup_old_files now archivings unlinks => s.advance (s.handler.cleanup_old_files host now archivings unlinks)

end Session
end RevitPy.Exchange
