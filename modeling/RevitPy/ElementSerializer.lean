import RevitPy.ByteTexts
import RevitPy.Dict
import RevitPy.JsonText
import RevitPy.PosixPaths

/-!
# The serializer of elements

Elements become JSON in one piece or batch by batch, into a file or not, compressed or not.
What `None` stands for here is a `BridgeDataError`. A file that is to be written can be.
-/

namespace RevitPy.Serialization
open Bytes

/-! ## Files -/

/-- What `gzip` does with the data between its header and its end; it raises for a level that it does not know. -/
structure Deflate where
  deflate : Int → Bytes → Option Bytes
  inflate : Bytes → Option Bytes
  inflate_deflate : ∀ level data body, deflate level data = some body → inflate body = some data
  default_level : ∀ data, (deflate 9 data).isSome = true

/-- `gzip.compress(data, compresslevel=level)`: the magic number begins it. -/
def compress (gzip : Deflate) (level : Int) (data : Bytes) : Option Bytes :=
  (gzip.deflate level data).map fun body => 0x1f :: 0x8b :: body

/-- `gzip.decompress(data)` -/
def decompress (gzip : Deflate) : Bytes → Option Bytes
  | [] => some []
  | [_] => none
  | a :: b :: body => if a = 0x1f ∧ b = 0x8b then gzip.inflate body else none

/-! ## Data -/

/-- A value that `json` can write: its numbers are numbers. -/
structure JsonValue where
  value : Json
  numbers : Json.json.proper value = true

structure SerializationConfig where
  batch_size : Int
  compression_enabled : Bool
  compression_level : Int
  include_geometry : Bool
  streaming_threshold : Int

structure SerializationMetadata where
  timestamp : String
  element_count : Nat
  serialization_version : String
  data_hash : String
  compression_used : Bool
  total_size_bytes : Nat
  geometry_included : Bool
  parameters_included : Bool

def SerializationMetadata.to_dict (m : SerializationMetadata) : Json := .obj
  [("timestamp", .number m.timestamp), ("element_count", .number (toString m.element_count)),
    ("serialization_version", .str m.serialization_version), ("data_hash", .str m.data_hash), ("compression_used", .bool m.compression_used),
    ("total_size_bytes", .number (toString m.total_size_bytes)), ("geometry_included", .bool m.geometry_included),
    ("parameters_included", .bool m.parameters_included)]

/-- What the serializer asks of its surroundings. -/
structure Environment where
  /-- `time.time()` as `json` writes it, and `int(time.time())`. -/
  timestamp : String
  timestamp_number : Json.json.isNumber timestamp = true
  second : Int
  md5 : Bytes → String
  gzip : Deflate
  /-- Whether the memory limit is exceeded after a batch. -/
  memory_exceeded : Nat → Bool
  /-- `output_file.stat().st_size` -/
  st_size : Nat

abbrev Files := Dict PosixPath Bytes

/-- What `serialize_elements` returns: the data, or the path of a file. -/
inductive Serialized
  | data (data : Json)
  | path (path : String)

def SERIALIZATION_VERSION : String := "1.0.0"

section
variable {ε : Type} (config : SerializationConfig) (env : Environment) (serialize_single_element : ε → Option JsonValue)

/-! ## In one piece -/

/-- The elements that are serialized; the others are skipped. -/
def serialized_elements (elements : List ε) : List Json := (elements.filterMap serialize_single_element).map JsonValue.value

def create_metadata (elements : List Json) : SerializationMetadata where
  timestamp := env.timestamp
  element_count := elements.length
  serialization_version := SERIALIZATION_VERSION
  data_hash := env.md5 (encode (Json.dumps (.arr elements)))
  compression_used := config.compression_enabled
  total_size_bytes := (encode (Json.dumps (.arr elements))).length
  geometry_included := config.include_geometry
  parameters_included := true

def compress_data (data : Json) : Json := match compress env.gzip config.compression_level (encode (Json.dumps data)) with
  | none => data
  | some compressed => .obj
      [("compressed_data", .str (String.ofList (hex compressed))), ("original_size", .number (toString (encode (Json.dumps data)).length)),
        ("compressed_size", .number (toString compressed.length)), ("compression_used", .bool true)]

def save_to_file (files : Files) (data : Json) (file_path : String) : Files :=
  files.set (PosixPath.parse file_path) (encode (Json.write Json.json (if config.compression_enabled then none else some 2) 0 data))

/-- `output_path`, where it is given and not empty. -/
def given (output_path : Option String) : Option String := output_path.filter (· ≠ "")

def serialize_batch (files : Files) (elements : List ε) (output_path : Option String) : Serialized × Files :=
  let elements := serialized_elements serialize_single_element elements
  let serialized_data : Json := .obj [("elements", .arr elements), ("metadata", (create_metadata config env elements).to_dict)]
  let serialized_data := if config.compression_enabled then compress_data config env serialized_data else serialized_data
  match given output_path with
  | none => (.data serialized_data, files)
  | some path => (.path path, save_to_file config files serialized_data path)

/-! ## Batch by batch -/

/-- What the loop over the batches keeps: the text that it wrote. -/
structure Stream where
  text : List Char
  first_batch : Bool
  total_elements : Nat

/-- `elements[i : i + batch_size] for i in range(0, len(elements), batch_size)` -/
def batches (batch_size : Nat) (elements : List ε) : List (List ε) :=
  (List.range ((elements.length + batch_size - 1) / batch_size)).map fun i => (elements.drop (i * batch_size)).take batch_size

/-- A text without its brackets. -/
def strip (text : List Char) : List Char := (text.drop 1).dropLast

def write_batch (s : Stream) (batch : List ε) : Stream :=
  let serialized_batch := serialized_elements serialize_single_element batch
  if serialized_batch = [] then s
  else
    { text := s.text ++ (if s.first_batch then [] else [',']) ++ strip (Json.dumps (.arr serialized_batch))
      first_batch := false
      total_elements := s.total_elements + serialized_batch.length }

/-- The loop, which checks the memory after each batch. -/
def write_batches : Nat → List (List ε) → Stream → Option Stream
  | _, [], s => some s
  | i, batch :: rest, s => if env.memory_exceeded i then none else write_batches (i + 1) rest (write_batch serialize_single_element s batch)

def opening : List Char := "\x7b\"elements\": [".toList
def closing (metadata : Json) : List Char := "], \"metadata\": ".toList ++ Json.dumps metadata ++ ['\x7d']

def streaming_metadata (total_elements : Nat) : SerializationMetadata where
  timestamp := env.timestamp
  element_count := total_elements
  serialization_version := SERIALIZATION_VERSION
  data_hash := "streaming_mode"
  compression_used := false
  total_size_bytes := env.st_size
  geometry_included := config.include_geometry
  parameters_included := true

/-- The text of the stream, where `range` takes the batch size and the memory suffices. -/
def stream (elements : List ε) : Option (List Char) :=
  if config.batch_size = 0 then none
  else (write_batches env serialize_single_element 0 (batches config.batch_size.toNat elements) ⟨opening, true, 0⟩).map fun s =>
    s.text ++ closing (streaming_metadata config env s.total_elements).to_dict

def serialize_streaming (files : Files) (elements : List ε) (output_path : Option String) : Option (Serialized × Files) := do
  let output_path := (given output_path).getD s!"/tmp/revitpy_bridge_streaming_{env.second}.json"
  let text ← stream config env serialize_single_element elements
  let files := files.set (PosixPath.parse output_path) (encode text)
  if config.compression_enabled then do
    let compressed ← compress env.gzip 9 (encode text)
    let compressed_path := output_path ++ ".gz"
    some (.path compressed_path, (files.set (PosixPath.parse compressed_path) compressed).erase (PosixPath.parse output_path))
  else some (.path output_path, files)

def use_streaming (elements : List ε) (streaming : Bool) : Bool := streaming || config.streaming_threshold ≤ elements.length

def serialize_elements (files : Files) (elements : List ε) (output_path : Option String) (streaming : Bool) : Option (Serialized × Files) :=
  if use_streaming config elements streaming then serialize_streaming config env serialize_single_element files elements output_path
  else some (serialize_batch config env serialize_single_element files elements output_path)

end

/-! ## Reading -/

section
variable (gzip : Deflate)

def load_from_file (files : Files) (file_path : String) : Option Json := do
  let file_path := PosixPath.parse file_path
  let content ← files.get? file_path
  if file_path.suffix = ".gz".toList then do
    let content ← decompress gzip content
    let text ← decode content
    Json.loads text
  else do
    let text ← decode content
    Json.loads text

def decompress_data (compressed_data : List (String × Json)) : Option Json := do
  match ← Json.get? compressed_data "compressed_data" with
  | .str hex_data => do
    let compressed_bytes ← fromhex hex_data.toList
    let decompressed ← decompress gzip compressed_bytes
    let decompressed_str ← decode decompressed
    Json.loads decompressed_str
  | _ => none

/-- A dictionary's members; another value has no `get`. -/
def members? : Json → Option (List (String × Json))
  | .obj members => some members
  | _ => none

/-- A dictionary that may hold another one compressed. -/
def decompressed (loaded : Json) : Option (List (String × Json)) := do
  let members ← members? loaded
  if Json.has members "compressed_data" then do
    let loaded ← decompress_data gzip members
    members? loaded
  else some members

/-- The dictionary that was serialized. -/
def data_dict (files : Files) : Serialized → Option (List (String × Json))
  | .data data => decompressed gzip data
  | .path file_path => load_from_file gzip files file_path >>= decompressed gzip

def required_fields : List String := ["timestamp", "element_count", "serialization_version"]

def deserialize_elements (files : Files) (data : Serialized) : Option Json := do
  let members ← data_dict gzip files data
  let metadata ← members? (Json.getD members "metadata" (.obj []))
  if required_fields.all (Json.has metadata) then some (Json.getD members "elements" (.arr [])) else none

/-- The count of elements in the metadata. -/
def stored_element_count (files : Files) (data : Serialized) : Option Json := do
  let members ← data_dict gzip files data
  let metadata ← members? (Json.getD members "metadata" (.obj []))
  Json.get? metadata "element_count"

end
end RevitPy.Serialization
