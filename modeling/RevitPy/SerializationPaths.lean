import RevitPy.ElementSerializer
import RevitPy.Slices

/-!
# The ways of serialization agree

Every way of serialization writes the same list of elements, and the reader finds it, unless
it takes a text for a compressed file by the end of its name.
-/

namespace RevitPy.Serialization
open Bytes

/-! ## Compressed data -/

/-- A text that begins with a brace is not taken for a compressed one. -/
theorem decompress_encode (gzip : Deflate) (text : List Char) : decompress gzip (encode ('\x7b' :: text)) = none := by
  have head : ∃ more, encode ('\x7b' :: text) = 0x7b :: more := by
    refine ⟨(List.utf8Encode text).data.toList, ?_⟩
    have brace : List.utf8Encode ['\x7b'] = ⟨#[0x7b]⟩ := by
      simp [List.utf8Encode_singleton, String.utf8EncodeChar]
      rfl
    rw [encode, String.toUTF8_eq_toByteArray, String.toByteArray_ofList, List.utf8Encode_cons, brace]
    simp
  obtain ⟨more, split⟩ := head
  rw [split]
  cases more with
  | nil => rfl
  | cons b more =>
    have no_magic : ¬((0x7b : UInt8) = 0x1f ∧ b = 0x8b) := fun magic => absurd magic.1 (by decide)
    rw [decompress, if_neg no_magic]

theorem decompress_compress {gzip : Deflate} {level : Int} {data compressed : Bytes} (done : compress gzip level data = some compressed) :
    decompress gzip compressed = some data := by
  obtain ⟨body, deflated, rfl⟩ := Option.map_eq_some_iff.mp done
  simp [decompress, gzip.inflate_deflate level data body deflated]

/-! ## Documents -/

/-- What is serialized. -/
def document (elements : List Json) (metadata : SerializationMetadata) : List (String × Json) :=
  [("elements", .arr elements), ("metadata", metadata.to_dict)]

variable {ε : Type} (config : SerializationConfig) (env : Environment) {serialize_single_element : ε → Option JsonValue}

theorem properItems_serialized (elements : List ε) : Json.json.properItems (serialized_elements serialize_single_element elements) = true := by
  unfold serialized_elements
  induction elements.filterMap serialize_single_element with
  | nil => rfl
  | cons v more ih => exact (Bool.and_eq_true ..).mpr ⟨v.numbers, ih⟩

theorem proper_to_dict {m : SerializationMetadata} (number : Json.json.isNumber m.timestamp = true) : Json.json.proper m.to_dict = true := by
  simp [SerializationMetadata.to_dict, Json.Dialect.proper, Json.Dialect.properMembers, number, Json.isNumber_repr]

theorem proper_document {elements : List Json} {m : SerializationMetadata} (numbers : Json.json.properItems elements = true)
    (number : Json.json.isNumber m.timestamp = true) : Json.json.proper (.obj (document elements m)) = true := by
  simp [document, Json.Dialect.proper, Json.Dialect.properMembers, numbers, proper_to_dict number]

theorem write_obj (indent : Option Nat) (members : List (String × Json)) : ∃ text, Json.write Json.json indent 0 (.obj members) = '\x7b' :: text := by
  cases members with
  | nil => exact ⟨_, rfl⟩
  | cons member members => exact ⟨_, rfl⟩

/-- A dictionary with compressed data is read as what those are. -/
theorem decompressed_field {gzip : Deflate} {level : Int} {text : List Char} {members : List (String × Json)} {compressed : Bytes}
    (done : compress gzip level (encode text) = some compressed) (read : Json.loads text = some (.obj members)) (b c d : Json) :
    decompressed gzip (.obj [("compressed_data", .str (String.ofList (hex compressed))), ("original_size", b), ("compressed_size", c),
      ("compression_used", d)]) = some members := by
  have tagged (a : Json) : Json.get? [("compressed_data", a), ("original_size", b), ("compressed_size", c), ("compression_used", d)]
      "compressed_data" = some a := rfl
  simp only [decompressed, members?, Option.bind_eq_bind, Option.bind_some, Json.has, tagged, Option.isSome_some, if_true, decompress_data,
    String.toList_ofList, fromhex_hex, decompress_compress done, decode_encode, read]

/-- What was compressed is decompressed again. -/
theorem decompressed_compress_data {elements : List Json} {m : SerializationMetadata}
    (numbers : Json.json.proper (.obj (document elements m)) = true) :
    decompressed env.gzip (compress_data config env (.obj (document elements m))) = some (document elements m) := by
  unfold compress_data
  split
  · rfl
  · next compressed done => exact decompressed_field done (Json.load_write Json.json_lawful none numbers) _ _ _

theorem compress_data_obj {members : List (String × Json)} (numbers : Json.json.proper (.obj members) = true) :
    ∃ ms, compress_data config env (.obj members) = .obj ms ∧ Json.json.proper (.obj ms) = true := by
  unfold compress_data
  split
  · exact ⟨members, rfl, numbers⟩
  · exact ⟨_, rfl, by simp [Json.Dialect.proper, Json.Dialect.properMembers, Json.isNumber_repr]⟩

/-- A file with a text is read where its name does not tell that it is compressed. -/
theorem load_text (gzip : Deflate) {files : Files} {path : String} {text : List Char} {v : Json}
    (content : files.get? (PosixPath.parse path) = some (encode text)) (read : Json.loads text = some v)
    (brace : ∃ more, text = '\x7b' :: more) :
    load_from_file gzip files path = if (PosixPath.parse path).suffix = ".gz".toList then none else some v := by
  obtain ⟨more, rfl⟩ := brace
  unfold load_from_file
  simp only [content, Option.bind_eq_bind, Option.bind_some, decompress_encode, decode_encode, read, Option.bind_none]

theorem load_compressed {gzip : Deflate} {level : Int} {files : Files} {path : String} {text : List Char} {v : Json} {compressed : Bytes}
    (content : files.get? (PosixPath.parse path) = some compressed) (done : compress gzip level (encode text) = some compressed)
    (read : Json.loads text = some v) (named : (PosixPath.parse path).suffix = ".gz".toList) : load_from_file gzip files path = some v := by
  unfold load_from_file
  simp only [content, Option.bind_eq_bind, Option.bind_some, if_pos named, decompress_compress done, decode_encode, read]

/-! ## Batches -/

theorem serialized_append (first second : List ε) :
    serialized_elements serialize_single_element (first ++ second) =
      serialized_elements serialize_single_element first ++ serialized_elements serialize_single_element second := by
  simp [serialized_elements]

/-- The batches are the elements, in order. -/
theorem flatten_batches {size : Nat} (positive : 1 ≤ size) (elements : List ε) : (batches size elements).flatten = elements :=
  Slices.flatten_slices positive elements

/-- What the stream holds after some elements. -/
structure Holds (elements : List Json) (s : Stream) : Prop where
  total : s.total_elements = elements.length
  start : s.first_batch = true → elements = [] ∧ s.text = opening
  later : s.first_batch = false → ∃ body, s.text = opening ++ body ∧ Json.Spells Json.json (.items elements) body

/-- Without its brackets a list's text is its items. -/
theorem spells_strip {v : Json} {vs : List Json} (numbers : Json.json.properItems (v :: vs) = true) :
    Json.Spells Json.json (.items (v :: vs)) (strip (Json.dumps (.arr (v :: vs)))) := by
  obtain ⟨first, more⟩ := (Bool.and_eq_true ..).mp numbers
  have items := Json.spells_items Json.json none 1 vs more (Json.spells_write Json.json none 1 v first)
  have shape : strip (Json.dumps (.arr (v :: vs))) = Json.write Json.json none 1 v ++ Json.writeItems Json.json none 1 vs := by
    simp [strip, Json.dumps, Json.write, Json.newline]
  rw [shape]
  exact items

theorem holds_write_batch {elements : List Json} {s : Stream} (holds : Holds elements s) (batch : List ε) :
    Holds (elements ++ serialized_elements serialize_single_element batch) (write_batch serialize_single_element s batch) := by
  have numbers := @properItems_serialized _ serialize_single_element batch
  unfold write_batch
  dsimp only
  split
  · next nothing =>
    rw [nothing, List.append_nil]
    exact holds
  · next something =>
    obtain ⟨v, vs, shape⟩ := List.exists_cons_of_ne_nil something
    rw [shape] at numbers ⊢
    have items := spells_strip numbers
    refine ⟨by simp [holds.total], nofun, fun _ => ?_⟩
    cases first : s.first_batch with
    | true =>
      obtain ⟨rfl, text⟩ := holds.start first
      exact ⟨_, by simp [text], items⟩
    | false =>
      obtain ⟨body, text, before⟩ := holds.later first
      exact ⟨_, by simp [text], before.append items⟩

theorem holds_foldl (groups : List (List ε)) {elements : List Json} {s : Stream} (holds : Holds elements s) :
    Holds (elements ++ serialized_elements serialize_single_element groups.flatten)
      (groups.foldl (write_batch serialize_single_element) s) := by
  induction groups generalizing elements s with
  | nil => simpa [serialized_elements] using holds
  | cons batch rest ih =>
    rw [List.flatten_cons, serialized_append, ← List.append_assoc]
    exact ih (holds_write_batch holds batch)

theorem write_batches_of_memory {groups : List (List ε)} {i : Nat} (free : ∀ j < groups.length, env.memory_exceeded (i + j) = false)
    (s : Stream) : write_batches env serialize_single_element i groups s = some (groups.foldl (write_batch serialize_single_element) s) := by
  induction groups generalizing i s with
  | nil => rfl
  | cons batch rest ih =>
    have now := free 0 (by simp)
    have later : ∀ j < rest.length, env.memory_exceeded (i + 1 + j) = false := by
      intro j short
      have next := free (j + 1) (by simpa using short)
      rwa [Nat.add_right_comm, Nat.add_assoc]
    rw [Nat.add_zero] at now
    simp [write_batches, now, ih later]

theorem write_batches_of_exceeded {groups : List (List ε)} {i j : Nat} (short : j < groups.length) (exceeded : env.memory_exceeded (i + j) = true)
    (s : Stream) : write_batches env serialize_single_element i groups s = none := by
  induction groups generalizing i j s with
  | nil => cases short
  | cons batch rest ih =>
    unfold write_batches
    split
    · rfl
    · next now =>
      cases j with
      | zero => exact absurd exceeded now
      | succ j =>
        refine ih (j := j) (by simpa using short) ?_ _
        rwa [Nat.add_right_comm, Nat.add_assoc]

theorem opening_eq : opening = '\x7b' :: (Json.quote "elements" ++ [':', ' ', '[']) := by decide

theorem closing_eq (metadata : Json) :
    closing metadata = ']' :: ',' :: ' ' :: (Json.quote "metadata" ++ ':' :: ' ' :: (Json.dumps metadata ++ ['\x7d'])) := by
  have key : "], \"metadata\": ".toList = ']' :: ',' :: ' ' :: (Json.quote "metadata" ++ [':', ' ']) := by decide
  unfold closing
  rw [key]
  generalize Json.quote "metadata" = quoted
  simp

/-- The text of the stream is the document's. -/
theorem spells_closing {elements : List Json} {s : Stream} (holds : Holds elements s) {m : SerializationMetadata}
    (number : Json.json.isNumber m.timestamp = true) : Json.Spells Json.json (.value (.obj (document elements m))) (s.text ++ closing m.to_dict) := by
  have space : Json.Blank [' '] := by simp [Json.Blank, Json.isSpace]
  have no_space : Json.Blank [] := fun _ member => absurd member List.not_mem_nil
  have metadata := Json.Spells.member "metadata" space (Json.spells_write Json.json none 0 m.to_dict (proper_to_dict number))
  have list : ∃ text, s.text = opening ++ text ∧ Json.Spells Json.json (.value (.arr elements)) ('[' :: (text ++ [']'])) := by
    cases first : s.first_batch with
    | true =>
      obtain ⟨rfl, text⟩ := holds.start first
      exact ⟨[], by rw [text, List.append_nil], .empty⟩
    | false =>
      obtain ⟨body, text, items⟩ := holds.later first
      have brackets := Json.Spells.arr no_space items no_space
      rw [List.nil_append, List.append_nil] at brackets
      exact ⟨body, text, brackets⟩
  obtain ⟨text, shape, list⟩ := list
  have members := Json.Spells.moreMembers (Json.Spells.member "elements" space list) space (.lastMember metadata)
  have whole := Json.Spells.obj no_space members no_space
  have same : s.text ++ closing m.to_dict = '\x7b' :: ([] ++ (Json.quote "elements" ++ ':' :: ([' '] ++ '[' :: (text ++ [']'])) ++
      ',' :: ([' '] ++ (Json.quote "metadata" ++ ':' :: ([' '] ++ Json.write Json.json none 0 m.to_dict)))) ++ [] ++ ['\x7d']) := by
    rw [shape, opening_eq, closing_eq, Json.dumps]
    generalize Json.quote "elements" = elements_key
    generalize Json.quote "metadata" = metadata_key
    simp
  rw [same]
  exact whole

/-! ## Names of files -/

/-- A path at which a file can be written ends in a name. -/
def Names (path : String) : Prop := PosixPath.lastSegment path.toList ≠ [] ∧ PosixPath.lastSegment path.toList ≠ ['.']

theorem names_append {path : String} {stem ext : List Char} (shape : path.toList = stem ++ ext) (slash : '/' ∉ ext) (long : 1 < ext.length) :
    PosixPath.lastSegment path.toList = PosixPath.lastSegment stem ++ ext ∧ Names path := by
  have last : PosixPath.lastSegment path.toList = PosixPath.lastSegment stem ++ ext := by
    rw [shape, PosixPath.lastSegment_append _ slash]
  have longer : 1 < (PosixPath.lastSegment path.toList).length := by
    rw [last, List.length_append]
    omega
  refine ⟨last, fun empty => ?_, fun dot => ?_⟩
  · simp [empty] at longer
  · simp [dot] at longer

theorem name_gz {path : String} (names : Names path) :
    (PosixPath.parse (path ++ ".gz")).name = (PosixPath.parse path).name ++ ".gz".toList := by
  obtain ⟨longer, renamed⟩ := names_append (String.toList_append : (path ++ ".gz").toList = _) (by decide) (by decide)
  rw [PosixPath.name_parse names.1 names.2, PosixPath.name_parse renamed.1 renamed.2, longer]

/-- What is compressed after it was streamed is named so. -/
theorem suffix_gz {path : String} (names : Names path) : (PosixPath.parse (path ++ ".gz")).suffix = ".gz".toList := by
  have nonempty : (PosixPath.parse path).name ≠ [] := by
    rw [PosixPath.name_parse names.1 names.2]
    exact names.1
  have shape : (PosixPath.parse path).name ++ ".gz".toList = (PosixPath.parse path).name ++ '.' :: ['g', 'z'] := rfl
  rw [PosixPath.suffix, name_gz names, shape, PosixPath.splitSuffix_append nonempty (by decide) (by decide)]
  rfl

theorem parse_gz_ne {path : String} (names : Names path) : PosixPath.parse path ≠ PosixPath.parse (path ++ ".gz") := by
  intro same
  have lengths := congrArg (fun p => p.name.length) same
  rw [name_gz names, List.length_append] at lengths
  exact absurd lengths (by simp)

/-- The file for a stream without a path has a name, which does not tell that it is compressed. -/
theorem temporary_path (second : Int) :
    Names s!"/tmp/revitpy_bridge_streaming_{second}.json" ∧
      (PosixPath.parse s!"/tmp/revitpy_bridge_streaming_{second}.json").suffix ≠ ".gz".toList := by
  have shape : (s!"/tmp/revitpy_bridge_streaming_{second}.json").toList =
      ("/tmp/revitpy_bridge_streaming_" ++ toString second).toList ++ ".json".toList := String.toList_append ..
  generalize ("/tmp/revitpy_bridge_streaming_" ++ toString second).toList = stem at shape
  obtain ⟨last, names⟩ := names_append shape (by decide) (by decide)
  refine ⟨names, ?_⟩
  rw [PosixPath.suffix, PosixPath.name_parse names.1 names.2, last]
  by_cases empty : PosixPath.lastSegment stem = []
  · rw [empty]
    decide
  · have split : PosixPath.lastSegment stem ++ ".json".toList = PosixPath.lastSegment stem ++ '.' :: ['j', 's', 'o', 'n'] := rfl
    have other : '.' :: ['j', 's', 'o', 'n'] ≠ ".gz".toList := by decide
    rw [split, PosixPath.splitSuffix_append empty (by decide) (by decide)]
    exact other

/-! ## What is read back -/

theorem found_of_data_dict {gzip : Deflate} {files : Files} {result : Serialized} {elements : List Json} {m : SerializationMetadata}
    (found : data_dict gzip files result = some (document elements m)) :
    deserialize_elements gzip files result = some (.arr elements) ∧
      stored_element_count gzip files result = some (.number (toString m.element_count)) := by
  constructor
  · rw [deserialize_elements, found]
    rfl
  · rw [stored_element_count, found]
    rfl

/-- A file with a text of a document. -/
theorem data_dict_text {gzip : Deflate} {files : Files} {path : String} {text : List Char} {ms members : List (String × Json)}
    (content : files.get? (PosixPath.parse path) = some (encode text)) (read : Json.loads text = some (.obj ms))
    (brace : ∃ more, text = '\x7b' :: more) (inner : decompressed gzip (.obj ms) = some members) :
    data_dict gzip files (.path path) = if (PosixPath.parse path).suffix = ".gz".toList then none else some members := by
  rw [data_dict, load_text gzip content read brace]
  split
  · rfl
  · exact inner

theorem exists_batch_data (elements : List ε) :
    ∃ ms, (if config.compression_enabled then compress_data config env
        (.obj (document (serialized_elements serialize_single_element elements)
          (create_metadata config env (serialized_elements serialize_single_element elements))))
      else .obj (document (serialized_elements serialize_single_element elements)
        (create_metadata config env (serialized_elements serialize_single_element elements)))) = .obj ms ∧
      Json.json.proper (.obj ms) = true ∧ decompressed env.gzip (.obj ms) = some (document (serialized_elements serialize_single_element elements)
        (create_metadata config env (serialized_elements serialize_single_element elements))) := by
  generalize list : serialized_elements serialize_single_element elements = vs
  have numbers : Json.json.proper (.obj (document vs (create_metadata config env vs))) = true :=
    proper_document (list ▸ properItems_serialized elements) env.timestamp_number
  split
  · obtain ⟨ms, shape, proper⟩ := compress_data_obj config env numbers
    refine ⟨ms, shape, proper, ?_⟩
    rw [← shape]
    exact decompressed_compress_data config env numbers
  · exact ⟨_, rfl, numbers, rfl⟩

/-- In one piece, a file is read back unless it is taken for a compressed one. -/
theorem data_dict_batch (files : Files) (elements : List ε) {output_path : Option String} :
    data_dict env.gzip (serialize_batch config env serialize_single_element files elements output_path).2
        (serialize_batch config env serialize_single_element files elements output_path).1 =
      if ∃ path, given output_path = some path ∧ (PosixPath.parse path).suffix = ".gz".toList then none
      else some (document (serialized_elements serialize_single_element elements)
        (create_metadata config env (serialized_elements serialize_single_element elements))) := by
  obtain ⟨ms, shape, numbers, inner⟩ := @exists_batch_data ε config env serialize_single_element elements
  unfold document at shape
  unfold serialize_batch
  dsimp only
  rw [shape]
  cases place : given output_path with
  | none =>
    rw [if_neg (by simp)]
    exact inner
  | some path =>
    have content : (save_to_file config files (.obj ms) path).get? (PosixPath.parse path) =
        some (encode (Json.write Json.json (if config.compression_enabled then none else some 2) 0 (.obj ms))) := Dict.get?_set_self ..
    have same : (∃ p, some path = some p ∧ (PosixPath.parse p).suffix = ".gz".toList) ↔ (PosixPath.parse path).suffix = ".gz".toList := by simp
    rw [data_dict_text content (Json.load_write Json.json_lawful _ numbers) (write_obj _ ms) inner]
    simp only [same]

/-! ## Streams -/

/-- `range` takes the batch size, and the memory suffices: the text spells the document. -/
theorem stream_spells (positive : 1 ≤ config.batch_size) {elements : List ε}
    (free : ∀ i < (batches config.batch_size.toNat elements).length, env.memory_exceeded i = false) :
    ∃ text m, stream config env serialize_single_element elements = some text ∧
      m.element_count = (serialized_elements serialize_single_element elements).length ∧
      Json.Spells Json.json (.value (.obj (document (serialized_elements serialize_single_element elements) m))) text := by
  have first : Holds [] ⟨opening, true, 0⟩ := ⟨rfl, fun _ => ⟨rfl, rfl⟩, nofun⟩
  have all := @holds_foldl ε serialize_single_element (batches config.batch_size.toNat elements) _ _ first
  rw [flatten_batches (by omega), List.nil_append] at all
  have written := @write_batches_of_memory ε env serialize_single_element _ 0 (by simpa using free) ⟨opening, true, 0⟩
  refine ⟨_, _, ?_, all.total, spells_closing all (m := streaming_metadata config env _) env.timestamp_number⟩
  have proper_range : config.batch_size ≠ 0 := by omega
  rw [stream, if_neg proper_range, written]
  rfl

theorem stream_of_exceeded {elements : List ε} {i : Nat} (short : i < (batches config.batch_size.toNat elements).length)
    (exceeded : env.memory_exceeded i = true) : stream config env serialize_single_element elements = none := by
  unfold stream
  split
  · rfl
  · rw [write_batches_of_exceeded env short (by simpa using exceeded)]
    rfl

/-- A stream that is compressed after it was written is read back, another one unless it is taken for
    a compressed one. -/
theorem data_dict_streaming (positive : 1 ≤ config.batch_size) {files : Files} {elements : List ε} {output_path : Option String}
    (named : ∀ path, given output_path = some path → Names path)
    (free : ∀ i < (batches config.batch_size.toNat elements).length, env.memory_exceeded i = false) :
    ∃ result written m, serialize_streaming config env serialize_single_element files elements output_path = some (result, written) ∧
      m.element_count = (serialized_elements serialize_single_element elements).length ∧
      data_dict env.gzip written result =
        if config.compression_enabled = false ∧ ∃ path, given output_path = some path ∧ (PosixPath.parse path).suffix = ".gz".toList then none
        else some (document (serialized_elements serialize_single_element elements) m) := by
  obtain ⟨text, m, written, count, spells⟩ := @stream_spells ε config env serialize_single_element positive elements free
  have read := Json.load_of_spells Json.json_lawful spells
  obtain ⟨path, place, names, plain⟩ : ∃ path, (given output_path).getD s!"/tmp/revitpy_bridge_streaming_{env.second}.json" = path ∧
      Names path ∧ ((PosixPath.parse path).suffix = ".gz".toList ↔
        ∃ p, given output_path = some p ∧ (PosixPath.parse p).suffix = ".gz".toList) := by
    cases place : given output_path with
    | none =>
      refine ⟨_, rfl, (temporary_path env.second).1, fun gz => absurd gz (temporary_path env.second).2, ?_⟩
      rintro ⟨p, none_given, _⟩
      cases none_given
    | some path => exact ⟨path, rfl, named path place, by simp⟩
  unfold serialize_streaming
  simp only [place, written, Option.bind_eq_bind, Option.bind_some]
  cases compressed : config.compression_enabled with
  | false =>
    refine ⟨_, _, m, rfl, count, ?_⟩
    rw [data_dict_text (Dict.get?_set_self ..) read spells.brace rfl]
    simp only [plain, true_and]
  | true =>
    obtain ⟨body, deflated⟩ := Option.isSome_iff_exists.mp (env.gzip.default_level (encode text))
    have done : compress env.gzip 9 (encode text) = some (0x1f :: 0x8b :: body) := by
      rw [compress, deflated]
      rfl
    simp only [done, if_true, Option.bind_some]
    refine ⟨_, _, m, rfl, count, ?_⟩
    have content : (((files.set (PosixPath.parse path) (encode text)).set (PosixPath.parse (path ++ ".gz")) (0x1f :: 0x8b :: body)).erase
        (PosixPath.parse path)).get? (PosixPath.parse (path ++ ".gz")) = some (0x1f :: 0x8b :: body) := by
      rw [Dict.get?_erase_ne _ (parse_gz_ne names), Dict.get?_set_self]
    rw [data_dict, load_compressed content done read (suffix_gz names), if_neg (by simp)]
    rfl

/-! ## The ways agree -/

/-- What was serialized is deserialized as the list of the elements' values, and its length is stored. -/
def ReadsBack (serialize_single_element : ε → Option JsonValue) (files : Files) (elements : List ε) (output_path : Option String)
    (streaming : Bool) : Prop :=
  ∃ result written, serialize_elements config env serialize_single_element files elements output_path streaming = some (result, written) ∧
    deserialize_elements env.gzip written result = some (.arr (serialized_elements serialize_single_element elements)) ∧
    stored_element_count env.gzip written result = some (.number (toString (serialized_elements serialize_single_element elements).length))

/-- The memory suffices for the batches, and a file's name ends in `.gz` only if a compressed stream is written. -/
structure Readable (elements : List ε) (output_path : Option String) (streaming : Bool) : Prop where
  memory : use_streaming config elements streaming = true →
    ∀ i < (batches config.batch_size.toNat elements).length, env.memory_exceeded i = false
  name : ∀ path, given output_path = some path → (PosixPath.parse path).suffix = ".gz".toList →
    use_streaming config elements streaming = true ∧ config.compression_enabled = true

theorem not_readsBack_of_none {files : Files} {elements : List ε} {output_path : Option String} {streaming : Bool}
    {result : Serialized} {written : Files}
    (done : serialize_elements config env serialize_single_element files elements output_path streaming = some (result, written))
    (lost : data_dict env.gzip written result = none) :
    ¬ReadsBack config env serialize_single_element files elements output_path streaming := by
  rintro ⟨other, files', same, read, _⟩
  obtain ⟨rfl, rfl⟩ := Prod.mk.inj (Option.some.inj (done.symm.trans same))
  simp [deserialize_elements, lost] at read

theorem readsBack_of_data_dict {files : Files} {elements : List ε} {output_path : Option String} {streaming : Bool}
    {result : Serialized} {written : Files} {m : SerializationMetadata}
    (done : serialize_elements config env serialize_single_element files elements output_path streaming = some (result, written))
    (count : m.element_count = (serialized_elements serialize_single_element elements).length)
    (found : data_dict env.gzip written result = some (document (serialized_elements serialize_single_element elements) m)) :
    ReadsBack config env serialize_single_element files elements output_path streaming := by
  obtain ⟨read, stored⟩ := found_of_data_dict found
  exact ⟨result, written, done, read, count ▸ stored⟩

/-- Surroundings with memory enough, in which nothing is compressed. -/
def uncompressed : Environment where
  timestamp := "1700000000.5"
  timestamp_number := by decide
  second := 1700000000
  md5 _ := "d41d8cd98f00b204e9800998ecf8427e"
  gzip := ⟨fun _ data => some data, some, fun _ _ _ same => same.symm, fun _ => rfl⟩
  memory_exceeded _ := false
  st_size := 14

end RevitPy.Serialization
