import RevitPy.ValueRoundTrip

/-!
# JSON texts

How `json.dumps` and `json.dump` write, with ASCII characters only, and how `json.loads`
reads. A lone surrogate, which is no character here, is not read.
-/

namespace RevitPy.Json

/-! ## Characters -/

def quotationMark : Char := Char.ofNat 34
def backslash : Char := Char.ofNat 92

/-- The escapes of two characters that are written. -/
def shortEscapes : List (Char × Char) :=
  [(quotationMark, quotationMark), (backslash, backslash), (Char.ofNat 10, 'n'), (Char.ofNat 13, 'r'), (Char.ofNat 9, 't'),
    (Char.ofNat 12, 'f'), (Char.ofNat 8, 'b')]

/-- The ones that are read. -/
def unescape (c : Char) : Option Char :=
  if c = '/' then some '/' else (shortEscapes.find? fun escape => escape.2 = c).map Prod.fst

/-- How a character is written in a string. -/
def escape (c : Char) : List Char := match shortEscapes.lookup c with
  | some short => [backslash, short]
  | none =>
    if 32 ≤ c.toNat ∧ c.toNat ≤ 126 then [c]
    else if c.toNat < 0x10000 then backslash :: 'u' :: Quoted.hexDigits 4 c.toNat
    else
      let v := c.toNat - 0x10000
      backslash :: 'u' :: Quoted.hexDigits 4 (0xD800 + v / 1024) ++ backslash :: 'u' :: Quoted.hexDigits 4 (0xDC00 + v % 1024)

/-- What follows `\u`. -/
def readUnicode (text : List Char) : Option (Char × List Char) := do
  let (n, rest) ← Quoted.readHex 4 text
  if 0xD800 ≤ n ∧ n ≤ 0xDBFF then match rest with
    | a :: b :: rest =>
      if a = backslash ∧ b = 'u' then
        let (m, rest) ← Quoted.readHex 4 rest
        if 0xDC00 ≤ m ∧ m ≤ 0xDFFF then some (Char.ofNat (0x10000 + (n - 0xD800) * 1024 + (m - 0xDC00)), rest) else none
      else none
    | _ => none
  else if 0xDC00 ≤ n ∧ n ≤ 0xDFFF then none
  else some (Char.ofNat n, rest)

/-- One character of a string. -/
def readChar : List Char → Option (Char × List Char)
  | [] => none
  | c :: rest =>
    if c = backslash then match rest with
      | [] => none
      | e :: rest => if e = 'u' then readUnicode rest else (unescape e).map (·, rest)
    else if c = quotationMark ∨ c.toNat < 32 then none
    else some (c, rest)

theorem toNat_cases (c : Char) : c.toNat < 0xD800 ∨ 0xDFFF < c.toNat ∧ c.toNat < 0x110000 := c.valid

theorem readUnicode_hex4 {c : Char} (small : c.toNat < 0x10000) (rest : List Char) : readUnicode (Quoted.hexDigits 4 c.toNat ++ rest) = some (c, rest) := by
  have valid := toNat_cases c
  have low : ¬(0xD800 ≤ c.toNat ∧ c.toNat ≤ 0xDBFF) := by omega
  have high : ¬(0xDC00 ≤ c.toNat ∧ c.toNat ≤ 0xDFFF) := by omega
  have small4 : c.toNat < 16 ^ 4 := small
  simp [readUnicode, Quoted.readHex_of_lt small4, low, high]

theorem readUnicode_pair {high low : Nat} (first : 0xD800 ≤ high ∧ high ≤ 0xDBFF) (second : 0xDC00 ≤ low ∧ low ≤ 0xDFFF)
    (rest : List Char) :
    readUnicode (Quoted.hexDigits 4 high ++ backslash :: 'u' :: (Quoted.hexDigits 4 low ++ rest)) =
      some (Char.ofNat (0x10000 + (high - 0xD800) * 1024 + (low - 0xDC00)), rest) := by
  have high_small : high < 16 ^ 4 := by omega
  have low_small : low < 16 ^ 4 := by omega
  simp [readUnicode, Quoted.readHex_of_lt high_small, Quoted.readHex_of_lt low_small, first, second]

theorem readUnicode_surrogates {c : Char} (large : 0x10000 ≤ c.toNat) (rest : List Char) :
    readUnicode (Quoted.hexDigits 4 (0xD800 + (c.toNat - 0x10000) / 1024) ++ backslash :: 'u' :: (Quoted.hexDigits 4 (0xDC00 + (c.toNat - 0x10000) % 1024) ++ rest)) =
      some (c, rest) := by
  have valid := toNat_cases c
  generalize split : c.toNat - 0x10000 = v
  have value : 0x10000 + (0xD800 + v / 1024 - 0xD800) * 1024 + (0xDC00 + v % 1024 - 0xDC00) = c.toNat := by omega
  rw [readUnicode_pair ⟨by omega, by omega⟩ ⟨by omega, by omega⟩, value, Char.ofNat_toNat]

/-- A short escape is read as it was written. -/
theorem unescape_of_lookup {c short : Char} (found : shortEscapes.lookup c = some short) : short ≠ 'u' ∧ unescape short = some c := by
  have each : ∀ entry ∈ shortEscapes, entry.2 ≠ 'u' ∧ unescape entry.2 = some entry.1 := by decide
  obtain ⟨before, after, shape, _⟩ := List.lookup_eq_some_iff.mp found
  exact each (c, short) (by simp [shape])

theorem readChar_escape (c : Char) (rest : List Char) : readChar (escape c ++ rest) = some (c, rest) := by
  unfold escape
  split
  · next short found =>
    obtain ⟨no_unicode, read⟩ := unescape_of_lookup found
    simp [readChar, no_unicode, read]
  · next unlisted =>
    have plain : c ≠ backslash ∧ c ≠ quotationMark := by
      constructor
      · rintro rfl
        cases unlisted
      · rintro rfl
        cases unlisted
    split
    · next printable =>
      have visible : ¬c.toNat < 32 := by omega
      simp [readChar, plain, visible]
    · split
      · next small => simp [readChar, readUnicode_hex4 small]
      · next large =>
        have read := readUnicode_surrogates (c := c) (by omega) rest
        simpa [readChar] using read

/-- No written character begins with the quotation mark that ends a string. -/
theorem escape_head (c : Char) : ∃ first more, escape c = first :: more ∧ first ≠ quotationMark := by
  unfold escape
  split
  · exact ⟨backslash, _, rfl, by decide⟩
  · next unlisted =>
    split
    · refine ⟨c, [], rfl, ?_⟩
      rintro rfl
      cases unlisted
    · split
      · exact ⟨backslash, _, rfl, by decide⟩
      · exact ⟨backslash, _, rfl, by decide⟩

/-! ## JSON's own dialect -/

def quote (value : String) : List Char := quotationMark :: value.toList.flatMap escape ++ [quotationMark]

def readString (fuel : Nat) : List Char → Option (String × List Char)
  | [] => none
  | c :: rest =>
    if c = quotationMark then (Quoted.readUntil quotationMark readChar fuel rest).map fun (value, rest) => (String.ofList value, rest) else none

theorem readString_quote (value : String) (fuel : Nat) (rest : List Char) (enough : (quote value).length ≤ fuel) :
    readString fuel (quote value ++ rest) = some (value, rest) := by
  have longer := Quoted.length_le_flatMap escape_head value.toList
  have short : value.toList.length < fuel := by
    simp only [quote, List.cons_append, List.length_cons, List.length_append] at enough
    omega
  have read := Quoted.readUntil_flatMap escape_head readChar_escape value.toList rest short
  simp [quote, readString, read]

def json : Dialect where
  null := "null".toList
  yes := "true".toList
  no := "false".toList
  numberWords := ["NaN", "Infinity", "-Infinity"]
  isMark c := c = quotationMark
  quote := quote
  readString := readString

theorem json_lawful : json.Lawful where
  word word v member := by
    simp only [json, Dialect.words, List.map_cons, List.map_nil, List.mem_cons, Prod.mk.injEq, List.not_mem_nil, or_false] at member
    rcases member with ⟨rfl, rfl⟩ | ⟨rfl, rfl⟩ | ⟨rfl, rfl⟩ | ⟨rfl, rfl⟩ | ⟨rfl, rfl⟩ | ⟨rfl, rfl⟩ <;>
    exact ⟨_, _, rfl, ⟨by decide, by decide, by decide⟩, by decide, by decide, by decide, fun _ => rfl⟩
  mark c mark := by
    obtain rfl : c = quotationMark := by simpa [json] using mark
    exact ⟨⟨by decide, by decide, by decide⟩, by decide⟩
  bracket := by decide
  brace := by decide
  quote value := ⟨quotationMark, _, rfl, by decide⟩
  readString_quote := readString_quote

/-- `json.dumps(value)` -/
def dumps (value : Json) : List Char := write json none 0 value

/-- `json.loads(text)` -/
def loads (text : List Char) : Option Json := load json text

example : loads "[-1.5e3, \x7b \"a\":[ ]\x7d ,\n \"\\u00e9\"]".toList = some (.arr [.number "-1.5e3", .obj [("a", .arr [])], .str "é"]) := rfl

end RevitPy.Json
