import RevitPy.QuotedStrings

/-!
# Bytes and their texts

The UTF-8 bytes of a text, and the texts of bytes in hexadecimal digits and in base 64.
-/

namespace RevitPy

abbrev Bytes := List UInt8

namespace Bytes

/-- `text.encode()` -/
def encode (text : List Char) : Bytes := (String.ofList text).toUTF8.data.toList
/-- `data.decode()` -/
def decode (data : Bytes) : Option (List Char) := (String.fromUTF8? ⟨data.toArray⟩).map String.toList

theorem decode_encode (text : List Char) : decode (encode text) = some text := by
  have same : (⟨(encode text).toArray⟩ : ByteArray) = (String.ofList text).toUTF8 := rfl
  have valid : (String.ofList text).toUTF8.IsValidUTF8 := (String.ofList text).isValidUTF8
  rw [decode, same, String.fromUTF8?, dif_pos valid]
  exact congrArg some String.toList_ofList

theorem encode_injective : Function.Injective encode := fun text other same => by
  have read := decode_encode text
  rw [same, decode_encode] at read
  exact (Option.some.inj read).symm

/-- `data.hex()` -/
def hex (data : Bytes) : List Char := data.flatMap fun b => [Nat.digitChar (b.toNat / 16), Nat.digitChar (b.toNat % 16)]

def isAsciiSpace (c : Char) : Bool := c = ' ' || 9 ≤ c.toNat && c.toNat ≤ 13

/-- `bytes.fromhex(text)` -/
def fromhex : List Char → Option Bytes
  | [] => some []
  | [c] => if isAsciiSpace c then some [] else none
  | a :: b :: rest =>
    if isAsciiSpace a then fromhex (b :: rest)
    else do
      let high ← Quoted.hexValue? a
      let low ← Quoted.hexValue? b
      let more ← fromhex rest
      some (UInt8.ofNat (16 * high + low) :: more)

theorem fromhex_hex (data : Bytes) : fromhex (hex data) = some data := by
  have digit : ∀ d : Fin 16, isAsciiSpace (Nat.digitChar d) = false := by decide
  induction data with
  | nil => rfl
  | cons b data ih =>
    have small : b.toNat < 256 := b.toNat_lt
    have high : b.toNat / 16 < 16 := by omega
    have low : b.toNat % 16 < 16 := by omega
    have value : 16 * (b.toNat / 16) + b.toNat % 16 = b.toNat := by omega
    have visible := digit ⟨b.toNat / 16, high⟩
    have written : hex (b :: data) = Nat.digitChar (b.toNat / 16) :: Nat.digitChar (b.toNat % 16) :: hex data := rfl
    rw [written, fromhex, if_neg (by simp [visible]), Quoted.hexValue?_digitChar high, Quoted.hexValue?_digitChar low, ih]
    simp only [Option.bind_eq_bind, Option.bind_some, value, UInt8.ofNat_toNat]

theorem hex_injective : Function.Injective hex := fun data other same => by
  have read := fromhex_hex data
  rw [same, fromhex_hex] at read
  exact (Option.some.inj read).symm

/-! ## Base 64 -/

/-- The letters, the digits, `+` and `/`. -/
def digit64 (n : Nat) : Char :=
  if n < 26 then Char.ofNat (n + 65)
  else if n < 52 then Char.ofNat (n + 71)
  else if n < 62 then Char.ofNat (n - 4)
  else if n = 62 then '+' else '/'

def value64? (c : Char) : Option Nat :=
  if 'A' ≤ c ∧ c ≤ 'Z' then some (c.toNat - 65)
  else if 'a' ≤ c ∧ c ≤ 'z' then some (c.toNat - 71)
  else if '0' ≤ c ∧ c ≤ '9' then some (c.toNat + 4)
  else if c = '+' then some 62
  else if c = '/' then some 63
  else none

/-- `base64.b64encode(data).decode()` -/
def b64encode : Bytes → List Char
  | [] => []
  | [a] => [digit64 (a.toNat / 4), digit64 (a.toNat % 4 * 16), '=', '=']
  | [a, b] => [digit64 (a.toNat / 4), digit64 (a.toNat % 4 * 16 + b.toNat / 16), digit64 (b.toNat % 16 * 4), '=']
  | a :: b :: c :: rest =>
    digit64 (a.toNat / 4) :: digit64 (a.toNat % 4 * 16 + b.toNat / 16) :: digit64 (b.toNat % 16 * 4 + c.toNat / 64) ::
      digit64 (c.toNat % 64) :: b64encode rest

/-- The bytes of the digits that are left, after `groups` groups of four, `quad` digits of the next
    and `pads` marks. `left` are the bits that no byte has yet. Other characters are skipped. -/
def readDigits (groups quad pads left : Nat) : List Char → Except String Bytes
  | [] =>
    if quad = 0 then .ok []
    else if quad = 1 then
      .error ("Invalid base64-encoded string: number of data characters (" ++ toString (4 * groups + 1) ++ ") cannot be 1 more than a multiple of 4")
    else .error "Incorrect padding"
  | c :: rest =>
    if c = '=' then
      if quad < 2 then readDigits groups quad pads left rest
      else if 4 ≤ quad + (pads + 1) then .ok []
      else readDigits groups quad (pads + 1) left rest
    else match value64? c with
      | none => readDigits groups quad pads left rest
      | some v =>
        if quad = 0 then readDigits groups 1 0 v rest
        else if quad = 1 then (readDigits groups 2 0 (v % 16) rest).map (UInt8.ofNat (left * 4 + v / 16) :: ·)
        else if quad = 2 then (readDigits groups 3 0 (v % 4) rest).map (UInt8.ofNat (left * 16 + v / 4) :: ·)
        else (readDigits (groups + 1) 0 0 0 rest).map (UInt8.ofNat (left * 64 + v) :: ·)

/-- `base64.b64decode(text)` -/
def b64decode (text : List Char) : Except String Bytes :=
  if text.all fun c => c.toNat < 128 then readDigits 0 0 0 0 text else .error "string argument should contain only ASCII characters"

theorem value64?_digit64 {n : Nat} (small : n < 64) : value64? (digit64 n) = some n ∧ digit64 n ≠ '=' ∧ (digit64 n).toNat < 128 := by
  have each : ∀ n : Fin 64, value64? (digit64 n) = some n.val ∧ digit64 n ≠ '=' ∧ (digit64 n).toNat < 128 := by decide +kernel
  exact each ⟨n, small⟩

section
variable {n : Nat} (small : n < 64) (groups pads left : Nat) (rest : List Char)
include small

theorem readDigits_first : readDigits groups 0 pads left (digit64 n :: rest) = readDigits groups 1 0 n rest := by
  obtain ⟨value, digit, _⟩ := value64?_digit64 small
  simp [readDigits, value, digit]

theorem readDigits_second :
    readDigits groups 1 pads left (digit64 n :: rest) = (readDigits groups 2 0 (n % 16) rest).map (UInt8.ofNat (left * 4 + n / 16) :: ·) := by
  obtain ⟨value, digit, _⟩ := value64?_digit64 small
  simp [readDigits, value, digit]

theorem readDigits_third :
    readDigits groups 2 pads left (digit64 n :: rest) = (readDigits groups 3 0 (n % 4) rest).map (UInt8.ofNat (left * 16 + n / 4) :: ·) := by
  obtain ⟨value, digit, _⟩ := value64?_digit64 small
  simp [readDigits, value, digit]

theorem readDigits_last :
    readDigits groups 3 pads left (digit64 n :: rest) = (readDigits (groups + 1) 0 0 0 rest).map (UInt8.ofNat (left * 64 + n) :: ·) := by
  obtain ⟨value, digit, _⟩ := value64?_digit64 small
  simp [readDigits, value, digit]

end

theorem ofNat_of_eq {n : Nat} {b : UInt8} (same : n = b.toNat) : UInt8.ofNat n = b := by rw [same, UInt8.ofNat_toNat]

theorem readDigits_b64encode (groups : Nat) (data : Bytes) : readDigits groups 0 0 0 (b64encode data) = .ok data := by
  induction data using b64encode.induct generalizing groups with
  | case1 => rfl
  | case2 a =>
    have limit : a.toNat < 256 := a.toNat_lt
    rw [b64encode, readDigits_first (by omega), readDigits_second (by omega), ofNat_of_eq (by omega : _ = a.toNat)]
    rfl
  | case3 a b =>
    have limit : a.toNat < 256 := a.toNat_lt
    have second_limit : b.toNat < 256 := b.toNat_lt
    rw [b64encode, readDigits_first (by omega), readDigits_second (by omega), readDigits_third (by omega),
      ofNat_of_eq (by omega : _ = a.toNat), ofNat_of_eq (by omega : _ = b.toNat)]
    rfl
  | case4 a b c rest ih =>
    have limit : a.toNat < 256 := a.toNat_lt
    have second_limit : b.toNat < 256 := b.toNat_lt
    have third_limit : c.toNat < 256 := c.toNat_lt
    rw [b64encode, readDigits_first (by omega), readDigits_second (by omega), readDigits_third (by omega), readDigits_last (by omega), ih,
      ofNat_of_eq (by omega : _ = a.toNat), ofNat_of_eq (by omega : _ = b.toNat), ofNat_of_eq (by omega : _ = c.toNat)]
    rfl

theorem ascii_b64encode (data : Bytes) : ∀ c ∈ b64encode data, c.toNat < 128 := by
  have digit {n : Nat} (small : n < 64) : (digit64 n).toNat < 128 := (value64?_digit64 small).2.2
  have mark : ('=').toNat < 128 := by decide
  induction data using b64encode.induct with
  | case1 => simp [b64encode]
  | case2 a =>
    have limit : a.toNat < 256 := a.toNat_lt
    simp only [b64encode, List.forall_mem_cons]
    exact ⟨digit (by omega), digit (by omega), mark, mark, by simp⟩
  | case3 a b =>
    have limit : a.toNat < 256 := a.toNat_lt
    have second_limit : b.toNat < 256 := b.toNat_lt
    simp only [b64encode, List.forall_mem_cons]
    exact ⟨digit (by omega), digit (by omega), digit (by omega), mark, by simp⟩
  | case4 a b c rest ih =>
    have limit : a.toNat < 256 := a.toNat_lt
    have second_limit : b.toNat < 256 := b.toNat_lt
    have third_limit : c.toNat < 256 := c.toNat_lt
    simp only [b64encode, List.forall_mem_cons]
    exact ⟨digit (by omega), digit (by omega), digit (by omega), digit (by omega), ih⟩

theorem b64decode_b64encode (data : Bytes) : b64decode (b64encode data) = .ok data := by
  rw [b64decode, if_pos (List.all_eq_true.mpr fun c member => by simpa using ascii_b64encode data c member), readDigits_b64encode]

example : b64encode [251, 255, 0, 1] = "+/8AAQ==".toList := by decide

end Bytes
end RevitPy
