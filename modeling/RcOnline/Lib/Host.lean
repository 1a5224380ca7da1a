import Mathlib

/-!
# Strings and dates of the host language

String tests and the date comparisons the repository's code uses. Reading a date text and the
collation order of two texts are the host's; results hold for every `Host`.
-/

namespace RcOnline.Lib

/-! ## Strings -/

/-- `s.startsWith(head)`. -/
def startsWith (s head : String) : Bool := head.toList.isPrefixOf s.toList

theorem startsWith_iff {s head : String} : startsWith s head = true ↔ ∃ t, s = head ++ t := by
  rw [startsWith, List.isPrefixOf_iff_prefix]
  constructor
  · rintro ⟨t, ht⟩
    exact ⟨String.ofList t, String.toList_inj.1 (by simp [← ht])⟩
  · rintro ⟨t, rfl⟩
    exact ⟨t.toList, by simp⟩

theorem startsWith_append (head t : String) : startsWith (head ++ t) head = true :=
  startsWith_iff.2 ⟨t, rfl⟩

/-- The host's white space and line terminators. -/
def isWhiteSpace (c : Char) : Bool :=
  c.toNat ∈ [0x9, 0xA, 0xB, 0xC, 0xD, 0x20, 0xA0, 0x1680, 0x2028, 0x2029, 0x202F, 0x205F, 0x3000,
    0xFEFF] || (0x2000 ≤ c.toNat && c.toNat ≤ 0x200A)

/-- `s.trim()`. -/
def trim (s : String) : String :=
  .ofList (((s.toList.dropWhile isWhiteSpace).reverse.dropWhile isWhiteSpace).reverse)

/-- `s.length`, counted in UTF-16 code units. -/
def utf16Length (s : String) : Nat :=
  (s.toList.map fun c => if c.toNat < 0x10000 then 1 else 2).sum

/-- The characters that fit into `units` code units; one that is cut in half is replaced. -/
def takeUtf16 : Nat → List Char → List Char
  | 0, _ => []
  | _, [] => []
  | units + 1, c :: rest =>
    if c.toNat < 0x10000 then c :: takeUtf16 units rest
    else match units with
      | 0 => ['\uFFFD']
      | units + 1 => c :: takeUtf16 units rest

/-- `s.slice(0, units)` as a UTF-8 text. -/
def slice (s : String) (units : Nat) : String := .ofList (takeUtf16 units s.toList)

/-- The value of a character in either base64 alphabet. -/
def base64Value (c : Char) : Option Nat :=
  if 'A' ≤ c ∧ c ≤ 'Z' then some (c.toNat - 'A'.toNat)
  else if 'a' ≤ c ∧ c ≤ 'z' then some (c.toNat - 'a'.toNat + 26)
  else if '0' ≤ c ∧ c ≤ '9' then some (c.toNat - '0'.toNat + 52)
  else if c = '-' ∨ c = '+' then some 62
  else if c = '_' ∨ c = '/' then some 63
  else none

/-- The bytes of a sequence of base64 digits; bits that fill no byte are dropped. -/
def base64Bytes : List Nat → List Nat
  | a :: b :: c :: d :: rest =>
    (a * 4 + b / 16) :: (b % 16 * 16 + c / 4) :: (c % 4 * 64 + d) :: base64Bytes rest
  | [a, b, c] => [a * 4 + b / 16, b % 16 * 16 + c / 4]
  | [a, b] => [a * 4 + b / 16]
  | _ => []

/-- The UTF-16 code units of a character. -/
def codeUnits (c : Char) : List Nat :=
  if c.toNat < 0x10000 then [c.toNat]
  else [0xD800 + (c.toNat - 0x10000) / 0x400, 0xDC00 + (c.toNat - 0x10000) % 0x400]

/-- The UTF-16 code units of a text, by which the host orders texts. -/
def utf16Units (s : String) : List Nat := s.toList.flatMap codeUnits

/-- The characters of the low bytes of a text's code units. -/
def lowBytes (s : String) : List Char := (utf16Units s).map fun unit => .ofNat (unit % 256)

/-- `Buffer.from(s, "base64url")`: up to the first `=`, and without low bytes that are no digits. -/
def decodeBase64url (s : String) : List Nat :=
  base64Bytes (((lowBytes s).takeWhile (· ≠ '=')).filterMap base64Value)

/-- A hexadecimal digit, in upper case. -/
def hexDigit (n : Nat) : Char := if n < 10 then Char.ofNat (0x30 + n) else Char.ofNat (0x37 + n)

/-- The characters that a component of a URL may hold as they are. -/
def isUnreserved (c : Char) : Bool :=
  ('A' ≤ c && c ≤ 'Z') || ('a' ≤ c && c ≤ 'z') || ('0' ≤ c && c ≤ '9') ||
    c.toNat ∈ [0x21, 0x27, 0x28, 0x29, 0x2A, 0x2D, 0x2E, 0x5F, 0x7E]

/-- `encodeURIComponent(s)`: every other character as the bytes of its UTF-8 encoding. -/
def encodeURIComponent (s : String) : String :=
  .ofList (s.toList.flatMap fun c =>
    if isUnreserved c then [c]
    else c.toString.toUTF8.toList.flatMap fun byte =>
      ['%', hexDigit (byte.toNat / 16), hexDigit (byte.toNat % 16)])

/-! ## Dates -/

/-- A date: its time value in milliseconds, or none for an invalid date. -/
abbrev Date := Option Int

/-- `a.getTime() <= b.getTime()`: false when either is NaN. -/
def Date.le : Date → Date → Bool
  | some a, some b => decide (a ≤ b)
  | _, _ => false

/-- `a.getTime() > b.getTime()`: false when either is NaN. -/
def Date.gt : Date → Date → Bool
  | some a, some b => decide (b < a)
  | _, _ => false

/-- A date is at most a hundred million days from the epoch; `new Date` makes others invalid. -/
def Date.Valid (date : Date) : Prop := ∀ time ∈ date, |time| ≤ 8640000000000000

instance (date : Date) : Decidable date.Valid := inferInstanceAs (Decidable (∀ _ ∈ date, _))

/-- What the model leaves to the host. -/
structure Host where
  /-- `new Date(text)`. -/
  parseDate : String → Date
  /-- `a.localeCompare(b)`. -/
  localeCompare : String → String → Int

end RcOnline.Lib
