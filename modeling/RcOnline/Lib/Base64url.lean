import RcOnline.Lib.Host

/-!
# Base64url texts

`Buffer.toString("base64url")`: three bytes a group, four digits a group, no padding. Decoding
undoes it (`decode_encodeBase64url`), and no digit is a dot (`dot_not_mem_encodeBase64url`), so an
encoded text is one part of a text that dots divide (`splitOn_eq_pair`). Other texts decode to the
same bytes, such as one that goes on after a `=`.
-/

namespace RcOnline.Lib

/-! ## Encoding -/

/-- The character of a base64url digit. -/
def base64urlChar (digit : Nat) : Char :=
  if digit < 26 then .ofNat ('A'.toNat + digit)
  else if digit < 52 then .ofNat ('a'.toNat + (digit - 26))
  else if digit < 62 then .ofNat ('0'.toNat + (digit - 52))
  else if digit = 62 then '-' else '_'

/-- The digits of a sequence of bytes; a last group that is short is filled with zero bits. -/
def base64Digits : List UInt8 → List Nat
  | a :: b :: c :: rest =>
    a.toNat / 4 :: (a.toNat % 4 * 16 + b.toNat / 16) :: (b.toNat % 16 * 4 + c.toNat / 64) ::
      c.toNat % 64 :: base64Digits rest
  | [a, b] => [a.toNat / 4, a.toNat % 4 * 16 + b.toNat / 16, b.toNat % 16 * 4]
  | [a] => [a.toNat / 4, a.toNat % 4 * 16]
  | [] => []

/-- `Buffer.from(bytes).toString("base64url")`. -/
def encodeBase64url (bytes : List UInt8) : String :=
  .ofList ((base64Digits bytes).map base64urlChar)

theorem base64Digits_lt (bytes : List UInt8) : ∀ digit ∈ base64Digits bytes, digit < 64 := by
  fun_induction base64Digits bytes with
  | case1 a b c rest ih =>
    have ha := a.toNat_lt
    have hb := b.toNat_lt
    have hc := c.toNat_lt
    intro digit hdigit
    simp only [List.mem_cons] at hdigit
    rcases hdigit with rfl | rfl | rfl | rfl | hrest
    · omega
    · omega
    · omega
    · omega
    · exact ih digit hrest
  | case2 a b =>
    have ha := a.toNat_lt
    have hb := b.toNat_lt
    intro digit hdigit
    simp only [List.mem_cons, List.not_mem_nil, or_false] at hdigit
    omega
  | case3 a =>
    have ha := a.toNat_lt
    intro digit hdigit
    simp only [List.mem_cons, List.not_mem_nil, or_false] at hdigit
    omega
  | case4 => simp

theorem base64Value_base64urlChar {digit : Nat} (h : digit < 64) :
    base64Value (base64urlChar digit) = some digit := by
  have hall : ∀ d : Fin 64, base64Value (base64urlChar d) = some d.val := by decide
  exact hall ⟨digit, h⟩

/-- A character without a value is no digit. -/
theorem base64urlChar_ne {digit : Nat} (h : digit < 64) {c : Char} (hc : base64Value c = none) :
    base64urlChar digit ≠ c := by
  rintro rfl
  rw [base64Value_base64urlChar h] at hc
  cases hc

/-! ## Round trip -/

theorem base64Bytes_base64Digits (bytes : List UInt8) :
    base64Bytes (base64Digits bytes) = bytes.map UInt8.toNat := by
  fun_induction base64Digits bytes with
  | case1 a b c rest ih =>
    have ha := a.toNat_lt
    have hb := b.toNat_lt
    have hc := c.toNat_lt
    simp only [base64Bytes, ih, List.map_cons, List.cons.injEq, and_true]
    refine ⟨?_, ?_, ?_⟩ <;> omega
  | case2 a b =>
    have ha := a.toNat_lt
    have hb := b.toNat_lt
    simp only [base64Bytes, List.map_cons, List.map_nil, List.cons.injEq, and_true]
    constructor <;> omega
  | case3 a =>
    have ha := a.toNat_lt
    simp only [base64Bytes, List.map_cons, List.map_nil, List.cons.injEq, and_true]
    omega
  | case4 => rfl

/-- Every digit is read back as itself. -/
theorem filterMap_base64Value {digits : List Nat} (h : ∀ digit ∈ digits, digit < 64) :
    (digits.map base64urlChar).filterMap base64Value = digits := by
  rw [List.filterMap_map]
  have hsome : ∀ digit ∈ digits, (base64Value ∘ base64urlChar) digit = some digit :=
    fun digit hdigit => base64Value_base64urlChar (h digit hdigit)
  rw [List.filterMap_congr hsome, List.filterMap_some]

/-- A digit is one code unit, which is its low byte. -/
theorem lowByte_base64urlChar {digit : Nat} (h : digit < 64) :
    (codeUnits (base64urlChar digit)).map (fun unit => Char.ofNat (unit % 256)) =
      [base64urlChar digit] := by
  have hall : ∀ d : Fin 64,
      (codeUnits (base64urlChar d)).map (fun unit => Char.ofNat (unit % 256)) =
        [base64urlChar d] := by decide
  exact hall ⟨digit, h⟩

theorem lowBytes_digits {digits : List Nat} (h : ∀ digit ∈ digits, digit < 64) :
    lowBytes (.ofList (digits.map base64urlChar)) = digits.map base64urlChar := by
  rw [lowBytes, utf16Units, String.toList_ofList]
  induction digits with
  | nil => rfl
  | cons digit digits ih =>
    obtain ⟨hdigit, hrest⟩ := List.forall_mem_cons.1 h
    rw [List.map_cons, List.flatMap_cons, List.map_append, lowByte_base64urlChar hdigit, ih hrest]
    rfl

/-- Decoding undoes encoding. -/
theorem decode_encodeBase64url (bytes : List UInt8) :
    decodeBase64url (encodeBase64url bytes) = bytes.map UInt8.toNat := by
  have hlt := base64Digits_lt bytes
  have hall : ∀ c ∈ (base64Digits bytes).map base64urlChar, decide (c ≠ '=') = true := by
    intro c hc
    obtain ⟨digit, hdigit, rfl⟩ := List.mem_map.1 hc
    exact decide_eq_true (base64urlChar_ne (hlt digit hdigit) rfl)
  rw [decodeBase64url, encodeBase64url, lowBytes_digits hlt, List.takeWhile_eq_self_iff.2 hall,
    filterMap_base64Value hlt, base64Bytes_base64Digits]

/-- What follows a `=` is not read. -/
theorem decodeBase64url_pad (s t : String) :
    decodeBase64url (s ++ "=" ++ t) = decodeBase64url s := by
  have happend : ∀ a b : String, lowBytes (a ++ b) = lowBytes a ++ lowBytes b := by
    intro a b
    rw [lowBytes, utf16Units, String.toList_append, List.flatMap_append, List.map_append]
    rfl
  have hpad : lowBytes "=" = ['='] := by decide
  have hstop : (lowBytes (s ++ "=" ++ t)).takeWhile (· ≠ '=') =
      (lowBytes s).takeWhile (· ≠ '=') := by
    rw [happend, happend, hpad, List.append_assoc, List.takeWhile_append]
    split
    · next hall =>
      rw [List.singleton_append, List.takeWhile_cons_of_neg (by simp), List.append_nil]
      exact ((List.takeWhile_prefix _).eq_of_length hall).symm
    · rfl
  rw [decodeBase64url, hstop]
  rfl

theorem dot_not_mem_encodeBase64url (bytes : List UInt8) :
    '.' ∉ (encodeBase64url bytes).toList := by
  rw [encodeBase64url, String.toList_ofList]
  intro hdot
  obtain ⟨digit, hdigit, heq⟩ := List.mem_map.1 hdot
  exact base64urlChar_ne (base64Digits_lt bytes digit hdigit) rfl heq

/-- Only the empty sequence has the empty text. -/
theorem encodeBase64url_ne_empty {bytes : List UInt8} (h : bytes ≠ []) :
    encodeBase64url bytes ≠ "" := by
  intro hempty
  have hdecode := decode_encodeBase64url bytes
  rw [hempty] at hdecode
  exact h (List.map_eq_nil_iff.1 hdecode.symm)

/-! ## Parts of a text -/

theorem not_mem_of_mem_splitOn {α : Type} [DecidableEq α] {sep : α} :
    ∀ {l part : List α}, part ∈ l.splitOn sep → sep ∉ part
  | [], part, h => by
    rw [List.splitOn_nil, List.mem_singleton] at h
    simp [h]
  | a :: l, part, h => by
    rw [List.splitOn_cons_eq_if_modifyHead] at h
    split at h
    · rcases List.mem_cons.1 h with rfl | h
      · exact List.not_mem_nil
      · exact not_mem_of_mem_splitOn h
    · next ha =>
      cases hparts : l.splitOn sep with
      | nil => exact absurd hparts (List.splitOn_ne_nil sep l)
      | cons head tail =>
        rw [hparts, List.modifyHead_cons] at h
        rcases List.mem_cons.1 h with rfl | h
        · have hhead : sep ∉ head := not_mem_of_mem_splitOn (l := l) (by simp [hparts])
          simp only [List.mem_cons, not_or]
          exact ⟨fun heq => ha (by simp [heq]), hhead⟩
        · exact not_mem_of_mem_splitOn (l := l) (by simp [hparts, h])

/-- A list splits in two exactly around its only separator. -/
theorem splitOn_eq_pair {α : Type} [DecidableEq α] {sep : α} {l first second : List α} :
    l.splitOn sep = [first, second] ↔
      l = first ++ sep :: second ∧ sep ∉ first ∧ sep ∉ second := by
  constructor
  · intro hsplit
    have hparts : ∀ part ∈ l.splitOn sep, sep ∉ part := fun part hpart =>
      not_mem_of_mem_splitOn hpart
    refine ⟨?_, hparts first (by simp [hsplit]), hparts second (by simp [hsplit])⟩
    have hjoin := @List.intercalate_splitOn _ l _ _ sep
    rw [hsplit] at hjoin
    simpa using hjoin.symm
  · rintro ⟨rfl, hfirst, hsecond⟩
    rw [List.splitOn_append_cons_self_of_not_mem hfirst, List.splitOn_eq_singleton hsecond]

/-! ## UTF-8 -/

/-- `Buffer.from(s, "utf8")`. -/
def utf8Bytes (s : String) : List UInt8 := s.toUTF8.data.toList

/-- The text of a sequence of bytes, if it is the UTF-8 encoding of one. -/
def utf8Text? (bytes : List Nat) : Option String :=
  String.fromUTF8? ⟨(bytes.map UInt8.ofNat).toArray⟩

theorem utf8Text?_utf8Bytes (s : String) :
    utf8Text? ((utf8Bytes s).map UInt8.toNat) = some s := by
  have hbytes : (((utf8Bytes s).map UInt8.toNat).map UInt8.ofNat).toArray = s.toUTF8.data := by
    rw [List.map_map]
    have hid : UInt8.ofNat ∘ UInt8.toNat = id := funext fun byte => UInt8.ofNat_toNat
    rw [hid, List.map_id]
    rfl
  rw [utf8Text?, hbytes, String.fromUTF8?]
  exact dif_pos s.isValidUTF8

theorem utf8Bytes_ne_nil {s : String} (h : s ≠ "") : utf8Bytes s ≠ [] := by
  intro hnil
  have hs := utf8Text?_utf8Bytes s
  rw [hnil, show [] = utf8Bytes "" from rfl, utf8Text?_utf8Bytes ""] at hs
  exact h (Option.some.inj hs).symm

end RcOnline.Lib
