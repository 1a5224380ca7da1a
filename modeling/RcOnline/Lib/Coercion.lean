import RcOnline.Lib.Host
import RcOnline.Lib.Json

/-!
# Coercion of JSON values

What the host makes of a parsed value where it wants a text, a number or an answer to a comparison.
An undefined value is none. An object with a field `toString` has no primitive value, so that its
coercion throws: the results of what can throw are options.
-/

namespace RcOnline.Lib

/-- The texts of numbers, and the numbers of texts. -/
structure Coercion where
  /-- `String(x)`. -/
  numberText : Number → String
  /-- `Number(text)`. -/
  textNumber : String → Number

namespace Json

/-- `a === b`; two objects are never the same one. -/
def strictEquals : Option Json → Option Json → Bool
  | none, none | some .null, some .null => true
  | some (.bool a), some (.bool b) => a = b
  | some (.number x), some (.number y) => x ≠ .nan && x = y
  | some (.string s), some (.string t) => s = t
  | _, _ => false

theorem eq_of_strictEquals {a b : Option Json} (h : strictEquals a b = true) : a = b := by
  unfold strictEquals at h
  split at h
  · rfl
  · rfl
  · rw [of_decide_eq_true h]
  · rw [of_decide_eq_true (Bool.and_eq_true_iff.1 h).2]
  · rw [of_decide_eq_true h]
  · cases h

end Json

namespace Coercion

variable (c : Coercion)

mutual

/-- `String(value)`. -/
def text : Json → Option String
  | .null => some "null"
  | .bool b => some (if b then "true" else "false")
  | .number x => some (c.numberText x)
  | .string s => some s
  | .array items => (itemTexts items).map (",".intercalate ·)
  | .object fields => if fields.any (·.1 = "toString") then none else some "[object Object]"

/-- The texts that `join` puts together; a null is left empty. -/
def itemTexts : List Json → Option (List String)
  | [] => some []
  | .null :: items => (itemTexts items).map ("" :: ·)
  | item :: items => (text item).bind fun first => (itemTexts items).map (first :: ·)

end

/-- The primitive value, with a number preferred. -/
def primitive : Option Json → Option (Option Json)
  | none => some none
  | some (.array items) => (c.text (.array items)).map fun s => some (.string s)
  | some (.object fields) => (c.text (.object fields)).map fun s => some (.string s)
  | some value => some (some value)

/-- The number of a primitive value. -/
def primitiveNumber : Option Json → Number
  | some .null => .ofInt 0
  | some (.bool b) => .ofInt (if b then 1 else 0)
  | some (.number x) => x
  | some (.string s) => c.textNumber s
  | _ => .nan

/-- `Number(value)`. -/
def toNumber (value : Option Json) : Option Number := (c.primitive value).map c.primitiveNumber

/-- `a <= b`. -/
def atMost (a b : Option Json) : Option Bool :=
  (c.primitive a).bind fun a => (c.primitive b).map fun b =>
    match a, b with
    | some (.string s), some (.string t) => !decide (utf16Units t < utf16Units s)
    | a, b => (c.primitiveNumber a).le (c.primitiveNumber b)

theorem toNumber_number (x : Number) : c.toNumber (some (.number x)) = some x := rfl

theorem atMost_number (x y : Number) :
    c.atMost (some (.number x)) (some (.number y)) = some (x.le y) := rfl

end Coercion

end RcOnline.Lib
