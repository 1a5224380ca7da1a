import RcOnline.Lib.Number

/-!
# JSON values

A parsed JSON value, with the field access of the host language: reading a field of anything that
is not an object gives nothing.
-/

namespace RcOnline.Lib

inductive Json where
  | null
  | bool (b : Bool)
  | number (x : Number)
  | string (s : String)
  | array (items : List Json)
  | object (fields : List (String × Json))

namespace Json

/-- The fields of an object: not null, and not an array. -/
def record? : Json → Option (List (String × Json))
  | .object fields => some fields
  | _ => none

/-- `value[name]`; none when it is undefined. -/
def field? (value : Json) (name : String) : Option Json :=
  value.record?.bind fun fields => (fields.find? (·.1 = name)).map Prod.snd

/-- `{ ...fields, [name]: value }`. -/
def withField (fields : List (String × Json)) (name : String) (value : Json) : Json :=
  .object ((fields.filter (·.1 ≠ name)) ++ [(name, value)])

end Json

end RcOnline.Lib
