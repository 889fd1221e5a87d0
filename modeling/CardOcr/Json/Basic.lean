/-! # JSON values

A JSON number keeps the class a reader gave it: an integer in `[0, 2 ^ 64)`, a negative
integer in `[-2 ^ 63, 0)`, or a double.  The class matters to typed decoding, which accepts
an integer where a whole number is expected and refuses a double there.

Objects keep one entry per key, in ascending key order, so that a later duplicate key
replaces an earlier one (`Json.insertField`) and lookups (`Json.field?`) see the last one.
-/

namespace CardOcr

/-- A JSON number as a reader classifies it. -/
inductive JsonNumber where
  /-- An integer in `[0, 2 ^ 64)`. -/
  | nat (n : Nat)
  /-- A negative integer in `[-2 ^ 63, 0)`. -/
  | neg (n : Int)
  /-- Any other number, read as a double. -/
  | float (x : Float)
  deriving Repr, Inhabited

/-- A JSON value.  Object fields are sorted by key, with no key twice. -/
inductive Json where
  | null
  | bool (b : Bool)
  | num (n : JsonNumber)
  | str (s : String)
  | arr (items : List Json)
  | obj (fields : List (String × Json))
  deriving Repr, Inhabited

namespace Json

/-- Inserts a field into a sorted field list, replacing a field of the same key. -/
def insertField (k : String) (v : Json) : List (String × Json) → List (String × Json)
  | [] => [(k, v)]
  | (k', v') :: rest =>
    if k < k' then (k, v) :: (k', v') :: rest
    else if k = k' then (k, v) :: rest
    else (k', v') :: insertField k v rest

/-- An object from fields in any order; of two fields with one key the later wins. -/
def ofFields (fields : List (String × Json)) : Json :=
  .obj (fields.foldl (fun acc (k, v) => insertField k v acc) [])

/-- The value of field `k` of an object. -/
def field? (j : Json) (k : String) : Option Json :=
  match j with
  | .obj fields => fields.lookup k
  | _ => none

/-- A field that is absent or `null` counts as not given. -/
def given? (j : Json) (k : String) : Option Json :=
  match j.field? k with
  | some .null => none
  | other => other

/-- The natural number of a non-negative integer (a double is not one). -/
def asNat? : Json → Option Nat
  | .num (.nat n) => some n
  | _ => none

/-- An integer value of either integer class. -/
def asInt? : Json → Option Int
  | .num (.nat n) => some n
  | .num (.neg n) => some n
  | _ => none

/-- The value of a number as a double; integers are rounded to the nearest double. -/
def asFloat? : Json → Option Float
  | .num (.nat n) => some (Float.ofNat n)
  | .num (.neg n) => some (Float.ofInt n)
  | .num (.float x) => some x
  | _ => none

def asBool? : Json → Option Bool
  | .bool b => some b
  | _ => none

def asString? : Json → Option String
  | .str s => some s
  | _ => none

def asList? : Json → Option (List Json)
  | .arr xs => some xs
  | _ => none

/-- A natural number as a JSON integer. -/
def ofNat (n : Nat) : Json := .num (.nat n)

/-- An integer as a JSON integer of the right class. -/
def ofInt (n : Int) : Json := if n < 0 then .num (.neg n) else .num (.nat n.toNat)

/-- A double as a JSON number. -/
def ofFloat (x : Float) : Json := .num (.float x)

end Json

end CardOcr
