import CardOcr.Json.Error

/-! # Expected shapes of JSON values

A `Shape` says what a typed reader expects: a boolean, an unsigned integer of some width, a
single or double precision number, an optional value, a sequence, a record with named
fields, or any value at all.  Reading against a shape yields a `Json` value in a normal form:
unsigned integers as `.nat`, numbers of either precision as doubles (single precision ones
rounded to single precision first), absent options as `null`, and records as objects that
hold only the known fields that were given.

`Shape.decodeValue` checks an already read value against a shape.  Records accept an object,
whose unknown keys are skipped, or an array that lists the fields in order and may stop
early; an array with more items than fields is refused.
-/

namespace CardOcr

/-- What a typed reader expects. -/
inductive Shape where
  /-- Any JSON value, kept as it is. -/
  | any
  | bool
  /-- An unsigned integer below `2 ^ bits`, named by its type. -/
  | uint (name : String) (bits : Nat)
  /-- A single precision number. -/
  | float32
  /-- A double precision number. -/
  | float64
  /-- `null` for no value, or a value of the inner shape. -/
  | option (s : Shape)
  | seq (s : Shape)
  /-- A record of named fields, each of which may be left out. -/
  | record (name : String) (fields : List (String × Shape))
  deriving Inhabited

namespace Shape

/-- Wording of what a shape expects, for error messages. -/
def expected : Shape → String
  | .any => "any valid JSON value"
  | .bool => "a boolean"
  | .uint name _ => name
  | .float32 => "f32"
  | .float64 => "f64"
  | .option _ => "option"
  | .seq _ => "a sequence"
  | .record name _ => "struct " ++ name

/-- A signed integer rounded to single precision. -/
def intToFloat32 (n : Int) : Float32 :=
  if n < 0 then -(n.natAbs.toUInt64.toFloat32) else n.toNat.toUInt64.toFloat32

/-- Checks a number against a shape: an integer of an unsigned shape must fit its width, and
    numbers of either precision accept integers and doubles, rounded to their precision. -/
def visitNumber (s : Shape) (n : JsonNumber) : Except DecodeProblem Json :=
  let found : Unexpected := Json.unexpected (.num n)
  match s, n with
  | .any, n => .ok (.num n)
  | .uint _ bits, .nat k => if k < Nat.pow 2 bits then .ok (.num (.nat k)) else .error (.invalidValue found s.expected)
  | .uint _ _, .neg _ => .error (.invalidValue found s.expected)
  | .float32, .nat k => .ok (.num (.float k.toUInt64.toFloat32.toFloat))
  | .float32, .neg k => .ok (.num (.float (intToFloat32 k).toFloat))
  | .float32, .float x => .ok (.num (.float x.toFloat32.toFloat))
  | .float64, .nat k => .ok (.num (.float k.toUInt64.toFloat))
  | .float64, .neg k => .ok (.num (.float (Float.ofInt k)))
  | .float64, .float x => .ok (.num (.float x))
  | s, _ => .error (.invalidType found s.expected)

/-- Whether a shape reads numbers. -/
def isNumeric : Shape → Bool
  | .uint _ _ | .float32 | .float64 => true
  | _ => false

/-- The shape of a named field of a record shape. -/
def fieldShape? (fields : List (String × Shape)) (k : String) : Option Shape :=
  fields.lookup k

mutual
/-- Checks a read value against a shape. -/
def decodeValue : Shape → Json → Except DecodeProblem Json
  | .any, j => .ok j
  | .bool, .bool b => .ok (.bool b)
  | .option _, .null => .ok .null
  | .option s, j => decodeValue s j
  | .seq s, .arr items => (decodeItems s items).map .arr
  | .record _ fields, .obj kvs => (decodeFields fields kvs).map Json.ofFields
  | .record _ fields, .arr items =>
    match decodeTuple fields items with
    | .error e => .error e
    | .ok kvs =>
      if items.length > fields.length then
        .error (.invalidLength items.length "fewer elements in array")
      else .ok (Json.ofFields kvs)
  | s, .num n => if s.isNumeric then s.visitNumber n else .error (.invalidType (Json.unexpected (.num n)) s.expected)
  | s, j => .error (.invalidType (Json.unexpected j) s.expected)

/-- Checks every item of a sequence. -/
def decodeItems (s : Shape) : List Json → Except DecodeProblem (List Json)
  | [] => .ok []
  | j :: rest => do
    let v ← decodeValue s j
    let vs ← decodeItems s rest
    return v :: vs

/-- Checks the known fields of an object, in its key order, and drops the unknown ones. -/
def decodeFields (fields : List (String × Shape)) :
    List (String × Json) → Except DecodeProblem (List (String × Json))
  | [] => .ok []
  | (k, j) :: rest =>
    match fieldShape? fields k with
    | some s => do
      let v ← decodeValue s j
      let vs ← decodeFields fields rest
      return (k, v) :: vs
    | none => decodeFields fields rest

/-- Checks the items of an array that lists record fields in order. -/
def decodeTuple : List (String × Shape) → List Json → Except DecodeProblem (List (String × Json))
  | (k, s) :: fields, j :: rest => do
    let v ← decodeValue s j
    let vs ← decodeTuple fields rest
    return (k, v) :: vs
  | _, _ => .ok []
end

end Shape

end CardOcr
