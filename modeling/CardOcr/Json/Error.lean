import CardOcr.Json.Basic
import CardOcr.Decimal.Shortest
import CardOcr.Unicode.Escape

/-! # Errors of reading and decoding JSON

A reading error is a syntax fault of the text (`SyntaxFault`) or a value of the wrong kind
for the expected type (`DecodeProblem.invalidType` and its siblings).  Errors found in a text
carry the line and column where they were noticed (`TextPos`); errors found in an already
read value carry none.

`DecodeError.message` is the text of an error: the fault, then ` at line L column C` when a
position is known.
-/

namespace CardOcr

/-- A place in a text: lines count from one, columns count the bytes of the line before the
    place, so that the first byte of a line is at column zero before it is read. -/
structure TextPos where
  line : Nat
  column : Nat
  deriving Repr, BEq, Inhabited

/-- Position just before byte `i` of `bs`: one line per line feed before it, and the bytes
    after the last of them. -/
def TextPos.ofIndex (bs : ByteArray) (i : Nat) : TextPos :=
  (List.range (min i bs.size)).foldl
    (fun p j => if bs.get! j = 10 then ⟨p.line + 1, 0⟩ else ⟨p.line, p.column + 1⟩) ⟨1, 0⟩

/-- Syntax faults of JSON text. -/
inductive SyntaxFault where
  | eofWhileParsingList
  | eofWhileParsingObject
  | eofWhileParsingString
  | eofWhileParsingValue
  | expectedColon
  | expectedListCommaOrEnd
  | expectedObjectCommaOrEnd
  | expectedSomeIdent
  | expectedSomeValue
  | invalidEscape
  | invalidNumber
  | numberOutOfRange
  | controlCharacterWhileParsingString
  | keyMustBeAString
  | loneLeadingSurrogateInHexEscape
  | trailingComma
  | trailingCharacters
  | unexpectedEndOfHexEscape
  | recursionLimitExceeded
  deriving Repr, BEq, Inhabited

/-- Wording of a syntax fault. -/
def SyntaxFault.message : SyntaxFault → String
  | .eofWhileParsingList => "EOF while parsing a list"
  | .eofWhileParsingObject => "EOF while parsing an object"
  | .eofWhileParsingString => "EOF while parsing a string"
  | .eofWhileParsingValue => "EOF while parsing a value"
  | .expectedColon => "expected `:`"
  | .expectedListCommaOrEnd => "expected `,` or `]`"
  | .expectedObjectCommaOrEnd => "expected `,` or `\x7d`"
  | .expectedSomeIdent => "expected ident"
  | .expectedSomeValue => "expected value"
  | .invalidEscape => "invalid escape"
  | .invalidNumber => "invalid number"
  | .numberOutOfRange => "number out of range"
  | .controlCharacterWhileParsingString =>
    "control character (\\u0000-\\u001F) found while parsing a string"
  | .keyMustBeAString => "key must be a string"
  | .loneLeadingSurrogateInHexEscape => "lone leading surrogate in hex escape"
  | .trailingComma => "trailing comma"
  | .trailingCharacters => "trailing characters"
  | .unexpectedEndOfHexEscape => "unexpected end of hex escape"
  | .recursionLimitExceeded => "recursion limit exceeded"

/-- What was found where a value of another type was expected. -/
inductive Unexpected where
  | null
  | bool (b : Bool)
  | unsigned (n : Nat)
  | signed (n : Int)
  | float (x : Float)
  | str (s : String)
  | seq
  | map
  deriving Repr, Inhabited

/-- Wording of a found value: its kind, and the value itself for scalars. -/
def Unexpected.message : Unexpected → String
  | .null => "null"
  | .bool b => "boolean `" ++ (if b then "true" else "false") ++ "`"
  | .unsigned n => "integer `" ++ toString n ++ "`"
  | .signed n => "integer `" ++ toString n ++ "`"
  | .float x => "floating point `" ++ x.toShortestText ++ "`"
  | .str s => "string " ++ s.debugQuoted
  | .seq => "sequence"
  | .map => "map"

/-- What a value was found to be, as a JSON value. -/
def Json.unexpected : Json → Unexpected
  | .null => .null
  | .bool b => .bool b
  | .num (.nat n) => .unsigned n
  | .num (.neg n) => .signed n
  | .num (.float x) => .float x
  | .str s => .str s
  | .arr _ => .seq
  | .obj _ => .map

/-- The faults of reading a typed value from JSON. -/
inductive DecodeProblem where
  | malformed (f : SyntaxFault)
  /-- A value of the wrong kind, with the wording of the expected type. -/
  | invalidType (got : Unexpected) (expected : String)
  /-- A value of the right kind out of the expected range. -/
  | invalidValue (got : Unexpected) (expected : String)
  /-- A sequence of the wrong length. -/
  | invalidLength (n : Nat) (expected : String)
  /-- A record field given twice. -/
  | duplicateField (name : String)
  deriving Repr, Inhabited

/-- Wording of a decoding fault. -/
def DecodeProblem.message : DecodeProblem → String
  | .malformed f => f.message
  | .invalidType got e => "invalid type: " ++ got.message ++ ", expected " ++ e
  | .invalidValue got e => "invalid value: " ++ got.message ++ ", expected " ++ e
  | .invalidLength n e => "invalid length " ++ toString n ++ ", expected " ++ e
  | .duplicateField name => "duplicate field `" ++ name ++ "`"

/-- A decoding fault, with the place in the text where it was noticed, if it came from a
    text. -/
structure DecodeError where
  problem : DecodeProblem
  pos : Option TextPos := none
  deriving Repr, Inhabited

/-- Text of a decoding error. -/
def DecodeError.message (e : DecodeError) : String :=
  match e.pos with
  | some p => e.problem.message ++ " at line " ++ toString p.line ++ " column " ++ toString p.column
  | none => e.problem.message

end CardOcr
