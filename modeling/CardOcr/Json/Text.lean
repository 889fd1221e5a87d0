import CardOcr.Json.Basic
import CardOcr.Decimal.Shortest

/-! # JSON text of a value

`Json.render` writes a value compactly: no blanks, object fields in their stored (sorted)
order; `Json.renderPretty` writes it over indented lines.  Strings escape the quote, the
backslash and the control characters; all other characters are written as they are.  A double is written as its shortest round-trip
decimal (`Float.toShortestText`), and since JSON has no non-finite numbers, NaN and the
infinities are written as the strings `"NaN"`, `"Infinity"` and `"-Infinity"`.
-/

namespace CardOcr.Json

/-- Hexadecimal digit of a value below sixteen, lowercase. -/
def hexDigit (n : Nat) : Char :=
  if n < 10 then Char.ofNat (48 + n) else Char.ofNat (87 + n)

/-- JSON escape of one character inside a string. -/
def escapeChar (c : Char) : String :=
  if c = '"' then "\\\""
  else if c = '\\' then "\\\\"
  else if c = '\n' then "\\n"
  else if c = '\r' then "\\r"
  else if c = '\t' then "\\t"
  else if c.toNat = 8 then "\\b"
  else if c.toNat = 12 then "\\f"
  else if c.toNat < 32 then
    "\\u00" ++ String.singleton (hexDigit (c.toNat / 16)) ++ String.singleton (hexDigit (c.toNat % 16))
  else String.singleton c

/-- A string in double quotes, escaped. -/
def quote (s : String) : String :=
  "\"" ++ String.join (s.toList.map escapeChar) ++ "\""

/-- Text of a number. -/
def numberText : JsonNumber → String
  | .nat n => toString n
  | .neg n => toString n
  | .float x =>
    if x.isNaN then "\"NaN\""
    else if x.isInf then (if x > 0 then "\"Infinity\"" else "\"-Infinity\"")
    else x.toShortestText

mutual
/-- `out` followed by the compact JSON text of a value.  Text is only ever appended to the
    end of `out`, so writing a value takes time linear in its text. -/
def renderTo (out : String) : Json → String
  | .null => out ++ "null"
  | .bool b => out ++ (if b then "true" else "false")
  | .num n => out ++ numberText n
  | .str s => out ++ quote s
  | .arr items => renderItemsTo (out ++ "[") items ++ "]"
  | .obj fields => renderFieldsTo (out ++ "\x7b") fields ++ "\x7d"

/-- `out` followed by the comma-separated texts of array items. -/
def renderItemsTo (out : String) : List Json → String
  | [] => out
  | [x] => renderTo out x
  | x :: rest => renderItemsTo (renderTo out x ++ ",") rest

/-- `out` followed by the comma-separated `"key":value` texts of object fields. -/
def renderFieldsTo (out : String) : List (String × Json) → String
  | [] => out
  | [(k, v)] => renderTo (out ++ quote k ++ ":") v
  | (k, v) :: rest => renderFieldsTo (renderTo (out ++ quote k ++ ":") v ++ ",") rest
end

/-- Compact JSON text of a value. -/
def render (j : Json) : String := renderTo "" j

/-- Blanks that indent a line by `depth` levels of two spaces. -/
def indent (depth : Nat) : String := String.ofList (List.replicate (2 * depth) ' ')

mutual
/-- `out` followed by the indented JSON text of a value: each array item and object field on
    a line of its own, two spaces deeper than its container, and `": "` after a key; empty
    containers stay `[]` and `{}`. -/
def renderPrettyTo (out : String) (depth : Nat) : Json → String
  | .arr [] => out ++ "[]"
  | .obj [] => out ++ "\x7b\x7d"
  | .arr items => prettyItemsTo (out ++ "[\n") (depth + 1) items ++ "\n" ++ indent depth ++ "]"
  | .obj fields =>
    prettyFieldsTo (out ++ "\x7b\n") (depth + 1) fields ++ "\n" ++ indent depth ++ "\x7d"
  | j => renderTo out j

/-- `out` followed by indented array items at `depth`, one a line. -/
def prettyItemsTo (out : String) (depth : Nat) : List Json → String
  | [] => out
  | [x] => renderPrettyTo (out ++ indent depth) depth x
  | x :: rest => prettyItemsTo (renderPrettyTo (out ++ indent depth) depth x ++ ",\n") depth rest

/-- `out` followed by indented object fields at `depth`, one a line. -/
def prettyFieldsTo (out : String) (depth : Nat) : List (String × Json) → String
  | [] => out
  | [(k, v)] => renderPrettyTo (out ++ indent depth ++ quote k ++ ": ") depth v
  | (k, v) :: rest =>
    prettyFieldsTo (renderPrettyTo (out ++ indent depth ++ quote k ++ ": ") depth v ++ ",\n")
      depth rest
end

/-- Indented JSON text of a value, its outer lines at `depth`. -/
def renderPretty (depth : Nat) (j : Json) : String := renderPrettyTo "" depth j

end CardOcr.Json
