import CardOcr.Unicode.Tables

/-! # Debug text of characters and strings

Debug text shows a character or a string in quotes so that every character can be told
apart: the characters that show nothing or change the look of their neighbours are written as
escapes.  The rule for one character, in order:

* the null character, tab, carriage return, line feed and backslash have their short escapes
  (`\0`, `\t`, `\r`, `\n`, `\\`), and so has the quote that delimits the text;
* a grapheme extender is written `\u{…}` with its code point in lowercase hexadecimal, since
  shown as itself it would merge into the character before it, or into the opening quote;
* any other printable character is written as itself, and the rest as `\u{…}`.

A string is quoted with `"` and a character with `'`; the other quote stays as it is.
-/

namespace Char

/-- Lowercase hexadecimal digits of `n`, without leading zeros. -/
def lowerHex (n : Nat) : String :=
  String.ofList ((Nat.toDigits 16 n).map Char.toLower)

/-- The escape of a character by its code point: a backslash, `u`, and the code point in
    lowercase hexadecimal between braces. -/
def unicodeEscape (c : Char) : String :=
  "\\u" ++ "\x7b" ++ lowerHex c.toNat ++ "\x7d"

/-- How `c` is written inside debug text delimited by `quote`. -/
def debugEscape (quote c : Char) : String :=
  if c = '\x00' then "\\0"
  else if c = '\t' then "\\t"
  else if c = '\r' then "\\r"
  else if c = '\n' then "\\n"
  else if c = '\\' then "\\\\"
  else if c = quote then "\\" ++ String.singleton c
  else if c.isGraphemeExtend then c.unicodeEscape
  else if c.isPrintable then String.singleton c
  else c.unicodeEscape

/-- A character as debug text: escaped and in single quotes. -/
def debugLiteral (c : Char) : String :=
  "'" ++ debugEscape '\'' c ++ "'"

end Char

namespace String

/-- A string as debug text: each character escaped, in double quotes. -/
def debugQuoted (s : String) : String :=
  "\"" ++ String.join (s.toList.map (Char.debugEscape '"')) ++ "\""

end String
