import CardOcr.Json.Shape

/-! # Reading JSON text against a shape

`Shape.readText s text` reads one value of shape `s` from UTF-8 text, and refuses anything
but blanks after it.  The reader is streaming: it checks each value against the shape as
soon as the value has been read, so that of a type error and a later syntax error the type
error is reported.  Every error carries the line and column where it was noticed.

Rules of the text:

* Blanks are space, tab, line feed and carriage return.
* Numbers: an integer below `2 ^ 64` is an unsigned integer, a negative one down to
  `-2 ^ 63` a signed integer, `-0` and every other number a double.  A double is computed
  from its decimal significand rounded to a double and scaled by one double power of ten
  (`fromParts`), so it may differ from the nearest double in the last place.
* Strings may not hold control characters; `\u` escapes must pair surrogates.
* Containers nest at most 127 deep.
* A record read from an object refuses a known field given twice; an unknown field's value
  is checked for syntax only (`skipValue`).
-/

namespace CardOcr.TextReader

section

variable (bs : ByteArray)

/-- The byte at index `i`, if the text has one. -/
def byte? (i : Nat) : Option UInt8 :=
  if h : i < bs.size then some bs[i] else none

/-- A syntax fault noticed before byte `i`. -/
def faultAt (i : Nat) (f : SyntaxFault) : DecodeError :=
  { problem := .malformed f, pos := some (TextPos.ofIndex bs i) }

/-- A syntax fault noticed while looking at byte `i`, reported after it. -/
def faultAhead (i : Nat) (f : SyntaxFault) : DecodeError :=
  faultAt bs (min (i + 1) bs.size) f

/-- Gives an error without a place the place before byte `i`. -/
def placeAt (i : Nat) (e : DecodeError) : DecodeError :=
  match e.pos with
  | some _ => e
  | none => { e with pos := some (TextPos.ofIndex bs i) }

/-- Whether a byte is an ASCII digit. -/
def isDigit (b : UInt8) : Bool := 48 ≤ b && b ≤ 57

/-- Index of the first byte at or after `i` that is not a blank. -/
def skipBlanks (i : Nat) : Nat :=
  if h : i < bs.size then
    let b := bs[i]
    if b = 32 || b = 9 || b = 10 || b = 13 then skipBlanks (i + 1) else i
  else i
termination_by bs.size - i

/-- Index of the first byte at or after `i` that is not a digit. -/
def skipDigits (i : Nat) : Nat :=
  if h : i < bs.size then
    if isDigit bs[i] then skipDigits (i + 1) else i
  else i
termination_by bs.size - i

/-- Reads the rest of a keyword whose first byte was read. -/
def readWord : Nat → List UInt8 → Except DecodeError Nat
  | i, [] => .ok i
  | i, w :: ws =>
    match byte? bs i with
    | none => .error (faultAt bs i .eofWhileParsingValue)
    | some b => if b = w then readWord (i + 1) ws else .error (faultAt bs (i + 1) .expectedSomeIdent)

end

/-- `"ull"`, `"rue"` and `"alse"`: the keywords after their first byte. -/
def wordNull : List UInt8 := [117, 108, 108]
def wordTrue : List UInt8 := [114, 117, 101]
def wordFalse : List UInt8 := [97, 108, 115, 101]

/-- The doubles nearest to `10 ^ k` for `k ≤ 308`. -/
def powersOfTen : Array Float :=
  (List.range 309).toArray.map (fun k => Float.ofScientific 1 false k)

/-- `f / 10 ^ e` by one division when `e ≤ 308`, else by `1e308` first; zero stays zero. -/
def scaleDown (f : Float) (e : Nat) : Float :=
  if e ≤ 308 then f / powersOfTen[e]!
  else if f == 0 then f
  else scaleDown (f / powersOfTen[308]!) (e - 308)
termination_by e
decreasing_by omega

/-- Largest and least values of a 32-bit signed exponent. -/
def expMax : Int := 2147483647
def expMin : Int := -2147483648

/-- Clamps an exponent to 32-bit signed range. -/
def clampExp (e : Int) : Int := max expMin (min expMax e)

section

variable (bs : ByteArray)

/-- `±significand · 10 ^ exponent` as a double: the significand is rounded to a double and
    scaled by a double power of ten; a result beyond the doubles is an error at `i`. -/
def fromParts (positive : Bool) (sig : Nat) (exp : Int) (i : Nat) : Except DecodeError Float :=
  let f := sig.toUInt64.toFloat
  let sign (x : Float) : Float := if positive then x else -x
  if exp ≥ 0 then
    if exp ≤ 308 then
      let g := f * powersOfTen[exp.toNat]!
      if g.isInf then .error (faultAt bs i .numberOutOfRange) else .ok (sign g)
    else if f == 0 then .ok (sign f)
    else .error (faultAt bs i .numberOutOfRange)
  else .ok (sign (scaleDown f (-exp).toNat))

/-- Reads exponent digits after the first one, from index `i`. -/
def exponentDigits (positive : Bool) (sig : Nat) (start : Int) (positiveExp : Bool)
    (e : Nat) (i : Nat) : Except DecodeError (Float × Nat) :=
  if h : i < bs.size then
    let c := bs[i]
    if isDigit c then
      let e' := e * 10 + (c - 48).toNat
      if (e' : Int) > expMax then
        if sig ≠ 0 && positiveExp then .error (faultAt bs (i + 1) .numberOutOfRange)
        else .ok (if positive then 0.0 else -0.0, skipDigits bs (i + 1))
      else exponentDigits positive sig start positiveExp e' (i + 1)
    else
      let final := clampExp (if positiveExp then start + e else start - e)
      (fromParts bs positive sig final i).map (·, i)
  else
    let final := clampExp (if positiveExp then start + e else start - e)
    (fromParts bs positive sig final i).map (·, i)
termination_by bs.size - i

/-- Reads an exponent part; `i` is the index of the `e` or `E`. -/
def readExponent (positive : Bool) (sig : Nat) (start : Int) (i : Nat) :
    Except DecodeError (Float × Nat) :=
  let j := i + 1
  let (positiveExp, j) :=
    match byte? bs j with
    | some 43 => (true, j + 1)
    | some 45 => (false, j + 1)
    | _ => (true, j)
  match byte? bs j with
  | none => .error (faultAt bs j .eofWhileParsingValue)
  | some c =>
    if isDigit c then exponentDigits bs positive sig start positiveExp (c - 48).toNat (j + 1)
    else .error (faultAt bs (j + 1) .invalidNumber)

/-- After the significand stopped growing: skips further digits, then reads an exponent or
    ends the number. -/
def afterOverflow (positive : Bool) (sig : Nat) (exp : Int) (i : Nat) :
    Except DecodeError (Float × Nat) :=
  let j := skipDigits bs i
  match byte? bs j with
  | some 101 | some 69 => readExponent bs positive sig exp j
  | _ => (fromParts bs positive sig exp j).map (·, j)

/-- Reads fraction digits from index `i`; `after` counts them, negated. -/
def fractionDigits (positive : Bool) (sig : Nat) (before after : Int) (i : Nat) :
    Except DecodeError (Float × Nat) :=
  if h : i < bs.size then
    let c := bs[i]
    if isDigit c then
      let d := (c - 48).toNat
      if sig * 10 + d ≥ Nat.pow 2 64 then afterOverflow bs positive sig (before + after) i
      else fractionDigits positive (sig * 10 + d) before (after - 1) (i + 1)
    else if after = 0 then .error (faultAhead bs i .invalidNumber)
    else if c = 101 || c = 69 then readExponent bs positive sig (before + after) i
    else (fromParts bs positive sig (before + after) i).map (·, i)
  else if after = 0 then .error (faultAhead bs i .eofWhileParsingValue)
  else (fromParts bs positive sig (before + after) i).map (·, i)
termination_by bs.size - i

/-- Reads a fraction; `i` is the index of the point. -/
def readFraction (positive : Bool) (sig : Nat) (before : Int) (i : Nat) :
    Except DecodeError (Float × Nat) :=
  fractionDigits bs positive sig before 0 (i + 1)

/-- Counts the integer digits beyond those that fit the significand. -/
def longInteger (positive : Bool) (sig : Nat) (exp : Nat) (i : Nat) :
    Except DecodeError (Float × Nat) :=
  if h : i < bs.size then
    let c := bs[i]
    if isDigit c then longInteger positive sig (exp + 1) (i + 1)
    else if c = 46 then readFraction bs positive sig exp i
    else if c = 101 || c = 69 then readExponent bs positive sig exp i
    else (fromParts bs positive sig exp i).map (·, i)
  else (fromParts bs positive sig exp i).map (·, i)
termination_by bs.size - i

/-- Ends a number after its integer digits: a fraction or exponent makes a double, else
    the integer is classified by sign and size. -/
def endNumber (positive : Bool) (sig : Nat) (i : Nat) : Except DecodeError (JsonNumber × Nat) :=
  match byte? bs i with
  | some 46 => (readFraction bs positive sig 0 i).map fun (x, j) => (.float x, j)
  | some 101 | some 69 => (readExponent bs positive sig 0 i).map fun (x, j) => (.float x, j)
  | _ =>
    if positive then .ok (.nat sig, i)
    else if sig = 0 || sig > Nat.pow 2 63 then .ok (.float (-(sig.toUInt64.toFloat)), i)
    else .ok (.neg (-(sig : Int)), i)

/-- Reads integer digits after the first, from index `i`. -/
def integerDigits (positive : Bool) (sig : Nat) (i : Nat) : Except DecodeError (JsonNumber × Nat) :=
  if h : i < bs.size then
    let c := bs[i]
    if isDigit c then
      let d := (c - 48).toNat
      if sig * 10 + d ≥ Nat.pow 2 64 then
        (longInteger bs positive sig 0 i).map fun (x, j) => (.float x, j)
      else integerDigits positive (sig * 10 + d) (i + 1)
    else endNumber bs positive sig i
  else endNumber bs positive sig i
termination_by bs.size - i

/-- Reads a number from its first digit at index `i` (after the minus sign, if any). -/
def readNumber (positive : Bool) (i : Nat) : Except DecodeError (JsonNumber × Nat) :=
  match byte? bs i with
  | none => .error (faultAt bs i .eofWhileParsingValue)
  | some 48 =>
    match byte? bs (i + 1) with
    | some c => if isDigit c then .error (faultAhead bs (i + 1) .invalidNumber) else endNumber bs positive 0 (i + 1)
    | none => endNumber bs positive 0 (i + 1)
  | some c =>
    if isDigit c then integerDigits bs positive (c - 48).toNat (i + 1)
    else .error (faultAt bs (i + 1) .invalidNumber)

/-- Checks the syntax of a number from its first digit at index `i`. -/
def skipNumber (i : Nat) : Except DecodeError Nat :=
  let afterExponent (j : Nat) : Except DecodeError Nat :=
    let j := match byte? bs (j + 1) with
      | some 43 | some 45 => j + 2
      | _ => j + 1
    match byte? bs j with
    | some c => if isDigit c then .ok (skipDigits bs (j + 1)) else .error (faultAt bs (j + 1) .invalidNumber)
    | none => .error (faultAt bs j .invalidNumber)
  let afterInteger (j : Nat) : Except DecodeError Nat :=
    match byte? bs j with
    | some 46 =>
      let k := skipDigits bs (j + 1)
      if k = j + 1 then .error (faultAhead bs k .invalidNumber)
      else match byte? bs k with
        | some 101 | some 69 => afterExponent k
        | _ => .ok k
    | some 101 | some 69 => afterExponent j
    | _ => .ok j
  match byte? bs i with
  | some 48 =>
    match byte? bs (i + 1) with
    | some c => if isDigit c then .error (faultAhead bs (i + 1) .invalidNumber) else afterInteger (i + 1)
    | none => afterInteger (i + 1)
  | some c => if isDigit c then afterInteger (skipDigits bs (i + 1)) else .error (faultAt bs (i + 1) .invalidNumber)
  | none => .error (faultAt bs i .invalidNumber)

/-- Value of a hexadecimal digit. -/
def hexValue? (b : UInt8) : Option Nat :=
  if 48 ≤ b && b ≤ 57 then some (b - 48).toNat
  else if 97 ≤ b && b ≤ 102 then some (b - 87).toNat
  else if 65 ≤ b && b ≤ 70 then some (b - 55).toNat
  else none

/-- Reads the four hexadecimal digits of a `\u` escape from index `i`. -/
def readHex4 (i : Nat) : Except DecodeError (Nat × Nat) :=
  if i + 4 ≤ bs.size then
    let ds := [bs.get! i, bs.get! (i + 1), bs.get! (i + 2), bs.get! (i + 3)].map hexValue?
    match ds with
    | [some a, some b, some c, some d] => .ok (((a * 16 + b) * 16 + c) * 16 + d, i + 4)
    | _ => .error (faultAt bs (i + 4) .invalidEscape)
  else .error (faultAt bs bs.size .eofWhileParsingString)

end

/-- Appends the UTF-8 bytes of a code point. -/
def pushUtf8 (out : ByteArray) (n : Nat) : ByteArray :=
  if n < 0x80 then out.push n.toUInt8
  else if n < 0x800 then
    (out.push (0xC0 + n / 64).toUInt8).push (0x80 + n % 64).toUInt8
  else if n < 0x10000 then
    ((out.push (0xE0 + n / 4096).toUInt8).push (0x80 + n / 64 % 64).toUInt8).push (0x80 + n % 64).toUInt8
  else
    (((out.push (0xF0 + n / 262144).toUInt8).push (0x80 + n / 4096 % 64).toUInt8).push
      (0x80 + n / 64 % 64).toUInt8).push (0x80 + n % 64).toUInt8

section

variable (bs : ByteArray)

/-- Reads a `\u` escape from its first hex digit at `i`; a leading surrogate must be followed
    by an escaped trailing one. -/
def readUnicodeEscape (out : ByteArray) (i : Nat) : Except DecodeError (ByteArray × Nat) := do
  let (n, j) ← readHex4 bs i
  if 0xDC00 ≤ n && n ≤ 0xDFFF then throw (faultAt bs j .loneLeadingSurrogateInHexEscape)
  if n < 0xD800 || n > 0xDBFF then return (pushUtf8 out n, j)
  match byte? bs j with
  | none => throw (faultAt bs j .eofWhileParsingString)
  | some 92 =>
    match byte? bs (j + 1) with
    | none => throw (faultAt bs (j + 1) .eofWhileParsingString)
    | some 117 =>
      let (n2, k) ← readHex4 bs (j + 2)
      if n2 < 0xDC00 || n2 > 0xDFFF then throw (faultAt bs k .loneLeadingSurrogateInHexEscape)
      return (pushUtf8 out (((n - 0xD800) * 1024 + (n2 - 0xDC00)) + 0x10000), k)
    | some _ => throw (faultAt bs (j + 2) .unexpectedEndOfHexEscape)
  | some _ => throw (faultAt bs (j + 1) .unexpectedEndOfHexEscape)

/-- Reads an escape from the byte after the backslash at `i`. -/
def readEscape (out : ByteArray) (i : Nat) : Except DecodeError (ByteArray × Nat) :=
  match byte? bs i with
  | none => .error (faultAt bs i .eofWhileParsingString)
  | some c =>
    let simple (b : UInt8) : Except DecodeError (ByteArray × Nat) := .ok (out.push b, i + 1)
    if c = 34 then simple 34
    else if c = 92 then simple 92
    else if c = 47 then simple 47
    else if c = 98 then simple 8
    else if c = 102 then simple 12
    else if c = 110 then simple 10
    else if c = 114 then simple 13
    else if c = 116 then simple 9
    else if c = 117 then readUnicodeEscape bs out (i + 1)
    else .error (faultAt bs (i + 1) .invalidEscape)

/-- Reads string bytes from `i` up to the closing quote; at most `fuel` more bytes. -/
def stringBytes : Nat → ByteArray → Nat → Except DecodeError (ByteArray × Nat)
  | 0, _, i => .error (faultAt bs i .eofWhileParsingString)
  | fuel + 1, out, i =>
    match byte? bs i with
    | none => .error (faultAt bs i .eofWhileParsingString)
    | some 34 => .ok (out, i + 1)
    | some 92 => do
      let (out, j) ← readEscape bs out (i + 1)
      stringBytes fuel out j
    | some c =>
      if c < 32 then .error (faultAt bs (i + 1) .controlCharacterWhileParsingString)
      else stringBytes fuel (out.push c) (i + 1)

/-- Reads a string whose opening quote is before index `i`. -/
def readString (i : Nat) : Except DecodeError (String × Nat) := do
  let (out, j) ← stringBytes bs (bs.size + 1) ByteArray.empty i
  return ((String.fromUTF8? out).getD "", j)

/-- Checks the syntax of a string whose opening quote is before index `i`. -/
def skipString : Nat → Nat → Except DecodeError Nat
  | 0, i => .error (faultAt bs i .eofWhileParsingString)
  | fuel + 1, i =>
    match byte? bs i with
    | none => .error (faultAt bs i .eofWhileParsingString)
    | some 34 => .ok (i + 1)
    | some 92 =>
      match byte? bs (i + 1) with
      | none => .error (faultAt bs (i + 1) .eofWhileParsingString)
      | some c =>
        if c = 34 || c = 92 || c = 47 || c = 98 || c = 102 || c = 110 || c = 114 || c = 116 then
          skipString fuel (i + 2)
        else if c = 117 then
          match readHex4 bs (i + 2) with
          | .ok (_, j) => skipString fuel j
          | .error e => .error e
        else .error (faultAt bs (i + 2) .invalidEscape)
    | some c =>
      if c < 32 then .error (faultAt bs i .controlCharacterWhileParsingString)
      else skipString fuel (i + 1)

/-- Where a value that is checked for syntax only stands: in an array or an object. -/
inductive Frame where
  | list
  | object
  deriving BEq

/-- The end of an unread value, checked for syntax only.  `stack` holds the containers the
    reader is inside; `inner` says whether the reader is between two items of the innermost
    one (`some afterItem`) rather than before a value. -/
def skipLoop : Nat → List Frame → Option Bool → Nat → Except DecodeError Nat
  | 0, _, _, i => .error (faultAt bs i .eofWhileParsingValue)
  | fuel + 1, stack, none, i =>
    let j := skipBlanks bs i
    let scalar (r : Except DecodeError Nat) : Except DecodeError Nat :=
      match r with
      | .error e => .error e
      | .ok k =>
        match stack with
        | [] => .ok k
        | _ => skipLoop fuel stack (some true) k
    match byte? bs j with
    | none => .error (faultAhead bs j .eofWhileParsingValue)
    | some 110 => scalar (readWord bs (j + 1) wordNull)
    | some 116 => scalar (readWord bs (j + 1) wordTrue)
    | some 102 => scalar (readWord bs (j + 1) wordFalse)
    | some 45 => scalar (skipNumber bs (j + 1))
    | some 34 => scalar (skipString bs (bs.size + 1) (j + 1))
    | some 91 => skipLoop fuel (.list :: stack) (some false) (j + 1)
    | some 123 => skipLoop fuel (.object :: stack) (some false) (j + 1)
    | some c =>
      if isDigit c then scalar (skipNumber bs j)
      else .error (faultAhead bs j .expectedSomeValue)
  | fuel + 1, stack, some afterItem, i =>
    match stack with
    | [] => .ok i
    | frame :: outer =>
      let j := skipBlanks bs i
      let closes (c : UInt8) : Bool := (c = 93 && frame == .list) || (c = 125 && frame == .object)
      let nextItem (k : Nat) : Except DecodeError Nat :=
        if frame == .object then
          let k := skipBlanks bs k
          match byte? bs k with
          | some 34 =>
            match skipString bs (bs.size + 1) (k + 1) with
            | .error e => .error e
            | .ok m =>
              let m := skipBlanks bs m
              match byte? bs m with
              | some 58 => skipLoop fuel stack none (m + 1)
              | some _ => .error (faultAhead bs m .expectedColon)
              | none => .error (faultAhead bs m .eofWhileParsingObject)
          | some _ => .error (faultAhead bs k .keyMustBeAString)
          | none => .error (faultAhead bs k .eofWhileParsingObject)
        else skipLoop fuel stack none k
      match byte? bs j with
      | none => .error (faultAhead bs j (if frame == .list then .eofWhileParsingList else .eofWhileParsingObject))
      | some c =>
        if c = 44 && afterItem then nextItem (j + 1)
        else if closes c then
          match outer with
          | [] => .ok (j + 1)
          | _ => skipLoop fuel outer (some true) (j + 1)
        else if afterItem then
          .error (faultAhead bs j (if frame == .list then .expectedListCommaOrEnd else .expectedObjectCommaOrEnd))
        else nextItem j

/-- Checks the syntax of one value from index `i` and returns the index after it. -/
def skipValue (i : Nat) : Except DecodeError Nat :=
  skipLoop bs (2 * bs.size + 4) [] none i

/-- The error for a value of the wrong kind that starts at index `i`: a scalar is read so
    that the error can show it, a container is not entered. -/
def wrongKind (s : Shape) (i : Nat) : DecodeError :=
  let wrong (found : Unexpected) (j : Nat) : DecodeError :=
    placeAt bs j { problem := .invalidType found s.expected }
  match byte? bs i with
  | some 110 => match readWord bs (i + 1) wordNull with
    | .ok j => wrong .null j
    | .error e => e
  | some 116 => match readWord bs (i + 1) wordTrue with
    | .ok j => wrong (.bool true) j
    | .error e => e
  | some 102 => match readWord bs (i + 1) wordFalse with
    | .ok j => wrong (.bool false) j
    | .error e => e
  | some 45 => match readNumber bs false (i + 1) with
    | .ok (n, j) => wrong (Json.unexpected (.num n)) j
    | .error e => e
  | some 34 => match readString bs (i + 1) with
    | .ok (str, j) => wrong (.str str) j
    | .error e => e
  | some 91 => wrong .seq i
  | some 123 => wrong .map i
  | some c =>
    if isDigit c then
      match readNumber bs true i with
      | .ok (n, j) => wrong (Json.unexpected (.num n)) j
      | .error e => e
    else faultAhead bs i .expectedSomeValue
  | none => faultAhead bs i .expectedSomeValue

/-- Closes an array at index `i`: only blanks may stand before the bracket. -/
def closeList (i : Nat) : Except DecodeError Nat :=
  let j := skipBlanks bs i
  match byte? bs j with
  | some 93 => .ok (j + 1)
  | some 44 =>
    let k := skipBlanks bs (j + 1)
    match byte? bs k with
    | some 93 => .error (faultAhead bs k .trailingComma)
    | _ => .error (faultAhead bs k .trailingCharacters)
  | some _ => .error (faultAhead bs j .trailingCharacters)
  | none => .error (faultAhead bs j .eofWhileParsingList)

/-- Closes an object at index `i`: only blanks may stand before the brace. -/
def closeObject (i : Nat) : Except DecodeError Nat :=
  let j := skipBlanks bs i
  match byte? bs j with
  | some 125 => .ok (j + 1)
  | some 44 => .error (faultAhead bs j .trailingComma)
  | some _ => .error (faultAhead bs j .trailingCharacters)
  | none => .error (faultAhead bs j .eofWhileParsingObject)

/-- Finds the next item of an array from index `i`: `none` at the closing bracket (not
    read), else the index of the item's first byte. -/
def nextItem (first : Bool) (i : Nat) : Except DecodeError (Option Nat) :=
  let j := skipBlanks bs i
  match byte? bs j with
  | none => .error (faultAhead bs j .eofWhileParsingList)
  | some 93 => .ok none
  | some 44 =>
    if first then .ok (some j)
    else
      let k := skipBlanks bs (j + 1)
      match byte? bs k with
      | some 93 => .error (faultAhead bs k .trailingComma)
      | some _ => .ok (some k)
      | none => .error (faultAhead bs k .eofWhileParsingValue)
  | some _ => if first then .ok (some j) else .error (faultAhead bs j .expectedListCommaOrEnd)

/-- Finds and reads the next key of an object from index `i`: `none` at the closing brace
    (not read), else the key and the index after its closing quote. -/
def nextKey (first : Bool) (i : Nat) : Except DecodeError (Option (String × Nat)) :=
  let j := skipBlanks bs i
  let key (k : Nat) : Except DecodeError (Option (String × Nat)) :=
    match byte? bs k with
    | some 34 => (readString bs (k + 1)).map some
    | some 125 => .error (faultAhead bs k .trailingComma)
    | some _ => .error (faultAhead bs k .keyMustBeAString)
    | none => .error (faultAhead bs k .eofWhileParsingValue)
  match byte? bs j with
  | none => .error (faultAhead bs j .eofWhileParsingObject)
  | some 125 => .ok none
  | some 44 => if first then key j else key (skipBlanks bs (j + 1))
  | some _ => if first then key j else .error (faultAhead bs j .expectedObjectCommaOrEnd)

/-- Reads the colon after a key. -/
def readColon (i : Nat) : Except DecodeError Nat :=
  let j := skipBlanks bs i
  match byte? bs j with
  | some 58 => .ok (j + 1)
  | some _ => .error (faultAhead bs j .expectedColon)
  | none => .error (faultAhead bs j .eofWhileParsingObject)

mutual
/-- Reads a value of shape `s` from index `i`; `depth` is the number of containers that may
    still be entered. -/
def readValue (depth : Nat) (s : Shape) (i : Nat) : Except DecodeError (Json × Nat) :=
  let j := skipBlanks bs i
  match byte? bs j with
  | none => .error (faultAhead bs j .eofWhileParsingValue)
  | some c =>
    match s with
    | .option inner =>
      if c = 110 then (readWord bs (j + 1) wordNull).map (.null, ·)
      else readValue depth inner j
    | .any =>
      if c = 110 then (readWord bs (j + 1) wordNull).map (.null, ·)
      else if c = 116 then (readWord bs (j + 1) wordTrue).map (.bool true, ·)
      else if c = 102 then (readWord bs (j + 1) wordFalse).map (.bool false, ·)
      else if c = 45 then (readNumber bs false (j + 1)).map fun (n, k) => (.num n, k)
      else if isDigit c then (readNumber bs true j).map fun (n, k) => (.num n, k)
      else if c = 34 then (readString bs (j + 1)).map fun (t, k) => (.str t, k)
      else if c = 91 || c = 123 then readContainer depth s c j
      else .error (faultAhead bs j .expectedSomeValue)
    | .bool =>
      if c = 116 then (readWord bs (j + 1) wordTrue).map (.bool true, ·)
      else if c = 102 then (readWord bs (j + 1) wordFalse).map (.bool false, ·)
      else .error (wrongKind bs s j)
    | .uint _ _ | .float32 | .float64 =>
      let num := if c = 45 then readNumber bs false (j + 1)
        else if isDigit c then readNumber bs true j
        else .error (wrongKind bs s j)
      match num with
      | .error e => .error e
      | .ok (n, k) =>
        match s.visitNumber n with
        | .ok v => .ok (v, k)
        | .error p => .error (placeAt bs k { problem := p })
    | .seq _ => if c = 91 then readContainer depth s c j else .error (wrongKind bs s j)
    | .record _ _ => if c = 91 || c = 123 then readContainer depth s c j else .error (wrongKind bs s j)
termination_by (depth, 1, sizeOf s)

/-- Reads an array or object that opens at index `j` with bracket `c`. -/
def readContainer (depth : Nat) (s : Shape) (c : UInt8) (j : Nat) : Except DecodeError (Json × Nat) :=
  match depth with
  | 0 | 1 => .error (faultAhead bs j .recursionLimitExceeded)
  | d + 1 =>
    match s, c with
    | .record _ fields, 91 => do
      let (kvs, k) ← readTuple d (bs.size + 1) fields true [] (j + 1)
      let k ← closeList bs k
      return (Json.ofFields kvs, k)
    | .record _ fields, _ => do
      let (kvs, k) ← readEntries d (bs.size + 1) (some fields) true [] (j + 1)
      let k ← closeObject bs k
      return (Json.ofFields kvs, k)
    | .seq item, _ => do
      let (items, k) ← readItems d (bs.size + 1) item true [] (j + 1)
      let k ← closeList bs k
      return (.arr items, k)
    | _, 91 => do
      let (items, k) ← readItems d (bs.size + 1) .any true [] (j + 1)
      let k ← closeList bs k
      return (.arr items, k)
    | _, _ => do
      let (kvs, k) ← readEntries d (bs.size + 1) none true [] (j + 1)
      let k ← closeObject bs k
      return (Json.ofFields kvs, k)
termination_by (depth, 0, 0)

/-- Reads the items of an array up to its closing bracket. -/
def readItems (depth fuel : Nat) (s : Shape) (first : Bool) (acc : List Json) (i : Nat) :
    Except DecodeError (List Json × Nat) :=
  match fuel with
  | 0 => .error (faultAt bs i .eofWhileParsingList)
  | fuel + 1 =>
    match nextItem bs first i with
    | .error e => .error e
    | .ok none => .ok (acc.reverse, i)
    | .ok (some j) =>
      match readValue depth s j with
      | .error e => .error e
      | .ok (v, k) => readItems depth fuel s false (v :: acc) k
termination_by (depth, fuel + 2, 0)

/-- Reads the fields of a record given as an array, in order, until the fields or the items
    run out. -/
def readTuple (depth fuel : Nat) (fields : List (String × Shape)) (first : Bool)
    (acc : List (String × Json)) (i : Nat) : Except DecodeError (List (String × Json) × Nat) :=
  match fuel, fields with
  | 0, _ => .error (faultAt bs i .eofWhileParsingList)
  | _, [] => .ok (acc.reverse, i)
  | fuel + 1, (name, s) :: rest =>
    match nextItem bs first i with
    | .error e => .error e
    | .ok none => .ok (acc.reverse, i)
    | .ok (some j) =>
      match readValue depth s j with
      | .error e => .error e
      | .ok (v, k) => readTuple depth fuel rest false ((name, v) :: acc) k
termination_by (depth, fuel + 2, 0)

/-- Reads the entries of an object up to its closing brace.  With `fields`, only those keys
    are read (each at most once) and the values of other keys are checked for syntax only;
    without, every value is read as any JSON value and a later key replaces an earlier one. -/
def readEntries (depth fuel : Nat) (fields : Option (List (String × Shape))) (first : Bool)
    (acc : List (String × Json)) (i : Nat) : Except DecodeError (List (String × Json) × Nat) :=
  match fuel with
  | 0 => .error (faultAt bs i .eofWhileParsingObject)
  | fuel + 1 =>
    match nextKey bs first i with
    | .error e => .error e
    | .ok none => .ok (acc.reverse, i)
    | .ok (some (key, j)) =>
      let shape? : Option Shape := match fields with
        | some fs => Shape.fieldShape? fs key
        | none => some .any
      match fields, shape? with
      | some _, some _ =>
        if (acc.lookup key).isSome then
          let k := skipBlanks bs j
          let k := if byte? bs k = some 125 then k + 1 else k
          .error { problem := .duplicateField key, pos := some (TextPos.ofIndex bs k) }
        else match readColon bs j with
          | .error e => .error e
          | .ok k =>
            match readValue depth (shape?.getD .any) k with
            | .error e => .error e
            | .ok (v, m) => readEntries depth fuel fields false ((key, v) :: acc) m
      | some _, none =>
        match readColon bs j with
        | .error e => .error e
        | .ok k =>
          match skipValue bs k with
          | .error e => .error e
          | .ok m => readEntries depth fuel fields false acc m
      | none, _ =>
        match readColon bs j with
        | .error e => .error e
        | .ok k =>
          match readValue depth .any k with
          | .error e => .error e
          | .ok (v, m) => readEntries depth fuel fields false ((key, v) :: acc) m
termination_by (depth, fuel + 2, 0)
end

end

end CardOcr.TextReader

namespace CardOcr

open TextReader in
/-- Reads one value of shape `s` from a text; only blanks may follow it. -/
def Shape.readText (s : Shape) (text : String) : Except DecodeError Json :=
  let bs := text.toUTF8
  match readValue bs 128 s 0 with
  | .error e => .error e
  | .ok (v, i) =>
    let j := skipBlanks bs i
    if j < bs.size then .error (faultAhead bs j .trailingCharacters) else .ok v

/-- Reads any JSON value from a text. -/
def Json.parse (text : String) : Except DecodeError Json :=
  Shape.any.readText text

end CardOcr
