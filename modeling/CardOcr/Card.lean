import CardOcr.Fault
import CardOcr.Json.Basic

/-! # Card reads

A `CardInfo` is the result of a scan: the card number as text, the left edge of each digit
on the deskewed card, the top of the number line, the expiry month and two-digit year (zero
when no expiry was read), and whether the card was upside down.

The number is checked with the Luhn rule (`luhnValid`): from the right, every second digit
is doubled and reduced by nine when above nine, and the digit sum must end in zero.  The sum
is taken in a 32-bit word, so a number whose digit sum reaches `2³²` overflows.  The
card network is read off the leading digits (`network`).
-/

namespace CardOcr

/-- Payment card networks, by number prefix. -/
inductive CardNetwork where
  | visa
  | mastercard
  | amex
  | discover
  | jcb
  | unknown
  deriving Repr, BEq, DecidableEq, Inhabited

/-- Name of a network. -/
def CardNetwork.name : CardNetwork → String
  | .visa => "Visa"
  | .mastercard => "Mastercard"
  | .amex => "Amex"
  | .discover => "Discover"
  | .jcb => "Jcb"
  | .unknown => "Unknown"

/-- Whether every character is an ASCII digit. -/
def allDigits (s : String) : Bool := s.toList.all Char.isDigit

/-- The weight of digit `d` at place `i` from the right in the Luhn sum: itself at an even
    place, doubled and less nine when that passes nine at an odd one. -/
def luhnWeight (i d : Nat) : Nat :=
  if i % 2 = 1 then (if d * 2 > 9 then d * 2 - 9 else d * 2) else d

/-- Whether a number passes the Luhn check: it is non-empty, all digits, and its Luhn digit
    sum is a multiple of ten.  The weights are added up from the right in a 32-bit word. -/
def luhnValid (s : String) : Except Fault Bool :=
  if s.isEmpty || !allDigits s then .ok false
  else do
    let digits := s.toList.reverse.map fun c => c.toNat - 48
    let sum ← (digits.mapIdx luhnWeight).foldlM (checkedAdd 32) 0
    return sum % 10 == 0

/-- The number formed by the first `len` characters, or zero when the text is shorter or
    they are not all digits. -/
def prefixValue (s : String) (len : Nat) : Nat :=
  let cs := s.toList
  if cs.length < len then 0
  else
    let p := cs.take len
    if p.all Char.isDigit then p.foldl (fun n c => n * 10 + (c.toNat - 48)) 0 else 0

/-- The network of a card number by its prefix. -/
def network (s : String) : CardNetwork :=
  let p2 := prefixValue s 2
  let p3 := prefixValue s 3
  let p4 := prefixValue s 4
  if s.startsWith "4" then .visa
  else if (51 ≤ p2 && p2 ≤ 55) || (2221 ≤ p4 && p4 ≤ 2720) then .mastercard
  else if p2 = 34 || p2 = 37 then .amex
  else if p4 = 6011 || p2 = 65 || (644 ≤ p3 && p3 ≤ 649) then .discover
  else if 3528 ≤ p4 && p4 ≤ 3589 then .jcb
  else .unknown

/-- A finished card read. -/
structure CardInfo where
  numbers : String
  xOffsets : List Nat
  yOffset : Nat
  expiryMonth : Nat
  expiryYear : Nat
  isFlipped : Bool
  deriving Repr, Inhabited

namespace CardInfo

/-- A read has an expiry when its month is not zero. -/
def hasExpiry (c : CardInfo) : Bool := c.expiryMonth != 0

def luhnValid (c : CardInfo) : Except Fault Bool := CardOcr.luhnValid c.numbers

def network (c : CardInfo) : CardNetwork := CardOcr.network c.numbers

/-- The text from byte `start` on; a cut inside a character is a fault. -/
def bytesFrom (s : String) (start : Nat) : Except Fault String :=
  let rec go : List Char → Nat → Except Fault String
    | [], _ => .ok ""
    | c :: cs, pos =>
      if pos = start then .ok (String.ofList (c :: cs))
      else if pos < start && start < pos + c.utf8Size then
        .error (.notCharBoundary start c pos (pos + c.utf8Size))
      else go cs (pos + c.utf8Size)
  go s.toList 0

/-- The number with all but its last four bytes masked: four bullets, a blank, the last
    four bytes. -/
def redacted (c : CardInfo) : Except Fault String := do
  let n := c.numbers.utf8ByteSize
  let tail ← bytesFrom c.numbers (n - 4)
  return "•••• " ++ tail

/-- A number with at least two digits, zero-padded. -/
def pad2 (n : Nat) : String :=
  if n < 10 then "0" ++ toString n else toString n

/-- The masked number, and ` exp MM/YY` when the read has an expiry. -/
def display (c : CardInfo) : Except Fault String := do
  let r ← c.redacted
  return if c.hasExpiry then r ++ " exp " ++ pad2 c.expiryMonth ++ "/" ++ pad2 c.expiryYear else r

/-- The fields of a read under their record keys. -/
def toJson (c : CardInfo) : Json :=
  Json.ofFields [("numbers", .str c.numbers), ("x_offsets", .arr (c.xOffsets.map .ofNat)),
    ("y_offset", .ofNat c.yOffset), ("expiry_year", .ofNat c.expiryYear),
    ("expiry_month", .ofNat c.expiryMonth), ("is_flipped", .bool c.isFlipped)]

end CardInfo

end CardOcr
