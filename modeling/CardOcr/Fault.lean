import CardOcr.Unicode.Escape

/-! # Faults

A `Fault` is an unrecoverable failure of a computation: an arithmetic result outside the
range of its machine word, a division by zero, a missing value, a clamp to an empty range, a
read outside an image, a cut of a text inside a character, or a block of memory too large to
address.  It is not an error of the input that a caller handles; it ends the operation that
raised it.
`Fault.message` gives its wording.
-/

namespace CardOcr

/-- An unrecoverable failure of a computation. -/
inductive Fault where
  | addOverflow
  | subOverflow
  | mulOverflow
  | divByZero
  | remByZero
  /-- A value that had to be present was absent. -/
  | missingValue
  /-- A value was clamped to the range `[min, max]` whose lower bound is above its upper
      bound. -/
  | emptyClampRange (min max : Int)
  /-- Pixel `(x, y)` of a `width × height` image was read, outside the image. -/
  | pixelOutOfBounds (x y width height : Nat)
  /-- A text was cut from byte `index` on, inside character `c` that spans bytes
      `start .. stop` of the text. -/
  | notCharBoundary (index : Nat) (c : Char) (start stop : Nat)
  /-- A block of memory was asked for that is larger than the largest signed machine word. -/
  | capacityOverflow
  deriving Repr, Inhabited

/-- Wording of a fault. -/
def Fault.message : Fault → String
  | .addOverflow => "attempt to add with overflow"
  | .subOverflow => "attempt to subtract with overflow"
  | .mulOverflow => "attempt to multiply with overflow"
  | .divByZero => "attempt to divide by zero"
  | .remByZero => "attempt to calculate the remainder with a divisor of zero"
  | .missingValue => "called `Option::unwrap()` on a `None` value"
  | .emptyClampRange lo hi =>
    "min > max. min = " ++ toString lo ++ ", max = " ++ toString hi
  | .pixelOutOfBounds x y w h =>
    "Image index (" ++ toString x ++ ", " ++ toString y ++ ") out of bounds (" ++ toString w ++ ", " ++
      toString h ++ ")"
  | .notCharBoundary i c a b =>
    "start byte index " ++ toString i ++ " is not a char boundary; it is inside " ++
      c.debugLiteral ++ " (bytes " ++ toString a ++ ".." ++ toString b ++ " of string)"
  | .capacityOverflow => "capacity overflow"

/-- Words of `bits` bits: `a + b`, or an overflow fault. -/
def checkedAdd (bits a b : Nat) : Except Fault Nat :=
  if a + b < Nat.pow 2 bits then .ok (a + b) else .error .addOverflow

/-- Words of `bits` bits: `a * b`, or an overflow fault. -/
def checkedMul (bits a b : Nat) : Except Fault Nat :=
  if a * b < Nat.pow 2 bits then .ok (a * b) else .error .mulOverflow

/-- Unsigned words: `a - b`, or an overflow fault when `b > a`. -/
def checkedSub (a b : Nat) : Except Fault Nat :=
  if b ≤ a then .ok (a - b) else .error .subOverflow

/-- Checks that `n` elements of `size` bytes can be reserved at once: more bytes than the
    largest signed 64-bit word cannot be addressed. -/
def reserveCheck (n size : Nat) : Except Fault Unit :=
  if Nat.pow 2 63 ≤ n * size then .error .capacityOverflow else .ok ()

end CardOcr
