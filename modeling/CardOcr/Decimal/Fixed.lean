import CardOcr.Decimal.Shortest

/-! # Decimal text of a double with a fixed number of places

`Float.toFixedText p x` writes the exact binary value of `x` rounded to `p` decimal places.
The rounding is done on the exact dyadic value with `Nat` arithmetic: a remainder above one
half rounds up, an exact half goes to the even last digit.  A set sign bit is always written,
so `-0.04` with one place is `-0.0`.
-/

namespace CardOcr.Decimal

/-- `num / den` rounded to the nearest natural number, an exact half to the even one. -/
def roundHalfEven (num den : Nat) : Nat :=
  let q := num / den
  let r := num % den
  if 2 * r > den || (2 * r == den && q % 2 == 1) then q + 1 else q

/-- The magnitude of `v` times `10 ^ places`, rounded half to even. -/
def Binary.scaledRound (v : Binary) (places : Nat) : Nat :=
  roundHalfEven (v.mant * Nat.pow 2 v.exp.toNat * Nat.pow 10 places) (Nat.pow 2 (-v.exp).toNat)

/-- Writes `n / 10 ^ places` with exactly `places` digits after the point (none and no point
    when `places` is zero). -/
def pointText (n places : Nat) : String :=
  let whole := n / Nat.pow 10 places
  if places = 0 then digitString whole
  else
    let frac := digitString (n % Nat.pow 10 places)
    digitString whole ++ "." ++
      String.ofList (List.replicate (places - frac.length) '0') ++ frac

end CardOcr.Decimal

namespace Float

open CardOcr.Decimal in
/-- The value rounded to `places` decimals (ties to even), with `-` for a set sign bit, and
    `NaN`, `inf`, `-inf` for the non-finite values. -/
def toFixedText (places : Nat) (x : Float) : String :=
  if x.isNaN then "NaN"
  else
    let sign := if x.toBits >>> 63 == 1 then "-" else ""
    if x.isInf then sign ++ "inf"
    else if x == 0 then sign ++ pointText 0 places
    else sign ++ pointText ((Binary.ofFloat x).scaledRound places) places

end Float
