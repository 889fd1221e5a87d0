import CardOcr.Decimal.Shortest

/-! # Fused multiply-add on doubles

The fused multiply-add `fma a b c` is the exact real `a · b + c` rounded once to the nearest
double.  It is computed here exactly: a finite double is the dyadic rational `± m · 2 ^ e`
(`Float.toDyadic`), sums and products of dyadics are exact in `Int`, and `roundDyadic`
rounds a dyadic (or a value just above it) to the nearest double, ties to even, with
subnormals and overflow to infinity.
-/

namespace CardOcr.Dyadic

/-- Number of binary digits of `n` (zero for zero). -/
def bitLength (n : Nat) : Nat :=
  if n = 0 then 0 else n.log2 + 1

/-- The double of sign `neg` nearest to a value `v` with `m · 2 ^ e ≤ v < (m + 1) · 2 ^ e`,
    where `v = m · 2 ^ e` unless `inexact`; ties go to the even mantissa.  An inexact value
    must carry at least two bits below the last place of its double. -/
def roundDyadic (neg : Bool) (m : Nat) (e : Int) (inexact : Bool) : Float :=
  let sign : UInt64 := if neg then 0x8000000000000000 else 0
  if m = 0 then Float.ofBits sign
  else
    let top : Int := e + bitLength m - 1
    let q : Int := max (top - 52) (-1074)
    let shift := q - e
    let (base, up) :=
      if shift ≤ 0 then (m * Nat.pow 2 (-shift).toNat, false)
      else
        let s := shift.toNat
        let rem := m % Nat.pow 2 s
        let half := Nat.pow 2 (s - 1)
        let base := m / Nat.pow 2 s
        (base, rem > half || (rem == half && (inexact || base % 2 == 1)))
    let mant := if up then base + 1 else base
    let (mant, q) := if mant = Nat.pow 2 53 then (Nat.pow 2 52, q + 1) else (mant, q)
    if q + 52 > 1023 then Float.ofBits (sign ||| 0x7FF0000000000000)
    else if q = -1074 then Float.ofBits (sign ||| mant.toUInt64)
    else Float.ofBits (sign ||| ((q + 1075).toNat.toUInt64 <<< 52) ||| (mant - Nat.pow 2 52).toUInt64)

end CardOcr.Dyadic

namespace Float

/-- A finite double as `(negative, m, e)` with value `± m · 2 ^ e`. -/
def toDyadic (x : Float) : Bool × Nat × Int :=
  let b := CardOcr.Decimal.Binary.ofFloat x
  (x.toBits >>> 63 == 1, b.mant, b.exp)

/-- A finite double as the integer `n` with value `n · 2 ^ e` at the exponent `e` given,
    which must not exceed the double's own. -/
def scaledInt (x : Float) (e : Int) : Int :=
  let (neg, m, ex) := x.toDyadic
  let v : Int := m * Nat.pow 2 (ex - e).toNat
  if neg then -v else v

/-- Fused multiply-add: `a · b + c` rounded once.  An exact zero result is negative only when
    both the product and `c` are negative zeros.  Non-finite operands give the unfused
    result.  A zero factor makes the product an exact zero, so the plain sum is exact; a zero
    `c` beside a non-zero product leaves the product rounded once, which is the plain
    product, also when it rounds to a zero of its own sign. -/
def fusedMulAdd (a b c : Float) : Float :=
  if !(a.isFinite && b.isFinite && c.isFinite) then a * b + c
  else if a == 0 || b == 0 then a * b + c
  else if c == 0 then a * b
  else
    let (na, ma, ea) := a.toDyadic
    let (nb, mb, eb) := b.toDyadic
    let (_, _, ec) := c.toDyadic
    let e := min (ea + eb) ec
    let prod : Int := (ma * mb : Nat) * Nat.pow 2 (ea + eb - e).toNat
    let prod := if na != nb then -prod else prod
    let total := prod + c.scaledInt e
    if total = 0 then
      if (ma * mb = 0 && na != nb) && (c == 0 && c.toBits >>> 63 == 1) then -0.0 else 0.0
    else CardOcr.Dyadic.roundDyadic (total < 0) total.natAbs e false

end Float
