/-! # Shortest decimal text of a double

A finite double is a dyadic rational `m · 2 ^ e`.  Every real number in a small interval
around it rounds back to it; the *shortest* decimal text of the double is the decimal with
the fewest significant digits inside that interval, the nearer one to the double when two
share that length.

This file decodes the bits of a double (`Binary.ofFloat`), finds that decimal with exact
`Nat` arithmetic (`Binary.shortest`), and lays it out as JSON number text (`Float.toJsonText`):
positional between `1e-5` and `1e16`, scientific outside, always with a point or an exponent
so that a reader sees a double and not an integer.

The comparison `scaledCmp a p b q` of `a · 10 ^ p` with `b · 2 ^ q` is the only primitive:
both sides are moved to non-negative exponents before they are multiplied out.
-/

namespace CardOcr.Decimal

/-- Compares `a · 10 ^ p` with `b · 2 ^ q` exactly, by moving each negative exponent to the
    other side. -/
def scaledCmp (a : Nat) (p : Int) (b : Nat) (q : Int) : Ordering :=
  compare (a * Nat.pow 10 p.toNat * Nat.pow 2 (-q).toNat) (b * Nat.pow 2 q.toNat * Nat.pow 10 (-p).toNat)

/-- Decimal digits of `n`, most significant first. -/
def digitString (n : Nat) : String :=
  String.ofList (Nat.toDigits 10 n)

/-- `n` without its trailing decimal zeros, with the number of zeros removed. -/
def stripZeros (n : Nat) : Nat × Nat :=
  if n = 0 then (0, 0)
  else if n % 10 = 0 then
    let r := stripZeros (n / 10)
    (r.1, r.2 + 1)
  else (n, 0)
termination_by n
decreasing_by omega

/-- A finite, non-zero double without its sign: the value is `mant · 2 ^ exp`, and
    `lowerHalf` says that the next double below lies half as far as the next one above
    (the mantissa is a power of two above the least normal exponent). -/
structure Binary where
  mant : Nat
  exp : Int
  lowerHalf : Bool
  deriving Repr

/-- Decodes the magnitude of a double from its bits.  Subnormals have exponent `-1074` and
    no hidden bit. -/
def Binary.ofFloat (x : Float) : Binary :=
  let b := x.toBits
  let frac := (b &&& 0xFFFFFFFFFFFFF).toNat
  let e := ((b >>> 52) &&& 0x7FF).toNat
  if e = 0 then ⟨frac, -1074, false⟩
  else ⟨frac + Nat.pow 2 52, (e : Int) - 1075, frac = 0 && e > 1⟩

/-- Exponent `d` with `10 ^ d ≤ v < 10 ^ (d + 1)` for the value `v` of a binary with a
    non-zero mantissa.  With `2 ^ b ≤ v < 2 ^ (b + 1)`, `d` is `⌊b log₁₀ 2⌋` or one more, and
    one exact comparison with the next power of ten tells which.  The floor is taken with
    `1292913986 / 2 ^ 32`, within `2 · 10⁻¹⁰` of `log₁₀ 2`: over the exponents of doubles
    that error stays far below the least distance of `b log₁₀ 2` from an integer (about
    `4 · 10⁻⁴`, at `b = ±485`), so the floor is exact. -/
def Binary.decimalExponent (v : Binary) : Int :=
  let b : Int := (v.mant.log2 : Int) + v.exp
  let d : Int := b * 1292913986 / 4294967296
  if scaledCmp 1 (d + 1) v.mant v.exp == .gt then d else d + 1

/-- Whether `c · 10 ^ k` rounds to the double `v`: it lies strictly between the midpoints to
    the neighbouring doubles, or on one of them when the mantissa is even (ties go to even). -/
def Binary.roundsBack (v : Binary) (c : Nat) (k : Int) : Bool :=
  let lowGap : Nat := if v.lowerHalf then 1 else 2
  let lo := scaledCmp c k (4 * v.mant - lowGap) (v.exp - 2)
  let hi := scaledCmp c k (4 * v.mant + 2) (v.exp - 2)
  let even := v.mant % 2 = 0
  (lo == .gt || (lo == .eq && even)) && (hi == .lt || (hi == .eq && even))

/-- The decimals of `n` significant digits nearest to `v` on either side, as a multiplier of
    `10 ^ k`, and `k`. -/
def Binary.gridBelow (v : Binary) (n : Nat) : Nat × Int :=
  let k := v.decimalExponent - n + 1
  let num := v.mant * Nat.pow 2 v.exp.toNat * Nat.pow 10 (-k).toNat
  let den := Nat.pow 2 (-v.exp).toNat * Nat.pow 10 k.toNat
  (num / den, k)

/-- Of two decimals `c · 10 ^ k` and `(c + 1) · 10 ^ k` around `v`, the nearer; an exact tie
    goes to the even multiplier. -/
def Binary.nearer (v : Binary) (c : Nat) (k : Int) : Nat :=
  match scaledCmp (2 * c + 1) k (2 * v.mant) v.exp with
  | .gt => c
  | .lt => c + 1
  | .eq => if c % 2 = 0 then c else c + 1

/-- The shortest decimal `c · 10 ^ k` that rounds back to `v`, trying one significant digit
    more at each step up to seventeen, which always suffice for a double. -/
def Binary.shortestFrom (v : Binary) : Nat → Nat → Nat × Int
  | 0, _ => (0, 0)
  | fuel + 1, n =>
    let (c, k) := v.gridBelow n
    let below := v.roundsBack c k
    let above := v.roundsBack (c + 1) k
    if below && above then (v.nearer c k, k)
    else if below then (c, k)
    else if above then (c + 1, k)
    else v.shortestFrom fuel (n + 1)

/-- Shortest round-trip digits of `v` without trailing zeros: the value of the text is
    `digits · 10 ^ exponent`. -/
def Binary.shortest (v : Binary) : Nat × Int :=
  let (c, k) := v.shortestFrom 17 1
  let (d, z) := stripZeros c
  (d, k + z)

/-- Lays out `digits · 10 ^ k` the way JSON writers of doubles do: positional when the
    decimal point falls within sixteen places of the first digit and at most five zeros
    follow it, scientific (`1.5e-7`, `1e+300`) otherwise, with the exponent always signed. -/
def layout (digits : Nat) (k : Int) : String :=
  let s := digitString digits
  let len : Int := s.length
  let kk := len + k
  let zeros (n : Int) : String := String.ofList (List.replicate n.toNat '0')
  if 0 ≤ k && kk ≤ 16 then s ++ zeros k ++ ".0"
  else if 0 < kk && kk ≤ 16 then
    String.ofList (s.toList.take kk.toNat) ++ "." ++ String.ofList (s.toList.drop kk.toNat)
  else if -5 < kk && kk ≤ 0 then "0." ++ zeros (-kk) ++ s
  else
    let exp := if kk - 1 < 0 then toString (kk - 1) else "+" ++ toString (kk - 1)
    match s.toList with
    | [c] => String.singleton c ++ "e" ++ exp
    | c :: rest => String.singleton c ++ "." ++ String.ofList rest ++ "e" ++ exp
    | [] => "0e" ++ exp

/-- Lays out `digits · 10 ^ k` positionally with no exponent and no point for a whole
    number: `64`, `12.5`, `0.001`. -/
def plainLayout (digits : Nat) (k : Int) : String :=
  let s := digitString digits
  let kk := (s.length : Int) + k
  let zeros (n : Int) : String := String.ofList (List.replicate n.toNat '0')
  if 0 ≤ k then s ++ zeros k
  else if 0 < kk then
    String.ofList (s.toList.take kk.toNat) ++ "." ++ String.ofList (s.toList.drop kk.toNat)
  else "0." ++ zeros (-kk) ++ s

end CardOcr.Decimal

namespace Float

open CardOcr.Decimal in
/-- Shortest decimal text that reads back as this double, with `-` for a set sign bit;
    zero is `0.0`, and the non-finite values are `NaN`, `inf` and `-inf`. -/
def toShortestText (x : Float) : String :=
  if x.isNaN then "NaN"
  else
    let neg := x.toBits >>> 63 == 1
    let sign := if neg then "-" else ""
    if x.isInf then sign ++ "inf"
    else if x == 0 then sign ++ "0.0"
    else
      let (d, k) := (Binary.ofFloat x).shortest
      sign ++ layout d k

open CardOcr.Decimal in
/-- Shortest decimal text that reads back as this double, always positional and without a
    point for a whole number (`64`, `-0`, `0.0000001`); the non-finite values are `NaN`,
    `inf` and `-inf`. -/
def toPlainText (x : Float) : String :=
  if x.isNaN then "NaN"
  else
    let sign := if x.toBits >>> 63 == 1 then "-" else ""
    if x.isInf then sign ++ "inf"
    else if x == 0 then sign ++ "0"
    else
      let (d, k) := (Binary.ofFloat x).shortest
      sign ++ plainLayout d k

end Float
