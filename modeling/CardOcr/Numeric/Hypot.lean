/-! # Hypotenuse of two doubles

`Float.hypot x y` is `√(x² + y²)` computed without intermediate overflow or underflow, the
way the common C library computes it: order the magnitudes so that `ax ≥ ay`, scale both by
`2 ^ ∓600` when `ax` is above `2 ^ 511` or `ay` below `2 ^ -511`, return `ax + ay` when `ay`
is below `ax · 2 ^ -54`, and otherwise take `h = √(ax² + ay²)` and correct it once by the
residual of `h² - ax² - ay²`, computed in two parts that are exact enough to bring `h`
within one unit of the last place.  Infinities win over NaN.
-/

namespace Float

/-- `2 ^ -600`, the scale for very large or very small operands. -/
def hypotScale : Float := Float.ofBits ((423 : UInt64) <<< 52)

/-- `h = √(ax² + ay²)` with one correction step, for `ax ≥ ay ≥ 0` whose squares and
    difference neither overflow nor underflow. -/
def hypotKernel (ax ay : Float) : Float :=
  let h := Float.sqrt (ax * ax + ay * ay)
  let (t1, t2) :=
    if h ≤ 2.0 * ay then
      let delta := h - ay
      (ax * (2.0 * delta - ax), (delta - 2.0 * (ax - ay)) * delta)
    else
      let delta := h - ax
      (2.0 * delta * (ax - 2.0 * ay), (4.0 * delta - ay) * ay + delta * delta)
  h - (t1 + t2) / (2.0 * h)

/-- `√(x² + y²)` without spurious overflow or underflow; infinite if either operand is,
    else NaN if either is. -/
def hypot (x y : Float) : Float :=
  if !x.isFinite || !y.isFinite then
    if x.isInf || y.isInf then 1.0 / 0.0 else x + y
  else
    let x := x.abs
    let y := y.abs
    let ax := if x < y then y else x
    let ay := if x < y then x else y
    let eps := Float.ofBits ((969 : UInt64) <<< 52)
    if ax > Float.ofBits ((1534 : UInt64) <<< 52) then
      if ay ≤ ax * eps then ax + ay
      else hypotKernel (ax * hypotScale) (ay * hypotScale) / hypotScale
    else if ay < Float.ofBits ((512 : UInt64) <<< 52) then
      if ax ≥ ay / eps then ax + ay
      else hypotKernel (ax / hypotScale) (ay / hypotScale) * hypotScale
    else if ay ≤ ax * eps then ax + ay
    else hypotKernel ax ay

end Float
