import CardOcr.Linear.Square

/-! # Householder reduction of a symmetric matrix

`SquareMatrix.householder` reduces a symmetric matrix to tridiagonal form `Qᵀ A Q = T` by
`dim - 1` Householder reflections, reading and updating only the lower triangle.  Step `i`
turns the part of column `i` below the diagonal into a reflection axis `v` (scaled so that
the reflection is `I - v vᵀ`), stores `v` in place of that column part, and applies the
reflection to the trailing block `B` as the symmetric rank-two update
`B - p vᵀ - v pᵀ + 2 (v · p) v vᵀ` with `p = 2 B v`.

`HouseholderForm.assembleQ` multiplies the stored reflections back together, last first, into
the orthogonal `Q`; the sign of each off-diagonal value orients its reflection.
-/

namespace Float

/-- Sign of a double as `±1` (a zero counts by its sign bit); NaN stays NaN. -/
def signum (x : Float) : Float :=
  if x.isNaN then x else if x.toBits >>> 63 == 1 then -1.0 else 1.0

end Float

namespace CardOcr

/-- A symmetric matrix in reduced form: the diagonal of `packed` is the diagonal of the
    tridiagonal matrix, the column parts below its subdiagonal hold the reflection axes, and
    `offDiag[i]` is the signed subdiagonal entry `(i + 1, i)`. -/
structure HouseholderForm where
  packed : SquareMatrix
  offDiag : Array Float
  deriving Inhabited

namespace SquareMatrix

/-- Divides every entry of `x` by its Euclidean norm. -/
def normalizeVector (x : Array Float) : Array Float :=
  let n := (0.0 + Linear.dotBlocked x x).sqrt
  x.map (· / n)

/-- Turns `x` into a reflection axis: adds `sign(x₀) · ‖x‖` to its first entry and divides
    it by `√(2 (‖x‖² + |x₀| ‖x‖))`, which in exact arithmetic leaves it of unit length.  The
    rounded quotient can be slightly off unit length, and `I - 2 v vᵀ` is a reflection only
    for a unit `v`, so the axis is divided once more by its own computed norm.  Gives the
    axis, the subdiagonal value `-sign(x₀) ‖x‖`, and whether the reflection is proper; for a
    zero divisor the axis is not scaled and the value keeps the sign of `x₀`. -/
def reflectionAxis (x : Array Float) : Array Float × Float × Bool :=
  let sq := 0.0 + Linear.dotBlocked x x
  let norm := sq.sqrt
  let x0 := x.getD 0 0
  let (modulus, sign) := if x0 ≥ 0.0 then (x0, 1.0) else (-x0, -1.0)
  let signedNorm := sign * norm
  let factor := (sq + modulus * norm) * 2.0
  let x := x.set! 0 (x0 + signedNorm)
  if factor == 0.0 then (x, signedNorm, false)
  else
    let f := factor.sqrt
    (normalizeVector (x.map (· / f)), -signedNorm, true)

/-- `2 B v` for the symmetric block `B` of the entries `(o + a, o + b)` read from its lower
    triangle: the first column scaled by `2 v₀`, then each diagonal-and-below dot product
    added to its own row and each column scaled into the rows below it. -/
def blockTimesAxis (m : SquareMatrix) (o : Nat) (v : Array Float) : Array Float := Id.run do
  let n := v.size
  let b (a c : Nat) : Float := m.get (o + a) (o + c)
  let mut p : Array Float := (Array.range n).map fun k => (2.0 * v[0]!) * b k 0
  let d0 := Linear.dotBlocked ((Array.range (n - 1)).map fun k => b (k + 1) 0) (v.extract 1 n)
  p := p.set! 0 (p[0]! + 2.0 * d0)
  for j in [1:n] do
    let d := Linear.dotBlocked ((Array.range (n - j)).map fun k => b (j + k) j) (v.extract j n)
    p := p.set! j (p[j]! + 2.0 * d)
    for k in [j + 1:n] do
      p := p.set! k ((2.0 * v[j]!) * b k j + p[k]!)
  return p

/-- Adds `α · x yᵀ` to the lower triangle of the block at offset `o`, column by column:
    entry `(k, j)` becomes `(α yⱼ) xₖ + entry`. -/
def addOuterLower (m : SquareMatrix) (o : Nat) (alpha : Float) (x y : Array Float) :
    SquareMatrix := Id.run do
  let n := x.size
  let mut m := m
  for j in [0:n] do
    let s := alpha * y[j]!
    for k in [j:n] do
      m := m.set (o + k) (o + j) (s * x[k]! + m.get (o + k) (o + j))
  return m

/-- The Householder reduction of a symmetric matrix, from its lower triangle. -/
def householder (m : SquareMatrix) : HouseholderForm := Id.run do
  let n := m.dim
  let mut m := m
  let mut off : Array Float := Array.replicate (n - 1) 0.0
  for i in [0:n - 1] do
    let (axis, value, proper) := reflectionAxis (m.columnFrom i (i + 1))
    for k in [0:axis.size] do
      m := m.set (i + 1 + k) i axis[k]!
    off := off.set! i value
    if proper then
      let o := i + 1
      let p := m.blockTimesAxis o axis
      let dot := Linear.dotBlocked axis p
      m := m.addOuterLower o (-1.0) p axis
      m := m.addOuterLower o (-1.0) axis p
      m := m.addOuterLower o (dot * 2.0) axis axis
  return ⟨m, off⟩

end SquareMatrix

namespace HouseholderForm

/-- Diagonal of the tridiagonal matrix. -/
def diagonal (h : HouseholderForm) : Array Float :=
  (Array.range h.packed.dim).map fun i => h.packed.get i i

/-- The orthogonal matrix of the reduction: the identity with the reflections applied from
    the last to the first, each to the rows below its step and the columns from its step
    on, as `col ← sgn · col - 2 sgn (v · col) v` with `sgn` the sign of its off-diagonal
    value. -/
def assembleQ (h : HouseholderForm) : SquareMatrix := Id.run do
  let n := h.packed.dim
  let mut res := SquareMatrix.identity n
  for r in [0:n - 1] do
    let i := n - 2 - r
    let axis := h.packed.columnFrom i (i + 1)
    let sgn := (h.offDiag.getD i 0).signum
    for c in [i:n] do
      let col := res.columnFrom c (i + 1)
      let factor := (Linear.dotBlocked axis col - 0.0) * (sgn * -2.0)
      for k in [0:axis.size] do
        res := res.set (i + 1 + k) c (factor * axis[k]! + sgn * col[k]!)
  return res

end HouseholderForm

end CardOcr
