import CardOcr.Linear.Householder
import CardOcr.Fault

/-! # Eigen-decomposition of a symmetric matrix

`SquareMatrix.symmetricEigen` diagonalises a symmetric matrix `A = V D Vᵀ`:

1. the matrix is divided by its largest entry magnitude, and the scale is put back into the
   eigenvalues at the end;
2. a Householder reduction brings it to tridiagonal form, and the product of its
   reflections starts the eigenvector matrix;
3. implicit symmetric QR steps with the Wilkinson shift, each a chase of Givens rotations
   down the unreduced block, drive the off-diagonal to zero.  The block is found by
   `delimit`: an off-diagonal entry counts as zero once it is at most `ε (|dᵢ| + |dᵢ₊₁|)`,
   with `ε = 2⁻⁵²`.  A 2 × 2 block is solved in closed form.

The eigenvalues come in the order of the final diagonal, not sorted.  A 2 × 2 block whose
discriminant is not a non-negative number (which takes a NaN in the input) has no
eigenvalues, and the decomposition fails with `Fault.missingValue`.
-/

namespace CardOcr

/-- Eigenvalues and eigenvectors: column `k` of `vectors` belongs to `values[k]`. -/
structure SymmetricEigen where
  values : Array Float
  vectors : SquareMatrix
  deriving Inhabited

namespace SymmetricEigen

/-- Machine epsilon of doubles, `2⁻⁵²`. -/
def epsilon : Float := Float.ofBits 0x3CB0000000000000

/-- Magnitude and sign (`±1`) of a double; a NaN counts as negative. -/
def magnitudeSign (x : Float) : Float × Float :=
  if x ≥ 0.0 then (x, 1.0) else (-x, -1.0)

/-- Eigenvalue of the trailing 2 × 2 block `[[tmm, tmn], [tmn, tnn]]` nearer to `tnn`. -/
def wilkinsonShift (tmm tnn tmn : Float) : Float :=
  let sq := tmn * tmn
  if sq == 0.0 then tnn
  else
    let d := (tmm - tnn) * 0.5
    tnn - sq / (d + d.signum * (d * d + sq).sqrt)

/-- The rotation `(c, s)` that zeroes `y` in `(x, y)`, with the length `r` it leaves in `x`;
    none when `y` is already zero. -/
def cancelSecond (x y : Float) : Option (Float × Float × Float) :=
  if y == 0.0 then none
  else
    let (m, sign) := magnitudeSign x
    let denom := (m * m + y * y).sqrt
    some (m / denom, -y / (sign * denom), sign * denom)

/-- The rotation `(c, s)` along `(x, y)`, when its length exceeds `eps`. -/
def alongVector (x y eps : Float) : Option (Float × Float) :=
  let (m, sign) := magnitudeSign x
  let denom := (m * m + y * y).sqrt
  if denom > eps then some (m / denom, y / (sign * denom)) else none

/-- Columns `i` and `i + 1` of `q` turned by the rotation `(c, s)`: each row `(a, b)` becomes
    `(a c + s b, -s a + c b)`. -/
def rotateColumns (q : SquareMatrix) (i : Nat) (c s : Float) : SquareMatrix := Id.run do
  let mut q := q
  for r in [0:q.dim] do
    let a := q.get r i
    let b := q.get r (i + 1)
    q := q.set r i (a * c + s * b)
    q := q.set r (i + 1) (-s * a + c * b)
  return q

/-- Whether off-diagonal entry `k` is negligible beside the diagonal entries `k`, `k + 1`. -/
def negligible (diag off : Array Float) (k : Nat) : Bool :=
  (off.getD k 0).abs ≤ epsilon * ((diag.getD (k + 1) 0).abs + (diag.getD k 0).abs)

/-- The unreduced block `[start, stop]` that ends at or before `stop`: trailing off-diagonal
    entries that do not exceed the bound move the end up; the block then extends up to the first negligible
    entry, which is set to zero.  `(0, 0)` when nothing is left. -/
def delimit (diag off : Array Float) (stop : Nat) : Nat × Nat × Array Float :=
  let rec lower : Nat → Nat
    | 0 => 0
    | n + 1 =>
      if (off.getD n 0).abs > epsilon * ((diag.getD (n + 1) 0).abs + (diag.getD n 0).abs) then n + 1
      else lower n
  let n := lower stop
  if n = 0 then (0, 0, off)
  else
    let rec upper : Nat → Nat × Array Float
      | 0 => (0, off)
      | s + 1 =>
        if off.getD s 0 == 0.0 || negligible diag off s then (s + 1, off.set! s 0.0)
        else upper s
    let (start, off) := upper (n - 1)
    (start, n, off)

/-- One implicit QR step with the Wilkinson shift on the block `[start, stop]`, chasing the
    bulge with Givens rotations that are also applied to `q`. -/
def qrStep (diag off : Array Float) (q : SquareMatrix) (start stop : Nat) :
    Array Float × Array Float × SquareMatrix := Id.run do
  let mut diag := diag
  let mut off := off
  let mut q := q
  let m := stop - 1
  let mut vx := diag[start]! - wilkinsonShift diag[m]! diag[stop]! off[m]!
  let mut vy := off[start]!
  for i in [start:stop] do
    match cancelSecond vx vy with
    | none => break
    | some (c, s, norm) =>
      if i > start then off := off.set! (i - 1) norm
      let mii := diag[i]!
      let mjj := diag[i + 1]!
      let mij := off[i]!
      let cc := c * c
      let ss := s * s
      let cs := c * s
      let b := cs * 2.0 * mij
      diag := diag.set! i ((cc * mii + ss * mjj) - b)
      diag := diag.set! (i + 1) ((ss * mii + cc * mjj) + b)
      off := off.set! i (cs * (mii - mjj) + mij * (cc - ss))
      if i != stop - 1 then
        vx := off[i]!
        vy := -s * off[i + 1]!
        off := off.set! (i + 1) (off[i + 1]! * c)
      q := rotateColumns q i c (-s)
  return (diag, off, q)

/-- Solves the 2 × 2 block at `start` in closed form and turns `q` onto its eigenvectors. -/
def solvePair (diag off : Array Float) (q : SquareMatrix) (start : Nat) :
    Except Fault (Array Float × SquareMatrix) := do
  let h00 := diag[start]!
  let h11 := diag[start + 1]!
  let h10 := off[start]!
  let val := (h00 - h11) * 0.5
  let discr := h10 * h10 + val * val
  unless discr ≥ 0.0 do throw .missingValue
  let root := discr.sqrt
  let half := (h00 + h11) * 0.5
  let e0 := half + root
  let e1 := half - root
  let bx := e0 - h11
  let diag := (diag.set! start e0).set! (start + 1) e1
  match alongVector bx h10 epsilon with
  | some (c, s) => return (diag, rotateColumns q start c s)
  | none => return (diag, q)

/-- Rounds of QR steps allowed; each round shortens the block or reduces an off-diagonal
    entry, and far fewer are ever needed. -/
def maxRounds : Nat := 1000000

end SymmetricEigen

open SymmetricEigen in
/-- Eigenvalues and orthonormal eigenvectors of a symmetric matrix, read from its lower
    triangle. -/
def SquareMatrix.symmetricEigen (a : SquareMatrix) : Except Fault SymmetricEigen := do
  let n := a.dim
  let amax := a.maxMagnitude
  let a := if amax == 0.0 then a else a.divBy amax
  let h := a.householder
  let mut q := h.assembleQ
  let mut diag := h.diagonal
  let mut off := h.offDiag.map Float.abs
  if n ≤ 1 then return ⟨diag.map (· * amax), q⟩
  let (s0, e0, o0) := delimit diag off (n - 1)
  let mut start := s0
  let mut stop := e0
  off := o0
  for _ in [0:maxRounds] do
    if stop == start then break
    if stop - start + 1 > 2 then
      let (d, o, q') := qrStep diag off q start stop
      diag := d
      off := o
      q := q'
      if negligible diag off (stop - 1) then stop := stop - 1
    else
      let (d, q') ← solvePair diag off q start
      diag := d
      q := q'
      stop := stop - 1
    let (s, e, o) := delimit diag off stop
    start := s
    stop := e
    off := o
  return ⟨diag.map (· * amax), q⟩

end CardOcr
