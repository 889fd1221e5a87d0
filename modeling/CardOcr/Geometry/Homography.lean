import CardOcr.Geometry.Quad
import CardOcr.Linear.SymmetricEigen

/-! # Plane homographies

A `Homography` is a 3 × 3 matrix acting on the plane through homogeneous coordinates:
`project h p` maps `(x, y)` to `(u / w, v / w)` for `(u, v, w) = h · (x, y, 1)`, and to NaN
when `|w| < 10⁻¹⁵`.  Products and images are summed left to right over the inner index.

`Homography.estimate src dst` finds the homography taking four source points onto four
destination points by the direct linear transform with Hartley normalisation: both point
sets are moved to their centroid and scaled to a mean distance of `√2`; the nine entries
are the eigenvector of `Aᵀ A` of least eigenvalue magnitude, where `A` holds two equations
per correspondence; the normalisations are undone and the result is scaled so that its last
entry is one.  `Homography.ofCanonical` maps the canonical card rectangle onto an outline.
-/

namespace CardOcr

/-- A plane homography as a 3 × 3 matrix, row-major. -/
structure Homography where
  entries : Array Float
  deriving Inhabited

namespace Homography

/-- Entry in row `r`, column `c`. -/
@[inline] def get (h : Homography) (r c : Nat) : Float := h.entries.getD (3 * r + c) 0

/-- The identity map. -/
def identity : Homography := ⟨#[1, 0, 0, 0, 1, 0, 0, 0, 1]⟩

/-- The composite `a ∘ b` (the matrix product `a b`). -/
def comp (a b : Homography) : Homography :=
  ⟨(Array.range 9).map fun k =>
    let r := k / 3
    let c := k % 3
    a.get r 0 * b.get 0 c + a.get r 1 * b.get 1 c + a.get r 2 * b.get 2 c⟩

/-- Homogeneous image `h · (x, y, 1)`. -/
def applyHomogeneous (h : Homography) (x y : Float) : Float × Float × Float :=
  let row (r : Nat) := h.get r 0 * x + h.get r 1 * y + h.get r 2 * 1.0
  (row 0, row 1, row 2)

/-- The nine entries as separate numbers, row by row, for loops that project many points. -/
structure Coefficients where
  h00 : Float
  h01 : Float
  h02 : Float
  h10 : Float
  h11 : Float
  h12 : Float
  h20 : Float
  h21 : Float
  h22 : Float

/-- The entries of a homography as `Coefficients`. -/
def coefficients (h : Homography) : Coefficients :=
  ⟨h.get 0 0, h.get 0 1, h.get 0 2, h.get 1 0, h.get 1 1, h.get 1 2, h.get 2 0, h.get 2 1, h.get 2 2⟩

/-- A double NaN. -/
def nan : Float := Float.ofBits 0x7FF8000000000000

/-- The image of `(x, y)` under the coefficients, both coordinates NaN when it goes to
    infinity (`|w| < 10⁻¹⁵`). -/
@[inline] def Coefficients.project (c : Coefficients) (x y : Float) : Float × Float :=
  let u := c.h00 * x + c.h01 * y + c.h02 * 1.0
  let v := c.h10 * x + c.h11 * y + c.h12 * 1.0
  let w := c.h20 * x + c.h21 * y + c.h22 * 1.0
  if w.abs < 1e-15 then (nan, nan) else (u / w, v / w)

/-- The image of a point; NaN when it goes to infinity (`|w| < 10⁻¹⁵`). -/
def project (h : Homography) (p : Point) : Point :=
  let (x, y) := h.coefficients.project p.x p.y
  ⟨x, y⟩

/-- Every entry divided by `d`. -/
def divBy (h : Homography) (d : Float) : Homography := ⟨h.entries.map (· / d)⟩

/-- The inverse by cofactors over the determinant; none when the determinant is zero. -/
def inverse? (h : Homography) : Option Homography :=
  let m11 := h.get 0 0
  let m12 := h.get 0 1
  let m13 := h.get 0 2
  let m21 := h.get 1 0
  let m22 := h.get 1 1
  let m23 := h.get 1 2
  let m31 := h.get 2 0
  let m32 := h.get 2 1
  let m33 := h.get 2 2
  let minor1 := m22 * m33 - m32 * m23
  let minor2 := m21 * m33 - m31 * m23
  let minor3 := m21 * m32 - m31 * m22
  let det := m11 * minor1 - m12 * minor2 + m13 * minor3
  if det == 0.0 then none
  else some ⟨#[
    minor1 / det, (m13 * m32 - m33 * m12) / det, (m12 * m23 - m22 * m13) / det,
    -minor2 / det, (m11 * m33 - m31 * m13) / det, (m13 * m21 - m23 * m11) / det,
    minor3 / det, (m12 * m31 - m32 * m11) / det, (m11 * m22 - m21 * m12) / det]⟩

/-- The similarity moving the centroid of the points to the origin and their mean distance
    from it to `√2` (scale one when that distance is at most `10⁻¹⁵`), with the moved
    points. -/
def normalizing (pts : List Point) : Homography × List Point :=
  let cx := Quad.sumFloats (pts.map (·.x)) / 4.0
  let cy := Quad.sumFloats (pts.map (·.y)) / 4.0
  let meanDist := Quad.sumFloats (pts.map fun p => Float.hypot (p.x - cx) (p.y - cy)) / 4.0
  let s := if meanDist > 1e-15 then Float.sqrt 2.0 / meanDist else 1.0
  (⟨#[s, 0, -s * cx, 0, s, -s * cy, 0, 0, 1]⟩, pts.map fun p => ⟨s * (p.x - cx), s * (p.y - cy)⟩)

/-- The two rows of the linear system for the correspondence `s ↦ d`. -/
def equationRows (s d : Point) : List (Array Float) :=
  [#[0, 0, 0, -s.x, -s.y, -1.0, d.y * s.x, d.y * s.y, d.y],
   #[s.x, s.y, 1.0, 0, 0, 0, -d.x * s.x, -d.x * s.y, -d.x]]

/-- Index of the first value of least magnitude. -/
def leastMagnitude (xs : Array Float) : Nat := Id.run do
  let mut best := 0
  for i in [1:xs.size] do
    if xs[i]!.abs < xs[best]!.abs then best := i
  return best

/-- The homography taking `src` onto `dst` (four points each), or why there is none. -/
def estimate (src dst : List Point) : Except FrameFailure Homography := do
  let (tSrc, srcN) := normalizing src
  let (tDst, dstN) := normalizing dst
  let rows := (List.zipWith equationRows srcN dstN).flatten
  let eig ← (Linear.gramFused 9 rows).symmetricEigen.liftFault
  let k := leastMagnitude eig.values
  let hNorm : Homography := ⟨(Array.range 9).map fun j => eig.vectors.get j k⟩
  let some tDstInv := tDst.inverse?
    | throw (.error (.invalidGeometry "normalizing transform not invertible"))
  let h := (tDstInv.comp hNorm).comp tSrc
  let scale := h.get 2 2
  if scale.abs < 1e-12 || !h.entries.all Float.isFinite then
    throw (.error (.invalidGeometry "homography is singular"))
  return h.divBy scale

/-- The homography taking the canonical rectangle `[0, w] × [0, h]` onto an outline. -/
def ofCanonical (w h : Nat) (quad : Quad) : Except FrameFailure Homography :=
  estimate (Quad.ofRect 0 0 w.toFloat h.toFloat).corners quad.corners

end Homography

end CardOcr
