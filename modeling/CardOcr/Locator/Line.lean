import CardOcr.Geometry.Quad

/-! # Edge lines

An `EdgeLine` is a line `v = slope · u + intercept` in the coordinates of one card edge: `u`
runs along the edge and `v` across it, so a horizontal edge gives `y` in terms of `x` and a
vertical edge `x` in terms of `y`.

`EdgeLine.fit` is the least-squares line of sampled points; it needs two points and a spread
of `u` above machine epsilon.  `EdgeLine.fitRobust` drops the worst point, the first of
largest residual, until every residual is at most two pixels; the dropped point's place is
taken by the last point.  `EdgeLine.meet` is the corner where a horizontal and a vertical
edge line cross, if they are not close to parallel.
-/

namespace CardOcr

/-- A line across an edge as a function of the position along it. -/
structure EdgeLine where
  slope : Float
  intercept : Float
  deriving Repr, Inhabited

namespace EdgeLine

/-- Machine epsilon of double precision, `2⁻⁵²`. -/
def epsilon : Float := Float.ofBits ((971 : UInt64) <<< 52)

/-- Least-squares line of points `(u, v)`; none for fewer than two points or no spread of `u`. -/
def fit (pts : Array (Float × Float)) : Option EdgeLine :=
  if pts.size < 2 then none
  else
    let n := pts.size.toFloat
    let su := pts.foldl (fun a p => a + p.1) 0
    let sv := pts.foldl (fun a p => a + p.2) 0
    let mu := su / n
    let mv := sv / n
    let suu := pts.foldl (fun a p => a + (p.1 - mu) * (p.1 - mu)) 0
    let suv := pts.foldl (fun a p => a + (p.1 - mu) * (p.2 - mv)) 0
    if suu ≤ epsilon then none
    else
      let slope := suv / suu
      some ⟨slope, mv - slope * mu⟩

/-- Distance across the edge from the line to a point. -/
def residual (l : EdgeLine) (p : Float × Float) : Float :=
  (p.2 - (l.slope * p.1 + l.intercept)).abs

/-- Residuals above this many pixels mark a point as an outlier. -/
def outlierPixels : Float := 2.0

/-- Index and size of the first largest residual; index 0 and size 0 when none is positive. -/
def worst (l : EdgeLine) (pts : Array (Float × Float)) : Nat × Float :=
  (pts.zipIdx.foldl (fun (best : Nat × Float) (p, i) =>
    let r := l.residual p
    if r > best.2 then (i, r) else best) (0, 0))

/-- Removes entry `i`, moving the last entry into its place. -/
def swapRemove (pts : Array (Float × Float)) (i : Nat) : Array (Float × Float) :=
  if i < pts.size then (pts.set! i pts.back!).pop else pts

theorem size_swapRemove (pts : Array (Float × Float)) (i : Nat) (h : i < pts.size) :
    (swapRemove pts i).size = pts.size - 1 := by
  simp [swapRemove, h]

/-- The line through the points after outliers are dropped, or the number of points left when
    fewer than `minPoints` remain or no line fits them. -/
def fitRobust (minPoints : Nat) (pts : Array (Float × Float)) : Except Nat EdgeLine :=
  if pts.size < minPoints then .error pts.size
  else
    match fit pts with
    | none => .error pts.size
    | some line =>
      let (i, r) := line.worst pts
      if r ≤ outlierPixels then .ok line
      else if h : i < pts.size then
        have : (swapRemove pts i).size < pts.size := by
          rw [size_swapRemove pts i h]; omega
        fitRobust minPoints (swapRemove pts i)
      else .error pts.size
termination_by pts.size

/-- The crossing of a horizontal edge line and a vertical one; none when they are close to
    parallel. -/
def meet (horizontal vertical : EdgeLine) : Option Point :=
  let denom := 1.0 - horizontal.slope * vertical.slope
  if denom.abs < 1e-9 then none
  else
    let y := (horizontal.slope * vertical.intercept + horizontal.intercept) / denom
    some ⟨vertical.slope * y + vertical.intercept, y⟩

end EdgeLine

end CardOcr
