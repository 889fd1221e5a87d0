import CardOcr.Error
import CardOcr.Numeric.Hypot
import CardOcr.Decimal.Fixed

/-! # Points and card outlines

A card outline in a frame is a quadrilateral (`Quad`) whose corners are stored clockwise on
screen (y points down) from the top-left one.  `Quad.ofUnordered` restores that order for
corners given in any order: it sorts them by their angle around the centroid, then starts at
the corner with the least `x + y`.

`Quad.validate` accepts an outline that the perspective transform can map without
ambiguity: finite corners, a positive shoelace area of at least the minimum, and every turn
bending clockwise with a sine of at least `10⁻³`.
-/

namespace Float

/-- Sort key of a double for the IEEE total order: negative values (sign bit set) come
    first, in reverse order of their magnitude bits, then the positive ones. -/
def totalKey (x : Float) : Int :=
  let b := x.toBits.toNat
  if b < Nat.pow 2 63 then b else -((b - Nat.pow 2 63 : Nat) : Int) - 1

end Float

namespace CardOcr

/-- A point of the plane in pixel units. -/
structure Point where
  x : Float
  y : Float
  deriving Inhabited

/-- A card outline: four corners, clockwise from the top-left one. -/
structure Quad where
  topLeft : Point
  topRight : Point
  bottomRight : Point
  bottomLeft : Point
  deriving Inhabited

namespace Quad

/-- The corners in stored order. -/
def corners (q : Quad) : List Point := [q.topLeft, q.topRight, q.bottomRight, q.bottomLeft]

/-- The outline of four corners listed in stored order. -/
def ofList : List Point → Quad
  | [a, b, c, d] => ⟨a, b, c, d⟩
  | _ => default

/-- The axis-aligned rectangle with top-left corner `(x, y)`. -/
def ofRect (x y w h : Float) : Quad :=
  ⟨⟨x, y⟩, ⟨x + w, y⟩, ⟨x + w, y + h⟩, ⟨x, y + h⟩⟩

/-- The outline of aspect ratio `aspect` (width over height) centred in a `fw × fh` frame,
    filling the fraction `fill` of the frame's limiting side. -/
def centered (fw fh : Nat) (aspect fill : Float) : Quad :=
  let fw := fw.toFloat
  let fh := fh.toFloat
  let (w, h) := if fw / fh > aspect then (fh * fill * aspect, fh * fill) else (fw * fill, fw * fill / aspect)
  ofRect ((fw - w) / 2.0) ((fh - h) / 2.0) w h

/-- Sum of doubles in order, from negative zero. -/
def sumFloats (xs : List Float) : Float := xs.foldl (· + ·) (-0.0)

/-- Index of the first least element of `keys`. -/
def firstLeast (keys : List Int) : Nat :=
  let rec go : List Int → Nat → Nat → Int → Nat
    | [], _, best, _ => best
    | k :: rest, i, best, bk => if k < bk then go rest (i + 1) i k else go rest (i + 1) best bk
  match keys with
  | [] => 0
  | k :: rest => go rest 1 0 k

/-- Corners in any order put clockwise from the top-left: a stable sort by the angle
    `atan2 (y - cy) (x - cx)` around the centroid, turned to start at the first corner of
    least `x + y`. -/
def ofUnordered (pts : List Point) : Quad :=
  let cx := sumFloats (pts.map (·.x)) / 4.0
  let cy := sumFloats (pts.map (·.y)) / 4.0
  let angle (p : Point) : Int := (Float.atan2 (p.y - cy) (p.x - cx)).totalKey
  let sorted := pts.mergeSort fun a b => angle a ≤ angle b
  let first := firstLeast (sorted.map fun p => (p.x + p.y).totalKey)
  ofList (sorted.drop first ++ sorted.take first)

/-- Shoelace area, positive for the clockwise (on screen) order. -/
def signedArea (q : Quad) : Float :=
  let c := q.corners
  let next := c.drop 1 ++ c.take 1
  (List.zipWith (fun a b => a.x * b.y - b.x * a.y) c next).foldl (· + ·) 0.0 / 2.0

/-- Checks one turn `a → b → c`: the edges must have a positive length product and bend
    clockwise with a sine of at least `10⁻³`; `corner` names `b` in the message. -/
def checkTurn (a b c : Point) (corner : Nat) : Except FrameError Unit := do
  let e0x := b.x - a.x
  let e0y := b.y - a.y
  let e1x := c.x - b.x
  let e1y := c.y - b.y
  let len := Float.hypot e0x e0y * Float.hypot e1x e1y
  if len ≤ Float.ofBits 0x3CB0000000000000 then throw (.invalidGeometry "coincident corners")
  let sin := (e0x * e1y - e0y * e1x) / len
  if sin < 1e-3 then
    throw (.invalidGeometry ("corner " ++ toString corner ++ " is collinear or reflex"))

/-- Accepts an outline the perspective transform can map: finite corners, clockwise order,
    an area of at least `minArea`, and four clockwise turns. -/
def validate (q : Quad) (minArea : Float) : Except FrameError Unit := do
  if q.corners.any (fun p => !p.x.isFinite || !p.y.isFinite) then
    throw (.invalidGeometry "non-finite corner")
  let area := q.signedArea
  if area ≤ 0.0 then throw (.invalidGeometry "corners are not ordered clockwise")
  if area < minArea then
    throw (.invalidGeometry ("area " ++ area.toFixedText 1 ++ " below minimum " ++ minArea.toFixedText 1))
  let tl := q.topLeft
  let tr := q.topRight
  let br := q.bottomRight
  let bl := q.bottomLeft
  checkTurn tl tr br 1
  checkTurn tr br bl 2
  checkTurn br bl tl 3
  checkTurn bl tl tr 0

end Quad

end CardOcr
