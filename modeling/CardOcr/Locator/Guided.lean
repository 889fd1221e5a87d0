import CardOcr.Locator.Line
import CardOcr.Image.Gradient
import CardOcr.Numeric.Extremum
import CardOcr.Config.Basic
import CardOcr.Frame

/-! # Finding the card in a frame

The user holds the card inside a guide rectangle of the card's aspect ratio, inset from the
frame (`GuideLocator.guide`).  Each side of the guide is searched for the card's edge: along
the side, every `sampleStep` pixels from 10 % to 90 % of its length, the strongest Sobel
response across the side within a band of `band` times the guide's extent is the edge, if it
reaches the least edge strength (`GuideLocator.edgePoints`).  Of equal responses the one
furthest along the band wins, and a parabola through the peak and its two neighbours places
the edge between pixels, by at most half a pixel.

The points of each side give a robust line (`EdgeLine.fitRobust`) and the corners are where
the lines meet.  A side with too few points fails with `cardNotFound`, as does a pair of
lines that do not meet, with zero points.
-/

namespace CardOcr

/-- The rectangle in which the user is asked to hold the card. -/
structure GuideRect where
  x : Float
  y : Float
  width : Float
  height : Float
  deriving Repr, Inhabited

/-- A side of the guide. -/
inductive Side where
  | top
  | right
  | bottom
  | left
  deriving Repr, DecidableEq, Inhabited

namespace Side

def name : Side → String
  | .top => "top"
  | .right => "right"
  | .bottom => "bottom"
  | .left => "left"

def isHorizontal : Side → Bool
  | .top | .bottom => true
  | .right | .left => false

end Side

/-- The guided locator: its settings and the aspect ratio of the card. -/
structure GuideLocator where
  config : LocatorConfig
  aspect : Float
  deriving Inhabited

namespace GuideLocator

def ofConfig (c : ScanConfig) : GuideLocator :=
  ⟨c.locator, c.canonical.width.toFloat / c.canonical.height.toFloat⟩

/-- The guide in a `width × height` frame: the largest rectangle of the card's aspect inside the
    frame less the inset on every side, centred. -/
def guide (l : GuideLocator) (width height : Nat) : GuideRect :=
  let inset := l.config.guideInset.toFloat
  let availW := width.toFloat * (1.0 - 2.0 * inset)
  let availH := height.toFloat * (1.0 - 2.0 * inset)
  let (w, h) := if availW / availH > l.aspect then (availH * l.aspect, availH)
    else (availW, availW / l.aspect)
  ⟨(width.toFloat - w) / 2.0, (height.toFloat - h) / 2.0, w, h⟩

/-- Size of the Sobel response across a side at a position along and across it; reading
    outside the image is a fault. -/
def response (img : GrayImage) (side : Side) (along across : Nat) : Except Fault Nat :=
  let (x, y) := if side.isHorizontal then (along, across) else (across, along)
  if x < img.width ∧ y < img.height then
    let (h, v) := img.sobelAt x y
    .ok (if side.isHorizontal then v else h).natAbs
  else .error (.pixelOutOfBounds x y img.width img.height)

/-- The last position of `lo .. hi` with the largest response, and that response. -/
def peak (img : GrayImage) (side : Side) (along lo hi : Nat) : Except Fault (Option (Nat × Nat)) :=
  (List.range (hi + 1 - lo)).foldlM (fun best i => do
    let across := lo + i
    let s ← response img side along across
    return match best with
      | some (_, b) => if s ≥ b then some (across, s) else best
      | none => some (across, s)) none

/-- The edge point of the sample line at `along`, as `(along, across)` pixel-centre
    coordinates: the last position of `lo .. hi` with the largest response, if it reaches the
    least edge strength, moved between pixels by the parabola through it and its two
    neighbours, by at most half a pixel. -/
def samplePoint (img : GrayImage) (side : Side) (minStrength : Float) (lo hi along : Nat) :
    Except Fault (Option (Float × Float)) := do
  if hi < lo then return none
  let some (top, strength) ← peak img side along lo hi | return none
  let s := strength.toFloat
  if s < minStrength then return none
  let a := (← response img side along (top - 1)).toFloat
  let c := (← response img side along (top + 1)).toFloat
  let denom := a - 2.0 * s + c
  let offset := if denom.abs > EdgeLine.epsilon then
      let o := 0.5 * (a - c) / denom
      if o < -0.5 then -0.5 else if o > 0.5 then 0.5 else o
    else 0.0
  return some (along.toFloat + 0.5, top.toFloat + offset + 0.5)

/-- Edge points of one side as `(along, across)` pixel-centre coordinates. -/
def edgePoints (l : GuideLocator) (img : GrayImage) (g : GuideRect) (side : Side) :
    Except Fault (Array (Float × Float)) := do
  let (alongStart, alongLen, acrossCentre, extent) := match side with
    | .top => (g.x, g.width, g.y, g.height)
    | .bottom => (g.x, g.width, g.y + g.height, g.height)
    | .left => (g.y, g.height, g.x, g.width)
    | .right => (g.y, g.height, g.x + g.width, g.width)
  let (alongMax, acrossMax) := if side.isHorizontal then (img.width, img.height)
    else (img.height, img.width)
  if acrossMax < 3 then return #[]
  let halfBand := l.config.band.toFloat * extent
  let lo := (Float.maxNum (acrossCentre - halfBand).floor 1.0).toUInt32.toNat
  let hi := min (acrossCentre + halfBand).ceil.toUInt32.toNat (acrossMax - 2)
  let first := (Float.maxNum (alongStart + 0.1 * alongLen).ceil 0.0).toUInt32.toNat
  let last := min (Float.maxNum (alongStart + 0.9 * alongLen).floor 0.0).toUInt32.toNat (alongMax - 1)
  let step := max l.config.sampleStep 1
  let count := if first ≤ last then (last - first) / step + 1 else 0
  let alongs := (List.range count).map fun k => first + k * step
  let pts ← alongs.filterMapM (samplePoint img side l.config.minEdgeStrength.toFloat lo hi)
  return pts.toArray

/-- The edge line of one side. -/
def sideLine (l : GuideLocator) (img : GrayImage) (g : GuideRect) (side : Side) :
    Except FrameFailure EdgeLine := do
  let pts ← (l.edgePoints img g side).liftFault
  match EdgeLine.fitRobust l.config.minPoints pts with
  | .ok line => return line
  | .error n => throw (.error (.cardNotFound side.name n))

/-- The card's corners in a grayscale frame. -/
def locate (l : GuideLocator) (img : GrayImage) : Except FrameFailure Quad := do
  let g := l.guide img.width img.height
  let top ← l.sideLine img g .top
  let right ← l.sideLine img g .right
  let bottom ← l.sideLine img g .bottom
  let left ← l.sideLine img g .left
  let corner (h v : EdgeLine) (side : Side) : Except FrameFailure Point :=
    match EdgeLine.meet h v with
    | some p => .ok p
    | none => .error (.error (.cardNotFound side.name 0))
  return ⟨← corner top left .left, ← corner top right .right, ← corner bottom right .right,
    ← corner bottom left .left⟩

end GuideLocator

/-- How a session finds the card in a frame: a fixed quadrilateral, or the guided search. -/
inductive CardLocator where
  | fixed (q : Quad)
  | guided (l : GuideLocator)
  deriving Inhabited

namespace CardLocator

/-- The card's corners in a frame; the guided search needs a grayscale frame. -/
def locate (c : CardLocator) (f : Frame) : Except FrameFailure Quad :=
  match c with
  | .fixed q => .ok q
  | .guided l => do l.locate (← f.toGray.mapError .error)

end CardLocator

end CardOcr
