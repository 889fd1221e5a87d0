import CardOcr.Filter.Blur
import CardOcr.Image.Warp

/-! # The perspective stage

A `TransformStage` resamples the card outline of a frame into the canonical rectangle.
`setQuad` validates an outline and computes the homography from the canonical rectangle
onto it; a failure leaves the stage without a mapping, so that a later `apply` is refused
rather than using a stale one.  `apply` checks the input size and warps the frame, filling
pixels that map outside it with the border shade.
-/

namespace CardOcr

/-- A configured perspective correction from frames of one size to the canonical size. -/
structure TransformStage where
  input : Size
  output : Size
  border : UInt8
  minArea : Float
  /-- Homography from canonical coordinates into the frame, once an outline is set. -/
  mapping : Option Homography := none
  /-- The output texture borrowed from the arena. -/
  texture : Nat
  deriving Inhabited

namespace TransformStage

/-- Borrows the output texture for the canonical size. -/
def configure (arena : TextureArena) (input output : Size) (border : UInt8) (minArea : Float) :
    Except FrameFailure (TransformStage × TextureArena) := do
  let (id, arena) ← arena.allocate .u8 output.pixels
  return ({ input, output, border, minArea, texture := id }, arena)

/-- Validates the outline and sets the mapping onto it; on failure the mapping is
    cleared. -/
def setQuad (t : TransformStage) (q : Quad) : Except FrameFailure Unit × TransformStage :=
  let cleared := { t with mapping := none }
  match (q.validate t.minArea).mapError FrameFailure.error with
  | .error e => (.error e, cleared)
  | .ok () =>
    match Homography.ofCanonical t.output.width t.output.height q with
    | .error e => (.error e, cleared)
    | .ok h => (.ok (), { t with mapping := some h })

/-- The canonical image of the frame under the current mapping. -/
def apply (t : TransformStage) (img : GrayImage) : Except FrameFailure GrayImage := do
  (t.input.check img).mapError FrameFailure.error
  let some h := t.mapping | throw (.error (.invalidGeometry "no card quadrilateral set"))
  (img.warp h t.border t.output.width t.output.height).liftFault

end TransformStage

end CardOcr
