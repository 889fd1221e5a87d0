import CardOcr.Image.Gray
import CardOcr.Geometry.Homography

/-! # Resampling an image through a homography

`GrayImage.sampleBilinear` reads an image between pixel centres: the coordinates are clamped
to the image, the four surrounding pixels are blended by the fractional offsets (rows first,
then columns), and the result is rounded half away from zero.  A NaN coordinate reads as 0.

`GrayImage.warp` fills a destination image by mapping the centre of each destination pixel
through the homography (destination to source) and sampling the source there; a centre that
lands outside the source, or on NaN, takes the border shade.

Both need a source of positive width and height: the largest index is computed as
`width - 1` and `height - 1` in unsigned words, and a zero size overflows.
-/

namespace CardOcr

namespace GrayImage

/-- The image read at pixel-index coordinates `(x, y)` for an image whose largest indices
    are `maxX` and `maxY`: blended bilinearly and clamped. -/
@[inline] def sampleWithin (img : GrayImage) (maxX maxY x y : Float) : UInt8 :=
  let x := if x < 0 then 0 else if x > maxX then maxX else x
  let y := if y < 0 then 0 else if y > maxY then maxY else y
  let x0 := x.floor.toUInt32.toNat
  let y0 := y.floor.toUInt32.toNat
  let x1 := min (x0 + 1) (img.width - 1)
  let y1 := min (y0 + 1) (img.height - 1)
  let fx := x - x0.toUInt64.toFloat
  let fy := y - y0.toUInt64.toFloat
  let p00 := (img.get x0 y0).toUInt64.toFloat
  let p10 := (img.get x1 y0).toUInt64.toFloat
  let p01 := (img.get x0 y1).toUInt64.toFloat
  let p11 := (img.get x1 y1).toUInt64.toFloat
  let top := p00 * (1 - fx) + p10 * fx
  let bottom := p01 * (1 - fx) + p11 * fx
  let v := (top * (1 - fy) + bottom * fy).round
  (if v < 0 then 0 else if v > 255 then 255 else v).toUInt8

/-- The largest pixel indices of an image as doubles; a fault for an empty image. -/
def lastIndices (img : GrayImage) : Except Fault (Float × Float) := do
  let maxX := (← checkedSub img.width 1).toFloat
  let maxY := (← checkedSub img.height 1).toFloat
  return (maxX, maxY)

/-- The image read at pixel-index coordinates `(x, y)`, blended bilinearly and clamped. -/
def sampleBilinear (img : GrayImage) (x y : Float) : Except Fault UInt8 := do
  let (maxX, maxY) ← img.lastIndices
  return img.sampleWithin maxX maxY x y

/-- Pixels `i, i + 1, …` (`n` of them) of a `w`-wide warp of `src` through `c`, appended to
    `out` in row-major order; `limits` is `src.lastIndices`, needed only for a sample. -/
def warpPixels (src : GrayImage) (c : Homography.Coefficients) (border : UInt8) (w : Nat)
    (sw sh : Float) (limits : Except Fault (Float × Float)) :
    Nat → Nat → ByteArray → Except Fault ByteArray
  | 0, _, out => .ok out
  | n + 1, i, out =>
    let (px, py) := c.project ((i % w).toUInt64.toFloat + 0.5) ((i / w).toUInt64.toFloat + 0.5)
    if px.isNaN || px < 0.0 || py < 0.0 || px > sw || py > sh then
      warpPixels src c border w sw sh limits n (i + 1) (out.push border)
    else
      match limits with
      | .ok (maxX, maxY) =>
        warpPixels src c border w sw sh limits n (i + 1)
          (out.push (src.sampleWithin maxX maxY (px - 0.5) (py - 0.5)))
      | .error e => .error e

/-- The `w × h` image whose pixel `(x, y)` samples `src` at the image of its centre under
    `hom`, or is `border` when that image falls outside `src`.  Its bytes are reserved
    before any pixel is computed. -/
def warp (src : GrayImage) (hom : Homography) (border : UInt8) (w h : Nat) :
    Except Fault GrayImage := do
  reserveCheck (w * h) 1
  let out ← warpPixels src hom.coefficients border w src.width.toFloat src.height.toFloat
    src.lastIndices (w * h) 0 (ByteArray.emptyWithCapacity (w * h))
  return ⟨w, h, out⟩

end GrayImage

end CardOcr
