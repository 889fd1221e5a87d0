import CardOcr.Image.Gray
import CardOcr.Fault

/-! # Gaussian blur

`gaussianKernel σ` is the normalised single precision Gaussian of radius `⌈3σ⌉`: its taps
are `exp (-(i²) / (2σ²))` for `i` from `-r` to `r`, each divided by their sum.  A σ that is
not positive (or NaN) gives the one-tap identity kernel.

`GrayImage.separableFilter` applies a kernel along the rows and then along the columns.
Each pass replicates the edge pixels beyond the border, sums the products in single
precision from the first tap to the last, and stores the sum truncated to a byte (below one
gives 0; 255 or more, and NaN, give 255).
-/

namespace Float32

/-- A single precision number cut to a byte: truncated inside `(0, 255)`, 0 at or below
    zero, 255 at or above 255 and for NaN. -/
def truncByte (x : Float32) : UInt8 :=
  if x < 255 then (if x > 0 then x.toUInt8 else 0) else 255

end Float32

namespace CardOcr

/-- The radius the Gaussian kernel of `σ` is built for: `⌈3σ⌉` as a 32-bit signed word, which
    saturates, or zero when `σ` is not positive (NaN included). -/
def kernelRadius (sigma : Float32) : Nat :=
  if sigma > 0.0 then min ((3.0 * sigma).ceil.toUInt64.toNat) (Nat.pow 2 31 - 1) else 0

/-- The normalised Gaussian kernel of radius `⌈3σ⌉` (32-bit squares of the offsets). -/
def gaussianKernel (sigma : Float32) : Except Fault (Array Float32) := do
  if !(sigma > 0.0) then return #[1.0]
  let r := kernelRadius sigma
  let denom := 2.0 * sigma * sigma
  let mut taps : Array Float32 := Array.mkEmpty (2 * r + 1)
  for k in [0:2 * r + 1] do
    let i : Int := (k : Int) - r
    let sq ← checkedMul 31 i.natAbs i.natAbs
    taps := taps.push (Float32.exp (-(sq.toUInt64.toFloat32) / denom))
  let sum := taps.foldl (· + ·) (-0.0)
  return taps.map (· / sum)

namespace GrayImage

/-- The pixel under tap `i` of a kernel of half-width `half` centred on `(x, y)`, along the
    rows (`horizontal`) or the columns, with the edge pixels replicated. -/
@[inline] def tapPixel (img : GrayImage) (horizontal : Bool) (half x y i : Nat) : UInt8 :=
  if horizontal then
    let xi := min ((x + i) - half) (img.width - 1)
    img.get (if x + i < half then 0 else xi) y
  else
    let yi := min ((y + i) - half) (img.height - 1)
    img.get x (if y + i < half then 0 else yi)

/-- `acc` plus the products of taps `i, i + 1, …` (`n` of them) of `kernel` centred on
    `(x, y)` with their pixels, added one by one in single precision. -/
def tapSum (img : GrayImage) (kernel : Array Float32) (horizontal : Bool) (half x y : Nat) :
    Nat → Nat → Float32 → Float32
  | 0, _, acc => acc
  | n + 1, i, acc =>
    let p := img.tapPixel horizontal half x y i
    tapSum img kernel horizontal half x y n (i + 1) (acc + p.toUInt64.toFloat32 * kernel[i]!)

/-- Pixels `i, i + 1, …` (`n` of them, row-major) of one filter pass, appended to `out`. -/
def passPixels (img : GrayImage) (kernel : Array Float32) (horizontal : Bool) (half : Nat) :
    Nat → Nat → ByteArray → ByteArray
  | 0, _, out => out
  | n + 1, i, out =>
    let sum := img.tapSum kernel horizontal half (i % img.width) (i / img.width) kernel.size 0 0
    passPixels img kernel horizontal half n (i + 1) (out.push sum.truncByte)

/-- One pass of a kernel along rows (`horizontal`) or columns, with the edge pixels
    replicated. -/
def filterPass (img : GrayImage) (kernel : Array Float32) (horizontal : Bool) : GrayImage :=
  let n := img.width * img.height
  ⟨img.width, img.height,
    img.passPixels kernel horizontal (kernel.size / 2) n 0 (ByteArray.emptyWithCapacity n)⟩

/-- The image filtered by `kernel` along its rows, then along its columns. -/
def separableFilter (img : GrayImage) (kernel : Array Float32) : GrayImage :=
  (img.filterPass kernel true).filterPass kernel false

end GrayImage

end CardOcr
