import CardOcr.Error
import CardOcr.Image.Gray

/-! # Camera frames

A `Frame` is a captured picture as the camera hands it over: width, height, the distance in
bytes between row starts (`stride`), the pixel format, a sequence number and the raw bytes.
Rows may carry padding after their pixels, and the buffer may be longer than needed.

`Frame.new` checks that the stride holds a row and that the buffer holds every row; the
check is done in 64-bit arithmetic, whose overflow is a fault.  `Frame.intoLuma` turns a
colour frame into a grayscale one with the weights `(77 R + 150 G + 29 B) / 256`, rounded
down.
-/

namespace CardOcr

/-- A captured camera frame. -/
structure Frame where
  width : Nat
  height : Nat
  stride : Nat
  format : PixelFormat
  sequence : Nat
  data : ByteArray

namespace Frame

instance : Inhabited Frame := ⟨⟨0, 0, 0, .luma8, 0, ByteArray.empty⟩⟩

/-- Wraps a buffer as a frame: a fault when the needed length overflows 64 bits, a size
    mismatch when the stride is shorter than a row or the buffer shorter than the rows.
    The mismatch reports `stride / bpp` as width and `len / stride` (zero for a zero stride)
    as height, each cut to 32 bits. -/
def new (w h stride : Nat) (format : PixelFormat) (sequence : Nat) (data : ByteArray) :
    Except FrameFailure Frame := do
  let bpp := format.bytesPerPixel
  let rowBytes := w * bpp
  let required ← if h = 0 then pure 0 else Except.liftFault do
    let a ← checkedMul 64 stride (h - 1)
    checkedAdd 64 a rowBytes
  if stride < rowBytes || data.size < required then
    throw (.error (.dimensionMismatch w h (stride / bpp % Nat.pow 2 32)
      ((if stride = 0 then 0 else data.size / stride) % Nat.pow 2 32)))
  return ⟨w, h, stride, format, sequence, data⟩

/-- A frame of a grayscale image, rows packed. -/
def ofGray (img : GrayImage) (sequence : Nat) : Frame :=
  ⟨img.width, img.height, img.width, .luma8, sequence, img.pixels⟩

/-- Channel offsets of red, green and blue in a colour pixel. -/
def PixelFormat.channels : PixelFormat → Nat × Nat × Nat
  | .luma8 => (0, 0, 0)
  | .rgb8 => (0, 1, 2)
  | .bgra8 => (2, 1, 0)

/-- The grayscale frame of a colour frame, packed with stride `width`; a grayscale frame is
    returned as it is. -/
def intoLuma (f : Frame) : Frame :=
  if f.format = .luma8 then f
  else Id.run do
    let bpp := f.format.bytesPerPixel
    let (r, g, b) := PixelFormat.channels f.format
    let mut out := ByteArray.emptyWithCapacity (f.width * f.height)
    for row in [0:f.height] do
      for x in [0:f.width] do
        let p := row * f.stride + x * bpp
        let y := 77 * (f.data.get! (p + r)).toNat + 150 * (f.data.get! (p + g)).toNat +
          29 * (f.data.get! (p + b)).toNat
        out := out.push (y / 256).toUInt8
    return ⟨f.width, f.height, f.width, .luma8, f.sequence, out⟩

/-- The pixels of a grayscale frame as a packed image; other formats are refused. -/
def toGray (f : Frame) : Except FrameError GrayImage := do
  if f.format ≠ .luma8 then throw (.unsupportedPixelFormat f.format)
  if f.stride = f.width then
    return ⟨f.width, f.height, f.data.extract 0 (f.width * f.height)⟩
  let mut out := ByteArray.emptyWithCapacity (f.width * f.height)
  for row in [0:f.height] do
    out := f.data.copySlice (row * f.stride) out out.size f.width
  return ⟨f.width, f.height, out⟩

end Frame

end CardOcr
