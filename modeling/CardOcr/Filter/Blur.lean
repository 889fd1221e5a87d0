import CardOcr.Image.Blur
import CardOcr.Texture
import CardOcr.Layout

/-! # The blur stage

A `BlurStage` smooths images of one fixed size with a Gaussian kernel.  Configuring it
builds the kernel and borrows an output texture of one byte per pixel from the arena;
applying it checks the input size and runs the separable filter, or returns the input
unchanged when the kernel has radius zero.
-/

namespace CardOcr

/-- Pixels of an image of this size. -/
def Size.pixels (s : Size) : Nat := s.width * s.height

/-- The size mismatch of an input against the expected size. -/
def Size.mismatch (expected : Size) (img : GrayImage) : FrameError :=
  .dimensionMismatch expected.width expected.height img.width img.height

/-- Refuses an input of another size than expected. -/
def Size.check (expected : Size) (img : GrayImage) : Except FrameError Unit :=
  if img.width = expected.width && img.height = expected.height then .ok ()
  else .error (expected.mismatch img)

/-- A configured Gaussian blur for images of one size. -/
structure BlurStage where
  size : Size
  kernel : Array Float32
  /-- The output texture borrowed from the arena. -/
  texture : Nat
  deriving Inhabited

namespace BlurStage

/-- Builds the kernel for `sigma` and borrows the output texture. -/
def configure (arena : TextureArena) (size : Size) (sigma : Float32) :
    Except FrameFailure (BlurStage × TextureArena) := do
  let kernel ← (gaussianKernel sigma).liftFault
  let (id, arena) ← arena.allocate .u8 size.pixels
  return (⟨size, kernel, id⟩, arena)

/-- Radius of the kernel. -/
def radius (b : BlurStage) : Nat := b.kernel.size / 2

/-- The blurred image; the input must have the configured size. -/
def apply (b : BlurStage) (img : GrayImage) : Except FrameError GrayImage := do
  b.size.check img
  if b.radius = 0 then return img
  return img.separableFilter b.kernel

end BlurStage

end CardOcr
