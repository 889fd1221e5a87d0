import CardOcr.Fault

/-! # Errors of frames and sessions

A `FrameError` ends the processing of one frame: a size that does not match, texture
memory that ran out, a card outline that cannot be deskewed, a pixel format that is not
grayscale, or card edges that were not found.  A `ScanError` ends a scanning session.

Operations on frames can also fault (`Fault`); `FrameFailure` holds either.
-/

namespace CardOcr

/-- Pixel layouts a capture source may hand over. -/
inductive PixelFormat where
  | luma8
  | rgb8
  | bgra8
  deriving Repr, BEq, DecidableEq, Inhabited

/-- Bytes per pixel of a format. -/
def PixelFormat.bytesPerPixel : PixelFormat → Nat
  | .luma8 => 1
  | .rgb8 => 3
  | .bgra8 => 4

/-- Name of a format. -/
def PixelFormat.name : PixelFormat → String
  | .luma8 => "Luma8"
  | .rgb8 => "Rgb8"
  | .bgra8 => "Bgra8"

/-- Errors scoped to one frame. -/
inductive FrameError where
  | dimensionMismatch (expectedWidth expectedHeight actualWidth actualHeight : Nat)
  | resourceExhausted (requested inUse budget : Nat)
  | invalidGeometry (reason : String)
  | unsupportedPixelFormat (format : PixelFormat)
  | cardNotFound (side : String) (points : Nat)
  deriving Repr, Inhabited

/-- Wording of a frame error. -/
def FrameError.message : FrameError → String
  | .dimensionMismatch ew eh aw ah =>
    "input is " ++ toString aw ++ "x" ++ toString ah ++ ", filter configured for " ++
      toString ew ++ "x" ++ toString eh
  | .resourceExhausted r u b =>
    "texture allocation of " ++ toString r ++ " bytes failed (" ++ toString u ++ " of " ++
      toString b ++ " bytes in use)"
  | .invalidGeometry reason => "invalid card geometry: " ++ reason
  | .unsupportedPixelFormat f => "unsupported pixel format " ++ f.name ++ ", expected Luma8"
  | .cardNotFound side n => "card edges not found (" ++ side ++ " edge had " ++ toString n ++ " points)"

/-- Terminal outcomes of a scanning session. -/
inductive ScanError where
  | cancelled
  | timedOut (frames : Nat)
  | resourceExhausted (attempts : Nat)
  | sessionEnded
  deriving Repr, BEq, Inhabited

/-- Wording of a session error. -/
def ScanError.message : ScanError → String
  | .cancelled => "scan session cancelled"
  | .timedOut n => "scan session timed out after " ++ toString n ++ " frames"
  | .resourceExhausted n => "texture memory unavailable after " ++ toString n ++ " consecutive attempts"
  | .sessionEnded => "scan session already ended"

/-- What stops an operation on a frame: an error of the frame, or a fault. -/
inductive FrameFailure where
  | error (e : FrameError)
  | fault (f : Fault)
  deriving Repr, Inhabited

instance : Coe FrameError FrameFailure := ⟨.error⟩
instance : Coe Fault FrameFailure := ⟨.fault⟩

end CardOcr

namespace Except

/-- A computation that may fault, as a frame computation. -/
def liftFault {α : Type} (x : Except CardOcr.Fault α) : Except CardOcr.FrameFailure α :=
  x.mapError .fault

end Except
