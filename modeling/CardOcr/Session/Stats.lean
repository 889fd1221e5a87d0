import CardOcr.Error

/-! # Session counters

`SessionStats` counts the frames a scanning session received, processed and skipped, and
the frames it dropped, by the kind of frame error.  `SessionState` is where the session
stands: active, or ended for one of four reasons.
-/

namespace CardOcr

/-- Where a scanning session stands. -/
inductive SessionState where
  | active
  | complete
  | cancelled
  | timedOut
  | failed
  deriving Repr, DecidableEq, Inhabited

def SessionState.name : SessionState → String
  | .active => "Active"
  | .complete => "Complete"
  | .cancelled => "Cancelled"
  | .timedOut => "TimedOut"
  | .failed => "Failed"

/-- Frame counters of a session. -/
structure SessionStats where
  framesReceived : Nat := 0
  framesProcessed : Nat := 0
  framesSkipped : Nat := 0
  invalidGeometry : Nat := 0
  cardNotFound : Nat := 0
  resourceExhausted : Nat := 0
  dimensionMismatch : Nat := 0
  unsupportedFormat : Nat := 0
  deriving Repr, Inhabited

namespace SessionStats

/-- Counts a frame dropped for an error. -/
def count (s : SessionStats) : FrameError → SessionStats
  | .invalidGeometry _ => { s with invalidGeometry := s.invalidGeometry + 1 }
  | .cardNotFound _ _ => { s with cardNotFound := s.cardNotFound + 1 }
  | .resourceExhausted _ _ _ => { s with resourceExhausted := s.resourceExhausted + 1 }
  | .dimensionMismatch _ _ _ _ => { s with dimensionMismatch := s.dimensionMismatch + 1 }
  | .unsupportedPixelFormat _ => { s with unsupportedFormat := s.unsupportedFormat + 1 }

/-- Frames dropped for an error, of any kind. -/
def framesFailed (s : SessionStats) : Nat :=
  s.invalidGeometry + s.cardNotFound + s.resourceExhausted + s.dimensionMismatch +
    s.unsupportedFormat

end SessionStats

end CardOcr
