import CardOcr.Fault

/-! # Scanner settings

A `ScanConfig` gathers every tunable of the scanner, section by section: the size of the
deskewed card image, where the number and expiry glyphs sit on it, the blur, the card
locator, the glyph detector and classifier, the vote aggregator, the session limits and the
texture memory budget.  Every field has a calibrated default, so a settings file names only
what it changes.

Whole numbers are kept as `Nat`; the reader keeps each within the width its field allows
(`CardOcr.Config.Decode`).  Fractions that are single precision numbers are kept as
`Float32`, the others as `Float`.
-/

namespace CardOcr

/-- Size of the deskewed card image, and the fill of its pixels that map outside the
    frame. -/
structure CanonicalConfig where
  width : Nat := 428
  height : Nat := 270
  borderValue : Nat := 0
  deriving Repr, Inhabited

/-- Placement of the expiry field `MM/YY`: five glyph cells in a row. -/
structure ExpiryLayoutConfig where
  left : Nat := 200
  top : Nat := 190
  glyphWidth : Nat := 14
  glyphHeight : Nat := 21
  glyphPitch : Nat := 16
  deriving Repr, Inhabited

/-- Placement of the number line: groups of glyphs, left to right, with a pitch between
    glyphs of a group and an extra gap between groups. -/
structure LayoutConfig where
  groups : List Nat := [4, 4, 4, 4]
  numberLeft : Nat := 25
  numberTop : Nat := 140
  glyphWidth : Nat := 19
  glyphHeight : Nat := 27
  glyphPitch : Nat := 21
  groupGap : Nat := 14
  expiry : ExpiryLayoutConfig := {}
  deriving Repr, Inhabited

/-- The fifteen digit layout in groups of four, six and five. -/
def LayoutConfig.amex : LayoutConfig := { groups := [4, 6, 5], numberLeft := 42 }

/-- Number of digits of the card number: the sum of the group sizes, added from the first
    group on in 64-bit words, so a sum past the word is an overflow fault. -/
def LayoutConfig.digitCount (l : LayoutConfig) : Except Fault Nat :=
  l.groups.foldlM (checkedAdd 64) 0

/-- Gaussian blur of the deskewed image; a standard deviation of zero turns it off. -/
structure BlurConfig where
  sigma : Float32 := 1.0
  deriving Repr, Inhabited

/-- Smallest card quadrilateral, in frame pixels squared, worth deskewing. -/
structure GeometryConfig where
  minQuadArea : Float := 10000.0
  deriving Repr, Inhabited

/-- The guided card locator: the inset of the guide rectangle in the frame, the half-height
    of the band searched around each guide edge as a fraction of the guide's extent across
    it, the sampling step along an edge, the least edge strength and the least number of
    edge points per side. -/
structure LocatorConfig where
  guideInset : Float32 := 0.1
  band : Float32 := 0.12
  sampleStep : Nat := 4
  minEdgeStrength : Float32 := 120.0
  minPoints : Nat := 8
  deriving Repr, Inhabited

/-- The glyph slot detector: how far a slot is searched around its nominal place, the edge
    strength that counts as an edge, the edge densities that make a slot plausible and
    fully confident, the least slot confidence, and whether an upside-down card is tried. -/
structure DetectorConfig where
  searchMarginX : Nat := 10
  searchMarginY : Nat := 8
  edgeThreshold : Nat := 160
  minEdgeDensity : Float32 := 0.04
  expectedEdgeDensity : Float32 := 0.15
  minSlotConfidence : Float32 := 0.25
  tryFlipped : Bool := true
  deriving Repr, Inhabited

/-- The glyph classifier: the least probability of an accepted digit, the softmax
    sharpness, the correlation score of the reject class, and the alignment search radius. -/
structure ClassifierConfig where
  confidenceFloor : Float32 := 0.5
  sharpness : Float32 := 20.0
  rejectScore : Float32 := 0.45
  shiftRadius : Nat := 2
  deriving Repr, Inhabited

/-- When the votes of many frames make a reading: the share of its position's votes that a
    mode must hold, the least number of votes per position, and whether an expiry and a
    valid check digit are required. -/
structure AggregatorConfig where
  confidenceThreshold : Float32 := 0.6
  minFrames : Nat := 3
  requireExpiry : Bool := true
  requireLuhn : Bool := false
  deriving Repr, Inhabited

/-- Limits of a scanning session: a time limit in seconds, a frame limit, how many texture
    allocation failures in a row are tolerated, and whether progress carries a preview. -/
structure SessionConfig where
  timeoutSecs : Option Float := some 30.0
  maxFrames : Option Nat := none
  resourceRetryBudget : Nat := 5
  emitPreview : Bool := false
  deriving Repr, Inhabited

/-- Texture memory available to the image filters, in bytes. -/
structure DeviceConfig where
  memoryBudgetBytes : Nat := 67108864
  deriving Repr, Inhabited

/-- All settings of a scanner. -/
structure ScanConfig where
  canonical : CanonicalConfig := {}
  layout : LayoutConfig := {}
  blur : BlurConfig := {}
  geometry : GeometryConfig := {}
  locator : LocatorConfig := {}
  detector : DetectorConfig := {}
  classifier : ClassifierConfig := {}
  aggregator : AggregatorConfig := {}
  session : SessionConfig := {}
  device : DeviceConfig := {}
  deriving Repr, Inhabited

end CardOcr
