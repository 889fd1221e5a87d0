import CardOcr.Config.Basic
import CardOcr.Json.Basic

/-! # Writing settings as JSON

`ScanConfig.toJson` writes every field of the settings under the keys of the settings file
format, so that reading the result gives the same settings back.  Single precision numbers
are written as the doubles they equal.  JSON has no infinite or NaN numbers, so a setting
that holds one (a single precision field read from a number beyond its range) is written as
`null`.
-/

namespace CardOcr

/-- A single precision number as a JSON double. -/
def Json.ofFloat32 (x : Float32) : Json := .num (.float x.toFloat)

/-- A double setting: its number, or `null` when it is not finite. -/
def Json.ofSettingFloat (x : Float) : Json :=
  if x.isFinite then .num (.float x) else .null

/-- A single precision setting: the double it equals, or `null` when it is not finite. -/
def Json.ofSettingFloat32 (x : Float32) : Json := Json.ofSettingFloat x.toFloat

def CanonicalConfig.toJson (c : CanonicalConfig) : Json :=
  Json.ofFields [("width", .ofNat c.width), ("height", .ofNat c.height),
    ("border_value", .ofNat c.borderValue)]

def ExpiryLayoutConfig.toJson (e : ExpiryLayoutConfig) : Json :=
  Json.ofFields [("left", .ofNat e.left), ("top", .ofNat e.top),
    ("glyph_width", .ofNat e.glyphWidth), ("glyph_height", .ofNat e.glyphHeight),
    ("glyph_pitch", .ofNat e.glyphPitch)]

def LayoutConfig.toJson (l : LayoutConfig) : Json :=
  Json.ofFields [("groups", .arr (l.groups.map .ofNat)), ("number_left", .ofNat l.numberLeft),
    ("number_top", .ofNat l.numberTop), ("glyph_width", .ofNat l.glyphWidth),
    ("glyph_height", .ofNat l.glyphHeight), ("glyph_pitch", .ofNat l.glyphPitch),
    ("group_gap", .ofNat l.groupGap), ("expiry", l.expiry.toJson)]

def LocatorConfig.toJson (c : LocatorConfig) : Json :=
  Json.ofFields [("guide_inset", .ofSettingFloat32 c.guideInset), ("band", .ofSettingFloat32 c.band),
    ("sample_step", .ofNat c.sampleStep), ("min_edge_strength", .ofSettingFloat32 c.minEdgeStrength),
    ("min_points", .ofNat c.minPoints)]

def DetectorConfig.toJson (c : DetectorConfig) : Json :=
  Json.ofFields [("search_margin_x", .ofNat c.searchMarginX),
    ("search_margin_y", .ofNat c.searchMarginY), ("edge_threshold", .ofNat c.edgeThreshold),
    ("min_edge_density", .ofSettingFloat32 c.minEdgeDensity),
    ("expected_edge_density", .ofSettingFloat32 c.expectedEdgeDensity),
    ("min_slot_confidence", .ofSettingFloat32 c.minSlotConfidence), ("try_flipped", .bool c.tryFlipped)]

def ClassifierConfig.toJson (c : ClassifierConfig) : Json :=
  Json.ofFields [("confidence_floor", .ofSettingFloat32 c.confidenceFloor),
    ("sharpness", .ofSettingFloat32 c.sharpness), ("reject_score", .ofSettingFloat32 c.rejectScore),
    ("shift_radius", .ofNat c.shiftRadius)]

def AggregatorConfig.toJson (c : AggregatorConfig) : Json :=
  Json.ofFields [("confidence_threshold", .ofSettingFloat32 c.confidenceThreshold),
    ("min_frames", .ofNat c.minFrames), ("require_expiry", .bool c.requireExpiry),
    ("require_luhn", .bool c.requireLuhn)]

def SessionConfig.toJson (c : SessionConfig) : Json :=
  Json.ofFields [("timeout_secs", (c.timeoutSecs.map Json.ofSettingFloat).getD .null),
    ("max_frames", (c.maxFrames.map Json.ofNat).getD .null),
    ("resource_retry_budget", .ofNat c.resourceRetryBudget), ("emit_preview", .bool c.emitPreview)]

/-- Every setting under its key. -/
def ScanConfig.toJson (c : ScanConfig) : Json :=
  Json.ofFields [("canonical", c.canonical.toJson), ("layout", c.layout.toJson),
    ("blur", Json.ofFields [("sigma", .ofSettingFloat32 c.blur.sigma)]),
    ("geometry", Json.ofFields [("min_quad_area", .ofSettingFloat c.geometry.minQuadArea)]),
    ("locator", c.locator.toJson), ("detector", c.detector.toJson),
    ("classifier", c.classifier.toJson), ("aggregator", c.aggregator.toJson),
    ("session", c.session.toJson),
    ("device", Json.ofFields [("memory_budget_bytes", .ofNat c.device.memoryBudgetBytes)])]

end CardOcr
