import CardOcr.Config.Basic
import CardOcr.Json.Reader

/-! # Reading settings from JSON

Settings are read from JSON against `ScanConfig.shape`: every section is a record whose
fields are optional, with the keys of the settings file format (`border_value`,
`min_quad_area`, ...).  A section may also be an array that lists its fields in order.
Unknown keys are ignored.

`ScanConfig.readText` reads a settings text, with the line and column of any error;
`ScanConfig.ofJson` reads an already parsed value, with errors that carry no place.  Both
check the value against the shape first and then take each field, or its default, from the
checked value (`ScanConfig.ofChecked`).
-/

namespace CardOcr

namespace ConfigShape

/-- Unsigned integers of the settings, by width. -/
def u8 : Shape := .uint "u8" 8
def u16 : Shape := .uint "u16" 16
def u32 : Shape := .uint "u32" 32
def u64 : Shape := .uint "u64" 64
def usize : Shape := .uint "usize" 64

def canonical : Shape :=
  .record "CanonicalConfig" [("width", u32), ("height", u32), ("border_value", u8)]

def expiry : Shape :=
  .record "ExpiryLayoutConfig"
    [("left", u32), ("top", u32), ("glyph_width", u32), ("glyph_height", u32), ("glyph_pitch", u32)]

def layout : Shape :=
  .record "LayoutConfig"
    [("groups", .seq usize), ("number_left", u32), ("number_top", u32), ("glyph_width", u32),
     ("glyph_height", u32), ("glyph_pitch", u32), ("group_gap", u32), ("expiry", expiry)]

def blur : Shape := .record "BlurConfig" [("sigma", .float32)]

def geometry : Shape := .record "GeometryConfig" [("min_quad_area", .float64)]

def locator : Shape :=
  .record "LocatorConfig"
    [("guide_inset", .float32), ("band", .float32), ("sample_step", u32),
     ("min_edge_strength", .float32), ("min_points", usize)]

def detector : Shape :=
  .record "DetectorConfig"
    [("search_margin_x", u32), ("search_margin_y", u32), ("edge_threshold", u16),
     ("min_edge_density", .float32), ("expected_edge_density", .float32),
     ("min_slot_confidence", .float32), ("try_flipped", .bool)]

def classifier : Shape :=
  .record "ClassifierConfig"
    [("confidence_floor", .float32), ("sharpness", .float32), ("reject_score", .float32),
     ("shift_radius", u32)]

def aggregator : Shape :=
  .record "AggregatorConfig"
    [("confidence_threshold", .float32), ("min_frames", u32), ("require_expiry", .bool),
     ("require_luhn", .bool)]

def session : Shape :=
  .record "SessionConfig"
    [("timeout_secs", .option .float64), ("max_frames", .option u64),
     ("resource_retry_budget", u32), ("emit_preview", .bool)]

def device : Shape := .record "DeviceConfig" [("memory_budget_bytes", usize)]

end ConfigShape

/-- The shape of a settings value. -/
def ScanConfig.shape : Shape :=
  .record "ScanConfig"
    [("canonical", ConfigShape.canonical), ("layout", ConfigShape.layout),
     ("blur", ConfigShape.blur), ("geometry", ConfigShape.geometry),
     ("locator", ConfigShape.locator), ("detector", ConfigShape.detector),
     ("classifier", ConfigShape.classifier), ("aggregator", ConfigShape.aggregator),
     ("session", ConfigShape.session), ("device", ConfigShape.device)]

namespace Json

/-- A whole-number field, or the default. -/
def natOr (j : Json) (k : String) (d : Nat) : Nat :=
  ((j.field? k).bind asNat?).getD d

/-- A single precision field, or the default. -/
def float32Or (j : Json) (k : String) (d : Float32) : Float32 :=
  (((j.field? k).bind asFloat?).map Float.toFloat32).getD d

/-- A double precision field, or the default. -/
def floatOr (j : Json) (k : String) (d : Float) : Float :=
  ((j.field? k).bind asFloat?).getD d

/-- A boolean field, or the default. -/
def boolOr (j : Json) (k : String) (d : Bool) : Bool :=
  ((j.field? k).bind asBool?).getD d

/-- An optional field: the default when absent, nothing when `null`. -/
def optionOr {α : Type} (get : Json → Option α) (j : Json) (k : String) (d : Option α) :
    Option α :=
  match j.field? k with
  | none => d
  | some .null => none
  | some v => get v

/-- A field that is a section, or the empty section. -/
def part (j : Json) (k : String) : Json :=
  (j.field? k).getD (.obj [])

end Json

/-- Settings from a value that has been checked against `ScanConfig.shape`. -/
def ScanConfig.ofChecked (j : Json) : ScanConfig :=
  let c := j.part "canonical"
  let l := j.part "layout"
  let e := l.part "expiry"
  let b := j.part "blur"
  let g := j.part "geometry"
  let lo := j.part "locator"
  let dt := j.part "detector"
  let cl := j.part "classifier"
  let ag := j.part "aggregator"
  let s := j.part "session"
  let dv := j.part "device"
  let d : ScanConfig := {}
  { canonical :=
      { width := c.natOr "width" d.canonical.width
        height := c.natOr "height" d.canonical.height
        borderValue := c.natOr "border_value" d.canonical.borderValue }
    layout :=
      { groups := ((l.field? "groups").bind Json.asList?).map (·.filterMap Json.asNat?)
          |>.getD d.layout.groups
        numberLeft := l.natOr "number_left" d.layout.numberLeft
        numberTop := l.natOr "number_top" d.layout.numberTop
        glyphWidth := l.natOr "glyph_width" d.layout.glyphWidth
        glyphHeight := l.natOr "glyph_height" d.layout.glyphHeight
        glyphPitch := l.natOr "glyph_pitch" d.layout.glyphPitch
        groupGap := l.natOr "group_gap" d.layout.groupGap
        expiry :=
          { left := e.natOr "left" d.layout.expiry.left
            top := e.natOr "top" d.layout.expiry.top
            glyphWidth := e.natOr "glyph_width" d.layout.expiry.glyphWidth
            glyphHeight := e.natOr "glyph_height" d.layout.expiry.glyphHeight
            glyphPitch := e.natOr "glyph_pitch" d.layout.expiry.glyphPitch } }
    blur := { sigma := b.float32Or "sigma" d.blur.sigma }
    geometry := { minQuadArea := g.floatOr "min_quad_area" d.geometry.minQuadArea }
    locator :=
      { guideInset := lo.float32Or "guide_inset" d.locator.guideInset
        band := lo.float32Or "band" d.locator.band
        sampleStep := lo.natOr "sample_step" d.locator.sampleStep
        minEdgeStrength := lo.float32Or "min_edge_strength" d.locator.minEdgeStrength
        minPoints := lo.natOr "min_points" d.locator.minPoints }
    detector :=
      { searchMarginX := dt.natOr "search_margin_x" d.detector.searchMarginX
        searchMarginY := dt.natOr "search_margin_y" d.detector.searchMarginY
        edgeThreshold := dt.natOr "edge_threshold" d.detector.edgeThreshold
        minEdgeDensity := dt.float32Or "min_edge_density" d.detector.minEdgeDensity
        expectedEdgeDensity := dt.float32Or "expected_edge_density" d.detector.expectedEdgeDensity
        minSlotConfidence := dt.float32Or "min_slot_confidence" d.detector.minSlotConfidence
        tryFlipped := dt.boolOr "try_flipped" d.detector.tryFlipped }
    classifier :=
      { confidenceFloor := cl.float32Or "confidence_floor" d.classifier.confidenceFloor
        sharpness := cl.float32Or "sharpness" d.classifier.sharpness
        rejectScore := cl.float32Or "reject_score" d.classifier.rejectScore
        shiftRadius := cl.natOr "shift_radius" d.classifier.shiftRadius }
    aggregator :=
      { confidenceThreshold := ag.float32Or "confidence_threshold" d.aggregator.confidenceThreshold
        minFrames := ag.natOr "min_frames" d.aggregator.minFrames
        requireExpiry := ag.boolOr "require_expiry" d.aggregator.requireExpiry
        requireLuhn := ag.boolOr "require_luhn" d.aggregator.requireLuhn }
    session :=
      { timeoutSecs := Json.optionOr Json.asFloat? s "timeout_secs" d.session.timeoutSecs
        maxFrames := Json.optionOr Json.asNat? s "max_frames" d.session.maxFrames
        resourceRetryBudget := s.natOr "resource_retry_budget" d.session.resourceRetryBudget
        emitPreview := s.boolOr "emit_preview" d.session.emitPreview }
    device := { memoryBudgetBytes := dv.natOr "memory_budget_bytes" d.device.memoryBudgetBytes } }

/-- Reads settings from a text; errors carry their line and column. -/
def ScanConfig.readText (text : String) : Except DecodeError ScanConfig :=
  (ScanConfig.shape.readText text).map ScanConfig.ofChecked

/-- Reads settings from a parsed JSON value; errors carry no place. -/
def ScanConfig.ofJson (j : Json) : Except DecodeError ScanConfig :=
  match ScanConfig.shape.decodeValue j with
  | .ok v => .ok (ScanConfig.ofChecked v)
  | .error p => .error { problem := p }

end CardOcr
