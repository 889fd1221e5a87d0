import CardOcr.Config.Basic
import CardOcr.Json.Error
import CardOcr.Decimal.Fixed

/-! # Checking settings

`ScanConfig.validate` refuses settings that cannot work, with the first of these faults in
this order: an empty canonical size, empty groups, a glyph pitch below the glyph width, a
number line or expiry field that does not fit the card (any 32-bit overflow of its extent
counts as not fitting), search margins as large as the card, a threshold or floor outside
`[0, 1]`, a negative or non-finite blur, a guide inset outside `[0, 0.5)`, and a time limit
that is no duration.

A duration is a whole number of seconds below `2 ^ 64` and nanoseconds;
`Duration.ofSeconds?` rounds a number of seconds to the nearest nanosecond, an exact half to
the even one, and refuses negative, non-finite and too large numbers.
-/

namespace CardOcr

/-- Why a file could not be read. -/
inductive IoFailure where
  | notFound
  deriving Repr, BEq, Inhabited

/-- Wording of a file reading failure. -/
def IoFailure.message : IoFailure → String
  | .notFound => "entity not found"

/-- Why settings could not be loaded. -/
inductive ConfigError where
  | io (kind : IoFailure)
  | parse (e : DecodeError)
  | invalid (msg : String)
  deriving Repr, Inhabited

/-- Wording of a settings error. -/
def ConfigError.message : ConfigError → String
  | .io _ => "failed to read config file"
  | .parse _ => "failed to parse config file"
  | .invalid msg => "invalid configuration: " ++ msg

/-- A span of time: seconds and the nanoseconds of the last second. -/
structure Duration where
  secs : Nat
  nanos : Nat
  deriving Repr, BEq, Inhabited

/-- A number of seconds as a duration, rounded to the nearest nanosecond (an exact half to
    the even nanosecond); `none` for negative numbers, NaN, the infinities and numbers of
    at least `2 ^ 64` seconds.  Negative zero is zero. -/
def Duration.ofSeconds? (x : Float) : Option Duration :=
  if x < 0 || x.isNaN || x.isInf then none
  else if x == 0 then some ⟨0, 0⟩
  else
    let v := Decimal.Binary.ofFloat x
    if v.mant * Nat.pow 2 v.exp.toNat ≥ Nat.pow 2 64 * Nat.pow 2 (-v.exp).toNat then none
    else
      let n := v.scaledRound 9
      some ⟨n / 1000000000, n % 1000000000⟩

/-- The length of a duration in nanoseconds. -/
def Duration.toNanos (d : Duration) : Nat := d.secs * 1000000000 + d.nanos

/-- The time limit of a session, if it has one that is a duration. -/
def SessionConfig.timeout (s : SessionConfig) : Option Duration :=
  s.timeoutSecs.bind Duration.ofSeconds?

/-- Whether `n` is a 32-bit unsigned value. -/
def fitsU32 (n : Nat) : Bool := n < Nat.pow 2 32

/-- Right edge of the number line, if no step of its 32-bit computation overflows:
    `(digits - 1) · pitch + width + (groups - 1) · gap + left`. -/
def LayoutConfig.numberRight? (l : LayoutConfig) : Option Nat := do
  let digits ← l.groups.foldlM (fun n g => if fitsU32 g && fitsU32 (n + g) then some (n + g) else none) 0
  let gapCount ← if l.groups.length = 0 then none else some (l.groups.length - 1)
  let gaps ← if fitsU32 gapCount && fitsU32 (gapCount * l.groupGap) then some (gapCount * l.groupGap) else none
  let d ← if digits = 0 then none else some (digits - 1)
  let x ← if fitsU32 (d * l.glyphPitch) then some (d * l.glyphPitch) else none
  let x ← if fitsU32 (x + l.glyphWidth) then some (x + l.glyphWidth) else none
  let x ← if fitsU32 (x + gaps) then some (x + gaps) else none
  if fitsU32 (x + l.numberLeft) then some (x + l.numberLeft) else none

/-- Right edge of the expiry field, if its 32-bit computation does not overflow:
    `4 · pitch + width + left`. -/
def ExpiryLayoutConfig.right? (e : ExpiryLayoutConfig) : Option Nat := do
  let x ← if fitsU32 (e.glyphPitch * 4) then some (e.glyphPitch * 4) else none
  let x ← if fitsU32 (x + e.glyphWidth) then some (x + e.glyphWidth) else none
  if fitsU32 (x + e.left) then some (x + e.left) else none

/-- Whether `a + b` fits 32 bits and is at most `limit`. -/
def bottomFits (a b limit : Nat) : Bool := fitsU32 (a + b) && a + b ≤ limit

/-- Whether a single precision number lies in `[0, 1]` (NaN does not). -/
def unitInterval (x : Float32) : Bool := 0 ≤ x && x ≤ 1

/-- The first fault of the settings, if any. -/
def ScanConfig.validate (cfg : ScanConfig) : Except ConfigError Unit := do
  let c := cfg.canonical
  let l := cfg.layout
  let fail (msg : String) : Except ConfigError Unit := .error (.invalid msg)
  if c.width = 0 || c.height = 0 then fail "canonical size must be non-zero"
  if l.groups.isEmpty || l.groups.contains 0 then fail "layout groups must be non-empty and non-zero"
  if l.glyphWidth = 0 || l.glyphHeight = 0 || l.glyphPitch < l.glyphWidth then
    fail "glyph pitch must be at least the glyph width"
  let numberFits := (match l.numberRight? with
    | some r => decide (r ≤ c.width)
    | none => false) && bottomFits l.numberTop l.glyphHeight c.height
  if !numberFits then
    fail ("number line at x=" ++ toString l.numberLeft ++ " does not fit the " ++
      toString c.width ++ "x" ++ toString c.height ++ " canonical card")
  let e := l.expiry
  let expiryFits := decide (e.glyphPitch ≥ e.glyphWidth) && (match e.right? with
    | some r => decide (r ≤ c.width)
    | none => false) && bottomFits e.top e.glyphHeight c.height
  if !expiryFits then fail "expiry field does not fit the canonical card"
  if cfg.detector.searchMarginX ≥ c.width || cfg.detector.searchMarginY ≥ c.height then
    fail "detector search margins must be smaller than the canonical card"
  if !unitInterval cfg.aggregator.confidenceThreshold then
    fail "aggregator.confidence_threshold must be within [0, 1]"
  if !unitInterval cfg.classifier.confidenceFloor then
    fail "classifier.confidence_floor must be within [0, 1]"
  if cfg.blur.sigma < 0 || !cfg.blur.sigma.isFinite then
    fail "blur.sigma must be a finite non-negative number"
  if !(0 ≤ cfg.locator.guideInset && cfg.locator.guideInset < 0.5) then
    fail "locator.guide_inset must be within [0, 0.5)"
  match cfg.session.timeoutSecs with
  | some secs =>
    if (Duration.ofSeconds? secs).isNone then
      fail "session.timeout_secs must be a finite non-negative number"
  | none => pure ()

end CardOcr
