import CardOcr.Glyph
import CardOcr.Layout
import CardOcr.Config.Basic
import CardOcr.Numeric.Extremum

/-! # Reading the digit in a glyph cell

A glyph is read by normalized cross-correlation with the digit templates of its cell size.
The glyph patch is taken with ink as the positive polarity (a dark-ink patch is inverted),
centred and scaled to unit length (`Glyph.normalize`); a flat patch is skipped.  Each
digit's score is its best correlation over the shifts `-r .. r` in both directions, starting
from `-1`.

Scores become probabilities by a softmax with the classifier's sharpness over ten digit
logits and one reject logit, the reject score.  The label is the first digit of highest
probability, provided that probability is at least the confidence floor and above the
reject probability; otherwise the glyph is rejected.
-/

namespace CardOcr

/-- The reading of one glyph: a probability for each digit and, last, the reject class. -/
structure GlyphReading where
  probabilities : Array Float32
  label : Option Nat
  deriving Inhabited

namespace GlyphReading

/-- Index of the reject class. -/
def reject : Nat := 10

/-- Probability of the label, or of the reject class when there is none. -/
def confidence (r : GlyphReading) : Float32 :=
  r.probabilities.getD (r.label.getD reject) 0

end GlyphReading

/-- The first of the indices `0 .. n - 1` where `f` is largest, with its value: an index
    replaces the incumbent only when it is strictly larger, from `(0, -∞)`. -/
def firstArgmax (f : Nat → Float32) (n : Nat) : Nat × Float32 :=
  (List.range n).foldl (fun best d => if f d > best.2 then (d, f d) else best) (0, -(1.0 / 0.0))

namespace ClassifierConfig

/-- The label of a glyph with probabilities `probs`: the first digit of highest probability,
    if that probability reaches the confidence floor and exceeds the reject probability. -/
def labelOf (cfg : ClassifierConfig) (probs : Array Float32) : Option Nat :=
  let (digit, p) := firstArgmax (fun d => probs.getD d 0) GlyphReading.reject
  if p ≥ cfg.confidenceFloor && p > probs.getD GlyphReading.reject 0 then some digit else none

/-- Turns the ten digit scores into a reading. -/
def decide (cfg : ClassifierConfig) (scores : Array Float32) : GlyphReading :=
  let logits := (scores.map fun s => Float32.maxNum s (-1.0) * cfg.sharpness).push
    (cfg.rejectScore * cfg.sharpness)
  let top := logits.foldl Float32.maxNum (-(1.0 / 0.0))
  let raw := logits.map fun l => (l - top).exp
  let sum := raw.foldl (· + ·) (-0.0)
  let probs := raw.map (· / sum)
  ⟨probs, cfg.labelOf probs⟩

end ClassifierConfig

/-- The templates of the digits 0 to 9 in a `w × h` cell. -/
def digitTemplates (w h : Nat) : Except Fault (Array (Array Float32)) :=
  (Array.range 10).mapM fun d => Glyph.template d w h

/-- The pixels `i, i + 1, …` (`n` of them, row-major) of the `w`-wide patch with top left
    corner `(x, y)`, coordinates moved into `[0, maxX] × [0, maxY]`, ink positive, appended
    to `out`. -/
def patchPixels (img : GrayImage) (x y maxX maxY : Int) (w : Nat) (darkInk : Bool) :
    Nat → Nat → Array Float32 → Array Float32
  | 0, _, out => out
  | n + 1, i, out =>
    let gx := (max 0 (min (x + (i % w : Nat)) maxX)).toNat
    let gy := (max 0 (min (y + (i / w : Nat)) maxY)).toNat
    let s := (img.get gx gy).toUInt64.toFloat32
    patchPixels img x y maxX maxY w darkInk n (i + 1) (out.push (if darkInk then 255 - s else s))

/-- The `w × h` patch with top left corner `(x, y)`, coordinates moved into the image,
    with ink positive, centred and of unit length; none for a flat patch.  An image without
    pixels has no patch to clamp into. -/
def glyphPatch (img : GrayImage) (x y : Int) (w h : Nat) (darkInk : Bool) :
    Except Fault (Option (Array Float32)) := do
  let maxX : Int := (img.width : Int) - 1
  let maxY : Int := (img.height : Int) - 1
  if w * h > 0 && maxX < 0 then throw (.emptyClampRange 0 maxX)
  if w * h > 0 && maxY < 0 then throw (.emptyClampRange 0 maxY)
  let v := patchPixels img x y maxX maxY w darkInk (w * h) 0 (Array.mkEmpty (w * h))
  let (n, ok) := Glyph.normalize v
  return if ok then some n else none

/-- `acc` plus the products of entries `i, i + 1, …` (`n` of them) of two patterns, added in
    order. -/
def productSum (a b : Array Float32) : Nat → Nat → Float32 → Float32
  | 0, _, acc => acc
  | n + 1, i, acc => productSum a b n (i + 1) (acc + a[i]! * b[i]!)

/-- Sum of the products of two patterns over their common length, in order, from negative
    zero. -/
def correlation (a b : Array Float32) : Float32 :=
  productSum a b (min a.size b.size) 0 (-0.0)

/-- Reads the glyph of a candidate whose cell starts at `x`, with the given templates. -/
def readGlyph (cfg : ClassifierConfig) (templates : Array (Array Float32)) (img : GrayImage)
    (c : DigitCandidate) (x : Nat) : Except Fault GlyphReading := do
  let r : Int := cfg.shiftRadius
  let shifts := (List.range (2 * cfg.shiftRadius + 1)).map fun (i : Nat) => (i : Int) - r
  let mut best : Array Float32 := Array.replicate 10 (-1.0)
  for dy in shifts do
    for dx in shifts do
      match ← glyphPatch img (x + dx) (c.yOffset + dy) c.glyphWidth c.glyphHeight c.darkInk with
      | none => pure ()
      | some patch =>
        best := (best.zip templates).map fun (b, t) => Float32.maxNum b (correlation patch t)
  return cfg.decide best

/-- Reads every glyph of a candidate with the given templates, left to right. -/
def readCandidate (cfg : ClassifierConfig) (templates : Array (Array Float32))
    (img : GrayImage) (c : DigitCandidate) : Except Fault (List GlyphReading) :=
  c.xOffsets.mapM (readGlyph cfg templates img c)

/-- A glyph reader: the classifier settings and the digit templates of the cell sizes of a
    layout, built once. -/
structure GlyphReader where
  config : ClassifierConfig
  templates : List ((Nat × Nat) × Array (Array Float32))
  deriving Inhabited

namespace GlyphReader

/-- The templates of a cell size: the stored ones, or new ones. -/
def templatesFor (r : GlyphReader) (w h : Nat) : Except Fault (Array (Array Float32)) :=
  match r.templates.lookup (w, h) with
  | some t => .ok t
  | none => digitTemplates w h

/-- The reader for the slots of a layout. -/
def ofLayout (l : CardLayout) (cfg : ClassifierConfig) : Except Fault GlyphReader :=
  (l.numberSlots ++ [l.expirySlot]).foldlM (fun r s => do
    if (r.templates.lookup (s.glyphWidth, s.glyphHeight)).isSome then return r
    let t ← digitTemplates s.glyphWidth s.glyphHeight
    return { r with templates := r.templates ++ [((s.glyphWidth, s.glyphHeight), t)] })
    ⟨cfg, []⟩

/-- Reads every glyph of a candidate, left to right. -/
def read (r : GlyphReader) (img : GrayImage) (c : DigitCandidate) :
    Except Fault (List GlyphReading) := do
  readCandidate r.config (← r.templatesFor c.glyphWidth c.glyphHeight) img c

end GlyphReader

end CardOcr
