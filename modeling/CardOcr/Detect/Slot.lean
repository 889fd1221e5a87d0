import CardOcr.Layout
import CardOcr.Image.Gradient
import CardOcr.Image.Threshold

/-! # Finding the glyphs of one slot

A slot is searched in a window around its nominal box, widened by the search margins and
cut to the image (`SearchWindow.around`).  The window must hold enough edge pixels
(`edgeDensity`: the share of strengths above the edge threshold); its ink is told from the
card by Otsu's threshold, ink being the minority class (`InkPolarity`).

The glyph row is then aligned in two steps.  The vertical shift `dy` is the one whose band
of glyph height captures the most ink rows; the horizontal shift `dx` is the one whose comb
of cells captures the most ink columns within that band.  Shifts are tried in the order
`0, -1, 1, -2, 2, …` up to the margin and a later shift wins only when it captures strictly
more (`bestShift`).

The confidence of the slot is `min (density / expected, 1) · fill`, where `fill` is the share
of the window's ink that the aligned comb captures; below the least slot confidence the slot
is not found.  The candidate's box is the bounding box of the captured ink, or the shifted
nominal box when there is none.
-/

namespace CardOcr

/-- A rectangle of the image searched for a slot. -/
structure SearchWindow where
  x : Nat
  y : Nat
  width : Nat
  height : Nat
  deriving Repr, Inhabited

namespace SearchWindow

/-- The nominal box widened by the margins and cut to a `w × h` image; none if nothing of
    it is left. -/
def around (box : BoundingBox) (marginX marginY w h : Nat) : Option SearchWindow :=
  let x0 := box.x - marginX
  let y0 := box.y - marginY
  let x1 := min (box.x + box.width + marginX) w
  let y1 := min (box.y + box.height + marginY) h
  if x1 ≤ x0 ∨ y1 ≤ y0 then none
  else some ⟨x0, y0, x1 - x0, y1 - y0⟩

def area (win : SearchWindow) : Nat := win.width * win.height

end SearchWindow

/-- Share of the window's pixels whose edge strength is above `threshold`. -/
def edgeDensity (g : GradientMap) (win : SearchWindow) (threshold : Nat) : Float32 :=
  let edges := (List.range win.height).foldl (fun acc dy =>
    (List.range win.width).foldl (fun acc dx =>
      if g.get (win.x + dx) (win.y + dy) > threshold then acc + 1 else acc) acc) 0
  edges.toUInt64.toFloat32 / win.area.toUInt64.toFloat32

namespace GrayImage

/-- The `w × h` part of an image whose top left corner is `(x, y)`. -/
def crop (img : GrayImage) (x y w h : Nat) : GrayImage :=
  GrayImage.ofFn w h fun px py => img.get (x + px) (y + py)

end GrayImage

/-- Which shades are ink: those at most the threshold when the ink is dark, those above it
    otherwise. -/
structure InkPolarity where
  level : UInt8
  darkInk : Bool
  deriving Repr, Inhabited

namespace InkPolarity

@[inline] def isInk (p : InkPolarity) (v : UInt8) : Bool :=
  if p.darkInk then v ≤ p.level else v > p.level

/-- The polarity of a patch: its Otsu level, and dark ink when at most half of the pixels
    are at or below the level. -/
def ofPatch (patch : GrayImage) : InkPolarity :=
  let level := patch.otsuLevel
  let dark := patch.pixels.foldl (fun n v => if v ≤ level then n + 1 else n) 0
  ⟨level, dark * 2 ≤ patch.pixels.size⟩

end InkPolarity

/-- Ink pixels of each row of a patch, over the columns `0 .. width - 1`. -/
def rowProfile (patch : GrayImage) (p : InkPolarity) : Array Nat :=
  (Array.range patch.height).map fun y =>
    (List.range patch.width).foldl (fun n x => if p.isInk (patch.get x y) then n + 1 else n) 0

/-- Ink pixels of each column of a patch, over the rows `lo .. hi - 1`. -/
def columnProfile (patch : GrayImage) (p : InkPolarity) (lo hi : Nat) : Array Nat :=
  (Array.range patch.width).map fun x =>
    (List.range (hi - lo)).foldl (fun n i => if p.isInk (patch.get x (lo + i)) then n + 1 else n) 0

/-- Sum of the entries `start .. start + len - 1` of a profile that exist. -/
def spanSum (profile : Array Nat) (start : Int) (len : Nat) : Nat :=
  let lo := (max start 0).toNat
  let hi := (max 0 (min (start + len) profile.size)).toNat
  (profile.extract lo hi).foldr (· + ·) 0

/-- The shifts tried in order: `0, -1, 1, -2, 2, …, -r, r`. -/
def shiftOrder (r : Nat) : List Int :=
  0 :: (List.range r).flatMap fun s => [-((s + 1 : Nat) : Int), ((s + 1 : Nat) : Int)]

/-- The first shift of `shiftOrder r` with the largest capture, and that capture; shift 0
    and capture 0 when nothing is captured. -/
def bestShift (r : Nat) (capture : Int → Nat) : Int × Nat :=
  (shiftOrder r).foldl (fun best d =>
    let c := capture d
    if c > best.2 then (d, c) else best) (0, 0)

/-- A value moved by a shift, stopping at zero, as a 32-bit word. -/
def shiftedBy (v : Nat) (d : Int) : Nat := (max (v + d) 0).toNat % Nat.pow 2 32

/-- The corners `(x0, y0, x1, y1)` of the least box around the points taken so far (none
    before the first), widened to take in `(x, y)`. -/
def growCorners (acc : Option (Nat × Nat × Nat × Nat)) (x y : Nat) :
    Option (Nat × Nat × Nat × Nat) :=
  match acc with
  | none => some (x, y, x, y)
  | some (x0, y0, x1, y1) => some (min x0 x, min y0 y, max x1 x, max y1 y)

/-- The box whose first and last pixels are the corners `(x0, y0)` and `(x1, y1)`. -/
def BoundingBox.ofCorners : Nat × Nat × Nat × Nat → BoundingBox
  | (x0, y0, x1, y1) => { x := x0, y := y0, width := x1 - x0 + 1, height := y1 - y0 + 1 }

/-- Bounding box of the pixels of a patch that `isInk` takes for ink, in the columns of the
    shifted cells and in the rows `lo .. hi - 1`; none when there are none. -/
def inkBounds (patch : GrayImage) (isInk : UInt8 → Bool) (cells : List Int) (dx : Int)
    (glyphWidth lo hi : Nat) : Option BoundingBox :=
  let w : Int := patch.width
  let clampCol (v : Int) : Nat := (max 0 (min v w)).toNat
  let bounds := cells.foldl (fun acc cell =>
    let c0 := clampCol (cell + dx)
    let c1 := clampCol (cell + dx + glyphWidth)
    (List.range (hi - lo)).foldl (fun acc i =>
      let y := lo + i
      (List.range (c1 - c0)).foldl (fun acc j =>
        let x := c0 + j
        if isInk (patch.get x y) then growCorners acc x y else acc) acc) acc) none
  bounds.map BoundingBox.ofCorners

namespace SlotLayout

/-- Searches an image for the glyphs of a slot: the candidate found, or none when the
    window is empty, has too few edges or no ink, or the confidence is too low. -/
def score (slot : SlotLayout) (cfg : DetectorConfig) (img : GrayImage) (g : GradientMap) :
    Except Fault (Option DigitCandidate) := do
  let nominal ← slot.nominalBox
  let some win := SearchWindow.around nominal cfg.searchMarginX cfg.searchMarginY img.width img.height
    | return none
  let density := edgeDensity g win cfg.edgeThreshold
  if density < cfg.minEdgeDensity then return none
  let patch := img.crop win.x win.y win.width win.height
  let pol := InkPolarity.ofPatch patch
  let rows := rowProfile patch pol
  let totalInk := rows.foldr (· + ·) 0
  if totalInk = 0 then return none
  let top : Int := (slot.top : Int) - win.y
  let dy := (bestShift cfg.searchMarginY fun d => spanSum rows (top + d) slot.glyphHeight).1
  let rowLo := (max (top + dy) 0).toNat % Nat.pow 2 32
  let rowHi := min ((max (top + dy + slot.glyphHeight) 0).toNat % Nat.pow 2 32) win.height
  let columns := columnProfile patch pol rowLo rowHi
  let cells : List Int := slot.cells.map fun (c : Nat) => (c : Int) - win.x
  let (dx, captured) := bestShift cfg.searchMarginX fun d =>
    (cells.map fun c => spanSum columns (c + d) slot.glyphWidth).foldr (· + ·) 0
  let fill := captured.toUInt64.toFloat32 / totalInk.toUInt64.toFloat32
  let confidence := min (density / cfg.expectedEdgeDensity) 1.0 * fill
  if confidence < cfg.minSlotConfidence then return none
  let bbox := match inkBounds patch pol.isInk cells dx slot.glyphWidth rowLo rowHi with
    | some b => { b with x := win.x + b.x, y := win.y + b.y }
    | none => { nominal with x := shiftedBy nominal.x dx, y := shiftedBy nominal.y dy }
  return some
    { kind := slot.kind, bbox := bbox,
      xOffsets := slot.digitCells.map fun i => shiftedBy (slot.cells.getD i 0) dx,
      yOffset := shiftedBy slot.top dy, glyphWidth := slot.glyphWidth,
      glyphHeight := slot.glyphHeight, flipped := false, darkInk := pol.darkInk,
      confidence := confidence }

end SlotLayout

end CardOcr
