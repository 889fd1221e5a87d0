import CardOcr.Glyph
import CardOcr.Layout
import CardOcr.Image.Warp
import CardOcr.Random.Uniform

/-! # Synthetic cards

A `SyntheticCard` draws a flat card face: the card shade everywhere, the digits of the
number in the cells of the number line (group by group, until the digits run out), and the
expiry as `MM/YY` (month and year modulo one hundred) in the expiry cells, all in the ink
shade; a flipped card is turned by half a turn.

`renderFrame` places the face in a camera frame: the inverse of the homography from the
face onto the outline maps each frame pixel back onto the face, and pixels outside it take
the background shade.  `GrayImage.addNoise` adds uniform integer noise in
`[-a, a]` to every pixel in row-major order, clamping to `[0, 255]`.
-/

namespace CardOcr

/-- A card face to draw. -/
structure SyntheticCard where
  number : String
  expiry : Option (Nat × Nat) := none
  layout : LayoutConfig
  width : Nat
  height : Nat
  cardShade : UInt8 := 215
  inkShade : UInt8 := 35
  flipped : Bool := false
  deriving Inhabited

/-- `n` with at least two decimal digits. -/
def twoDigitText (n : Nat) : String :=
  let s := toString n
  if s.length < 2 then "0" ++ s else s

namespace SyntheticCard

/-- A card of the configuration's layout and canonical size. -/
def ofConfig (number : String) (c : ScanConfig) : SyntheticCard :=
  { number, layout := c.layout, width := c.canonical.width, height := c.canonical.height }

/-- Draws the number digits into their cells, group by group. -/
def drawNumber (card : SyntheticCard) (img : GrayImage) : Except Fault GrayImage := do
  let l := card.layout
  let mut img := img
  let mut digits := card.number.toList.filter Char.isDigit
  let mut position := 0
  for (len, group) in l.groups.zipIdx do
    let mut stop := false
    for _ in [0:len] do
      match digits with
      | [] => stop := true; break
      | ch :: rest =>
        digits := rest
        let x ← l.numberCell group position
        img ← Glyph.draw img ch x l.numberTop l.glyphWidth l.glyphHeight card.inkShade
        position := position + 1
    if stop then break
  return img

/-- The flat card face.  Its bytes are reserved before anything is drawn. -/
def renderCanonical (card : SyntheticCard) : Except Fault GrayImage := do
  reserveCheck (card.width * card.height) 1
  let mut img ← card.drawNumber (GrayImage.filled card.width card.height card.cardShade)
  if let some (month, year) := card.expiry then
    let e := card.layout.expiry
    let text := twoDigitText (month % 100) ++ "/" ++ twoDigitText (year % 100)
    for (ch, i) in text.toList.zipIdx do
      let x ← checkedAdd 32 e.left (← checkedMul 32 i e.glyphPitch)
      img ← Glyph.draw img ch x e.top e.glyphWidth e.glyphHeight card.inkShade
  if card.flipped then img := img.rotate180
  return img

/-- The face placed at `quad` in a `w × h` frame over the background shade. -/
def renderFrame (card : SyntheticCard) (w h : Nat) (quad : Quad) (background : UInt8) :
    Except FrameFailure GrayImage := do
  let face ← card.renderCanonical.liftFault
  let forward ← Homography.ofCanonical card.width card.height quad
  let some inverse := forward.inverse?
    | throw (.error (.invalidGeometry "card placement is not invertible"))
  (face.warp inverse background w h).liftFault

end SyntheticCard

/-- Adds uniform noise in `[-amplitude, amplitude]` to every pixel, row by row, clamped to
    `[0, 255]`; amplitude zero draws nothing. -/
def GrayImage.addNoise (img : GrayImage) (amplitude : Nat) (g : ChaChaStream) :
    GrayImage × ChaChaStream := Id.run do
  if amplitude = 0 then return (img, g)
  let a : Int := amplitude
  let mut g := g
  let mut out := ByteArray.emptyWithCapacity img.pixels.size
  for p in img.pixels do
    let (d, g') := g.uniformSmall (-a) a
    g := g'
    let v : Int := p.toNat + d
    out := out.push (max 0 (min 255 v)).toNat.toUInt8
  return ({ img with pixels := out }, g)

/-- The face placed in a frame, with noise drawn from the seeded stream. -/
def SyntheticCard.renderNoisyFrame (card : SyntheticCard) (w h : Nat) (quad : Quad)
    (background : UInt8) (amplitude : Nat) (seed : UInt64) : Except FrameFailure GrayImage := do
  let frame ← card.renderFrame w h quad background
  return (frame.addNoise amplitude (ChaChaStream.ofSeed64 seed)).1

end CardOcr
