import CardOcr.Detect.Slot

/-! # Detecting the glyph groups of a card

`CardLayout.detect` scores every slot of the layout on the deskewed card: the number
groups that are found, in layout order, and the expiry field if it is found.  When not every
number group is found and the detector may try the card upside down, the image turned by
half a turn is scored as well, and that reading is kept if it finds more number groups, or
as many and more slots in all, or the same counts with a higher mean confidence.
-/

namespace CardOcr

/-- The glyph groups found on a card, with the image they were found on. -/
structure Detection where
  image : GrayImage
  flipped : Bool
  number : List DigitCandidate
  expiry : Option DigitCandidate
  deriving Inhabited

namespace Detection

/-- All candidates: the number groups, then the expiry field. -/
def candidates (d : Detection) : List DigitCandidate := d.number ++ d.expiry.toList

/-- Number of slots found. -/
def slotsFound (d : Detection) : Nat := d.candidates.length

/-- Mean confidence of the slots found; zero when none is. -/
def meanConfidence (d : Detection) : Float32 :=
  let n := d.slotsFound
  if n = 0 then 0
  else (d.candidates.foldl (fun s c => s + c.confidence) (-0.0)) / n.toUInt64.toFloat32

/-- Whether `d` is a better reading of a card than `e`: more number groups, or as many
    and more slots, or the same counts and a higher mean confidence. -/
def betterThan (d e : Detection) : Bool :=
  d.number.length > e.number.length ||
    (d.number.length == e.number.length &&
      (d.slotsFound > e.slotsFound ||
        (d.slotsFound == e.slotsFound && d.meanConfidence > e.meanConfidence)))

end Detection

namespace CardLayout

/-- Scores every slot on an image, marking the candidates with the orientation. -/
def detectOriented (l : CardLayout) (cfg : DetectorConfig) (img : GrayImage) (flipped : Bool) :
    Except Fault Detection := do
  let g := img.gradients
  let score (s : SlotLayout) : Except Fault (Option DigitCandidate) := do
    return (← s.score cfg img g).map fun c => { c with flipped := flipped }
  let number ← l.numberSlots.filterMapM score
  let expiry ← score l.expirySlot
  return ⟨img, flipped, number, expiry⟩

/-- The glyph groups of a card, upright or, when that reads better, upside down. -/
def detect (l : CardLayout) (cfg : DetectorConfig) (img : GrayImage) : Except Fault Detection := do
  let upright ← l.detectOriented cfg img false
  if upright.number.length = l.numberSlots.length || !cfg.tryFlipped then return upright
  let turned ← l.detectOriented cfg img.rotate180 true
  return if turned.betterThan upright then turned else upright

end CardLayout

end CardOcr
