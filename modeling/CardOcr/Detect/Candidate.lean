/-! # Glyph group candidates

A `DigitCandidate` is a group of glyph cells found on the deskewed card: a group of the
number line or the expiry field, its ink box, the left edge of each cell to classify, the
top of the cells, the cell size, whether the card was turned upside down before it was
found, whether its ink is darker than the card, and how confident the detector is.
-/

namespace CardOcr

/-- An axis-aligned box in deskewed card pixels. -/
structure BoundingBox where
  x : Nat := 0
  y : Nat := 0
  width : Nat := 0
  height : Nat := 0
  deriving Repr, BEq, Inhabited

/-- Which part of the card a candidate covers. -/
inductive CandidateKind where
  /-- A group of the number line, by its index from the left. -/
  | numberGroup (index : Nat)
  /-- The `MM/YY` expiry field. -/
  | expiry
  deriving Repr, BEq, DecidableEq, Inhabited

/-- Whether a kind is a group of the number line. -/
def CandidateKind.isNumberGroup : CandidateKind → Bool
  | .numberGroup _ => true
  | .expiry => false

/-- A detected glyph group. -/
structure DigitCandidate where
  kind : CandidateKind := .numberGroup 0
  bbox : BoundingBox := {}
  xOffsets : List Nat := []
  yOffset : Nat := 0
  glyphWidth : Nat := 19
  glyphHeight : Nat := 27
  flipped : Bool := false
  darkInk : Bool := true
  confidence : Float32 := 1.0
  deriving Repr, Inhabited

end CardOcr
