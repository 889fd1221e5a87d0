import Mathlib
import CardOcr.Detect.Slot

/-!
# The ink box of a slot

Once a slot's comb is aligned, the candidate's box is the bounding box of the ink under the
comb (`inkBounds`).  The scan visits cell by cell, row by row and column by column the pixels
under each cell moved by the shift and cut to the patch, and keeps the corners of the least box
around the ink met so far (`growCorners`).

The corners kept are the least and greatest column and row of the ink met so far
(`CornersHull`).  Taking in one pixel keeps them so (`CornersHull.grow`), by the library's
`IsLeast.insert` and `IsGreatest.insert`.  A loop whose every round keeps them so keeps them so
for the union of what its rounds meet (`CornersHull.foldl`), and the scan is three such loops
nested.  What the scan meets is the ink under the comb (`combInk`), whatever the order of the
cells, their overlaps and the parts of them the patch cuts away.

## Key results

- `BoundingBox.Hugs.pixels_subset`: a box whose edges are the extremes of a set is the least
  box around it
- `CornersHull.grow`, `CornersHull.foldl`: the corners stay extreme pixel by pixel, loop by loop
- `inkBounds_tightest`: the ink box is none exactly when there is no ink under the comb, and
  otherwise the least box that covers that ink
-/

namespace CardOcr

namespace BoundingBox

/-- The pixels a box covers. -/
def pixels (b : BoundingBox) : Set (ℕ × ℕ) :=
  {p | b.x ≤ p.1 ∧ p.1 < b.x + b.width ∧ b.y ≤ p.2 ∧ p.2 < b.y + b.height}

@[simp] theorem mem_pixels {b : BoundingBox} {p : ℕ × ℕ} :
    p ∈ b.pixels ↔ b.x ≤ p.1 ∧ p.1 < b.x + b.width ∧ b.y ≤ p.2 ∧ p.2 < b.y + b.height :=
  Iff.rfl

/-- A box hugs a set of pixels when its first and last columns are the least and greatest
    columns of the set, and its first and last rows its least and greatest rows. -/
structure Hugs (b : BoundingBox) (S : Set (ℕ × ℕ)) : Prop where
  left : IsLeast (Prod.fst '' S) b.x
  right : IsGreatest (Prod.fst '' S) (b.x + b.width - 1)
  top : IsLeast (Prod.snd '' S) b.y
  bottom : IsGreatest (Prod.snd '' S) (b.y + b.height - 1)
  width_pos : 0 < b.width
  height_pos : 0 < b.height

namespace Hugs

variable {b b' : BoundingBox} {S : Set (ℕ × ℕ)}

/-- A box that hugs a set covers it. -/
theorem subset_pixels (h : b.Hugs S) : S ⊆ b.pixels := by
  intro p hp
  have hx0 := h.left.2 (Set.mem_image_of_mem Prod.fst hp)
  have hx1 := h.right.2 (Set.mem_image_of_mem Prod.fst hp)
  have hy0 := h.top.2 (Set.mem_image_of_mem Prod.snd hp)
  have hy1 := h.bottom.2 (Set.mem_image_of_mem Prod.snd hp)
  have hw := h.width_pos
  have hh := h.height_pos
  simp only [mem_pixels]
  omega

/-- A box that hugs a set is the least box around it: every box that covers the set covers
    it. -/
theorem pixels_subset (h : b.Hugs S) (h' : S ⊆ b'.pixels) : b.pixels ⊆ b'.pixels := by
  -- the set's extreme pixels are on `b`'s edges and inside `b'`
  obtain ⟨pl, hpl, hl⟩ := h.left.1
  obtain ⟨pr, hpr, hr⟩ := h.right.1
  obtain ⟨pt, hpt, ht⟩ := h.top.1
  obtain ⟨pb, hpb, hb⟩ := h.bottom.1
  have hl' := h' hpl
  have hr' := h' hpr
  have ht' := h' hpt
  have hb' := h' hpb
  have hw := h.width_pos
  have hh := h.height_pos
  intro p hp
  simp only [mem_pixels] at hp hl' hr' ht' hb' ⊢
  omega

end Hugs

end BoundingBox

/-! ## Corners of the ink met so far -/

/-- Corners `(x0, y0, x1, y1)` kept for a set of pixels: none for the empty set, else its least
    and greatest column and row. -/
def CornersHull : Option (ℕ × ℕ × ℕ × ℕ) → Set (ℕ × ℕ) → Prop
  | none, S => S = ∅
  | some (x0, y0, x1, y1), S => IsLeast (Prod.fst '' S) x0 ∧ IsGreatest (Prod.fst '' S) x1 ∧
      IsLeast (Prod.snd '' S) y0 ∧ IsGreatest (Prod.snd '' S) y1

namespace CornersHull

variable {acc : Option (ℕ × ℕ × ℕ × ℕ)} {S S' : Set (ℕ × ℕ)}

theorem of_eq (h : CornersHull acc S) (hS : S = S') : CornersHull acc S' := hS ▸ h

/-- Taking in a pixel widens the corners to the extremes of the set with the pixel. -/
theorem grow (h : CornersHull acc S) (x y : ℕ) :
    CornersHull (growCorners acc x y) (insert (x, y) S) := by
  cases acc with
  | none =>
    -- the first pixel is the whole set
    have hS : S = ∅ := h
    subst hS
    simp only [growCorners, CornersHull, ← Set.singleton_def, Set.image_singleton]
    exact ⟨isLeast_singleton, isGreatest_singleton, isLeast_singleton, isGreatest_singleton⟩
  | some c =>
    obtain ⟨x0, y0, x1, y1⟩ := c
    obtain ⟨hx0, hx1, hy0, hy1⟩ := h
    simp only [growCorners, CornersHull, Set.image_insert_eq]
    refine ⟨?_, ?_, ?_, ?_⟩
    · rw [min_comm]
      exact hx0.insert x
    · rw [max_comm]
      exact hx1.insert x
    · rw [min_comm]
      exact hy0.insert y
    · rw [max_comm]
      exact hy1.insert y

/-- A loop whose every round keeps the corners, for what was met before and what the round
    meets, keeps them for all that its rounds meet. -/
theorem foldl {α : Type} {f : Option (ℕ × ℕ × ℕ × ℕ) → α → Option (ℕ × ℕ × ℕ × ℕ)}
    {T : α → Set (ℕ × ℕ)}
    (hf : ∀ acc S a, CornersHull acc S → CornersHull (f acc a) (S ∪ T a)) :
    ∀ (l : List α) {acc S}, CornersHull acc S →
      CornersHull (l.foldl f acc) (S ∪ ⋃ a ∈ l, T a)
  | [], _, _, h => h.of_eq (by simp)
  | a :: l, acc, S, h => by
    rw [List.foldl_cons]
    refine (foldl hf l (hf acc S a h)).of_eq ?_
    ext p
    simp [or_assoc]

/-- The corners are none exactly for the empty set. -/
theorem eq_none_iff (h : CornersHull acc S) : acc = none ↔ S = ∅ := by
  cases acc with
  | none => exact ⟨fun _ => h, fun _ => rfl⟩
  | some c =>
    obtain ⟨x0, y0, x1, y1⟩ := c
    obtain ⟨⟨p, hp, -⟩, -⟩ := h.1
    exact ⟨fun h => (by cases h), fun hS => (by simp [hS] at hp)⟩

/-- The box of the corners of a set hugs it. -/
theorem hugs {c : ℕ × ℕ × ℕ × ℕ} (h : CornersHull (some c) S) :
    (BoundingBox.ofCorners c).Hugs S := by
  obtain ⟨x0, y0, x1, y1⟩ := c
  obtain ⟨hx0, hx1, hy0, hy1⟩ := h
  -- the least column is at most the greatest, so the width counts them inclusively
  have hx : x0 ≤ x1 := hx0.2 hx1.1
  have hy : y0 ≤ y1 := hy0.2 hy1.1
  have hx' : x0 + (x1 - x0 + 1) - 1 = x1 := by omega
  have hy' : y0 + (y1 - y0 + 1) - 1 = y1 := by omega
  refine ⟨hx0, ?_, hy0, ?_, Nat.succ_pos _, Nat.succ_pos _⟩
  · show IsGreatest _ (x0 + (x1 - x0 + 1) - 1)
    rw [hx']
    exact hx1
  · show IsGreatest _ (y0 + (y1 - y0 + 1) - 1)
    rw [hy']
    exact hy1

end CornersHull

/-! ## The scan under the comb -/

/-- The ink under a comb of cells moved by `dx`: the pixels of the rows `lo .. hi - 1` that lie
    in the patch, under the columns `c + dx .. c + dx + glyphWidth - 1` of some cell `c`, and
    that `isInk` takes for ink. -/
def combInk (patch : GrayImage) (isInk : UInt8 → Bool) (cells : List ℤ) (dx : ℤ)
    (glyphWidth lo hi : ℕ) : Set (ℕ × ℕ) :=
  {p | lo ≤ p.2 ∧ p.2 < hi ∧ p.1 < patch.width ∧
    (∃ c ∈ cells, c + dx ≤ p.1 ∧ (p.1 : ℤ) < c + dx + glyphWidth) ∧
    isInk (patch.get p.1 p.2) = true}

section Scan

variable (patch : GrayImage) (isInk : UInt8 → Bool)

/-- The ink met at one pixel. -/
def inkAtPixel (x y : ℕ) : Set (ℕ × ℕ) := {p | p = (x, y) ∧ isInk (patch.get x y) = true}

/-- One round of the innermost loop takes in its pixel when it is ink. -/
theorem cornersHull_pixel {acc : Option (ℕ × ℕ × ℕ × ℕ)} {S : Set (ℕ × ℕ)}
    (h : CornersHull acc S) (x y : ℕ) :
    CornersHull (if isInk (patch.get x y) then growCorners acc x y else acc)
      (S ∪ inkAtPixel patch isInk x y) := by
  by_cases hink : isInk (patch.get x y) = true
  · rw [if_pos hink]
    refine (h.grow x y).of_eq ?_
    ext p
    simp [inkAtPixel, hink, or_comm]
  · rw [if_neg hink]
    refine h.of_eq ?_
    ext p
    simp [inkAtPixel, hink]

/-- A row of a cell takes in the ink among its columns `x0 .. x0 + n - 1`. -/
theorem cornersHull_row {acc : Option (ℕ × ℕ × ℕ × ℕ)} {S : Set (ℕ × ℕ)}
    (h : CornersHull acc S) (x0 n y : ℕ) :
    CornersHull ((List.range n).foldl (fun acc j =>
        if isInk (patch.get (x0 + j) y) then growCorners acc (x0 + j) y else acc) acc)
      (S ∪ ⋃ j ∈ List.range n, inkAtPixel patch isInk (x0 + j) y) :=
  CornersHull.foldl (fun _ _ j h => cornersHull_pixel patch isInk h (x0 + j) y) _ h

/-- A cell takes in the ink among its columns `x0 .. x0 + n - 1` of the rows
    `lo .. lo + m - 1`. -/
theorem cornersHull_cell {acc : Option (ℕ × ℕ × ℕ × ℕ)} {S : Set (ℕ × ℕ)}
    (h : CornersHull acc S) (x0 n lo m : ℕ) :
    CornersHull ((List.range m).foldl (fun acc i =>
        (List.range n).foldl (fun acc j =>
          if isInk (patch.get (x0 + j) (lo + i)) then growCorners acc (x0 + j) (lo + i)
          else acc) acc) acc)
      (S ∪ ⋃ i ∈ List.range m, ⋃ j ∈ List.range n, inkAtPixel patch isInk (x0 + j) (lo + i)) :=
  CornersHull.foldl (fun _ _ i h => cornersHull_row patch isInk h x0 n (lo + i)) _ h

/-- A column lies in the span `a .. b - 1` cut to the columns `0 .. w - 1` exactly when it is
    the span's clamped start moved by less than its clamped length. -/
theorem mem_clamped_span (w : ℕ) (a b : ℤ) (x : ℕ) :
    (∃ j, j < (max 0 (min b w)).toNat - (max 0 (min a w)).toNat ∧
      (max 0 (min a w)).toNat + j = x) ↔ a ≤ x ∧ (x : ℤ) < b ∧ x < w := by
  constructor
  · rintro ⟨j, hj, rfl⟩
    omega
  · rintro ⟨ha, hb, hw⟩
    exact ⟨x - (max 0 (min a w)).toNat, by omega, by omega⟩

end Scan

/-- The scan of `inkBounds` keeps the corners of the ink under the comb. -/
theorem exists_cornersHull_inkBounds (patch : GrayImage) (isInk : UInt8 → Bool) (cells : List ℤ)
    (dx : ℤ) (glyphWidth lo hi : ℕ) :
    ∃ acc, CornersHull acc (combInk patch isInk cells dx glyphWidth lo hi) ∧
      inkBounds patch isInk cells dx glyphWidth lo hi = acc.map BoundingBox.ofCorners := by
  have h0 : CornersHull none ∅ := rfl
  -- the outer loop, over the cells; each cell is the two inner loops
  refine ⟨_, (CornersHull.foldl (fun _ _ cell h => cornersHull_cell patch isInk h
    (max 0 (min (cell + dx) patch.width)).toNat
    ((max 0 (min (cell + dx + glyphWidth) patch.width)).toNat -
      (max 0 (min (cell + dx) patch.width)).toNat) lo (hi - lo)) cells h0).of_eq ?_, rfl⟩
  ext ⟨x, y⟩
  simp only [Set.empty_union, Set.mem_iUnion, List.mem_range, inkAtPixel, Set.mem_ofPred_eq,
    Prod.mk.injEq, combInk, exists_prop]
  -- a pixel met in round `i`, `j` of a cell is under the cell, and back
  constructor
  · rintro ⟨c, hc, i, hi, j, hj, ⟨rfl, rfl⟩, hink⟩
    obtain ⟨ha, hb, hw⟩ := (mem_clamped_span patch.width _ _ _).1 ⟨j, hj, rfl⟩
    exact ⟨by omega, by omega, hw, ⟨c, hc, ha, hb⟩, hink⟩
  · rintro ⟨hlo, hhi, hw, ⟨c, hc, ha, hb⟩, hink⟩
    obtain ⟨j, hj, hx⟩ := (mem_clamped_span patch.width _ _ x).2 ⟨ha, hb, hw⟩
    have hy : lo + (y - lo) = y := by omega
    exact ⟨c, hc, y - lo, by omega, j, hj, ⟨hx.symm, hy.symm⟩, by rw [hx, hy]; exact hink⟩

/-- The ink box of a comb, for every patch, ink predicate, list of cells, shift, glyph width and
    band of rows, is none exactly when there is no ink under the comb.  Otherwise it hugs that
    ink, its first and last columns and rows being those of ink pixels under the comb; it covers
    that ink, and it is the least box that does: every box that covers that ink covers it. -/
theorem inkBounds_tightest (patch : GrayImage) (isInk : UInt8 → Bool) (cells : List ℤ)
    (dx : ℤ) (glyphWidth lo hi : ℕ) :
    (inkBounds patch isInk cells dx glyphWidth lo hi = none ↔
      combInk patch isInk cells dx glyphWidth lo hi = ∅) ∧
    ∀ b, inkBounds patch isInk cells dx glyphWidth lo hi = some b →
      b.Hugs (combInk patch isInk cells dx glyphWidth lo hi) ∧
      combInk patch isInk cells dx glyphWidth lo hi ⊆ b.pixels ∧
      ∀ b' : BoundingBox, combInk patch isInk cells dx glyphWidth lo hi ⊆ b'.pixels →
        b.pixels ⊆ b'.pixels := by
  obtain ⟨acc, hacc, heq⟩ := exists_cornersHull_inkBounds patch isInk cells dx glyphWidth lo hi
  rw [heq, Option.map_eq_none_iff]
  refine ⟨hacc.eq_none_iff, fun b hb => ?_⟩
  obtain ⟨c, rfl, rfl⟩ := Option.map_eq_some_iff.1 hb
  have hhugs := hacc.hugs
  exact ⟨hhugs, hhugs.subset_pixels, fun b' h' => hhugs.pixels_subset h'⟩

/-- Two cells three columns wide over an `8 × 3` patch: the ink of column 0 is under no cell,
    and the box hugs a one-column glyph in the first cell and a dot in the second. -/
example :
    inkBounds ⟨8, 3, ⟨#[9, 255, 9, 255, 255, 255, 255, 255,
                         9, 255, 9, 255, 255, 255, 9, 255,
                         9, 255, 9, 255, 255, 255, 255, 255]⟩⟩ (· ≤ 100) [1, 5] 0 3 0 3 =
      some ⟨2, 0, 5, 3⟩ := rfl

end CardOcr
