import CardOcr.Glyph
import CardOcr.Proofs.Canvas

/-!
# What drawing a glyph paints

`Glyph.draw` scales a character's bitmap to a `w × h` cell by nearest neighbour: pixel
`(px, py)` of the cell shows bitmap pixel `(min (px · 5 / w) 4, min (py · 7 / h) 6)`
(`Glyph.inkPixel`).  Its scaling is 32-bit, and `Glyph.isInk` computes the same pixels as long
as the products fit (`isInk_eq_ok`).  The rows `Glyph.inkRows` lays a cell out in are those
pixels read one by one (`inkRows_spec`).

A cell that ends within 32 bits, with a width whose scaling fits (`wideColumn`) and a height
whose scaling fits (`tallRow`), draws without a fault, and the drawing is a loop of writes over
the cell's pixels inside the image (`draw_eq_foldl`).  It paints in the ink shade exactly the
ink pixels of the character in its cell (`Glyph.Covers`) and keeps every other pixel
(`draw_painted`).

## Key results

- `isInk_eq_ok`, `covers_of_isInk`: the 32-bit scaling picks the exact pixels when it fits
- `inkRows_spec`: the rows of a cell are its pixels as `isInk` reads them, and fault exactly
  when one of them does
- `cellFault_eq_none`: a cell that fits draws without a fault
- `draw_painted`: a glyph paints its ink pixels and nothing else
- `draw_painted_on_card`: the same for a cell on a card whose scaling fits 32 bits
-/

namespace CardOcr

namespace Glyph

/-! ## Ink pixels of a cell -/

/-- Whether pixel `(px, py)` of a `w × h` cell showing `c` is ink, in exact arithmetic. -/
def inkPixel (c : Char) (px py w h : Nat) : Bool :=
  match bitmap? c with
  | none => false
  | some rows => bitmapInk rows (min (px * 5 / w) 4) (min (py * 7 / h) 6)

/-- Pixel `(X, Y)` of the image is an ink pixel of `c` drawn in the `w × h` cell at `(x, y)`. -/
def Covers (c : Char) (x y w h : Nat) (X Y : Nat) : Prop :=
  x ≤ X ∧ X < x + w ∧ y ≤ Y ∧ Y < y + h ∧ inkPixel c (X - x) (Y - y) w h = true

/-- The 32-bit scaling picks the exact ink pixels when its products fit. -/
theorem isInk_eq_ok (c : Char) {px py w h : Nat} (hpx : px * 5 < 2 ^ 32) (hpy : py * 7 < 2 ^ 32)
    (hw : 0 < w) (hh : 0 < h) : isInk c px py w h = .ok (inkPixel c px py w h) := by
  have hpx' : px * 5 < Nat.pow 2 32 := hpx
  have hpy' : py * 7 < Nat.pow 2 32 := hpy
  unfold isInk inkPixel
  cases bitmap? c with
  | none => rfl
  | some rows =>
    simp only [checkedMul, hpx', hpy', Nat.ne_of_gt hw, Nat.ne_of_gt hh, ↓reduceIte, bind,
      Except.bind, pure, Except.pure]

/-- A pixel that `isInk` selects in a cell whose scaling fits 32 bits is an ink pixel of the
    character drawn in that cell. -/
theorem covers_of_isInk {c : Char} {x y w h px py : Nat} (hpx : px < w) (hpy : py < h)
    (hw : w * 5 < 2 ^ 32) (hh : h * 7 < 2 ^ 32) (hink : isInk c px py w h = .ok true) :
    Covers c x y w h (x + px) (y + py) := by
  rw [isInk_eq_ok c (by omega) (by omega) (by omega) (by omega)] at hink
  refine ⟨Nat.le_add_right x px, by omega, Nat.le_add_right y py, by omega, ?_⟩
  rw [Nat.add_sub_cancel_left, Nat.add_sub_cancel_left]
  exact Except.ok.inj hink

/-- A pixel that `isInk` selects in a cell that ends on a `W × H` card, with `5 · W` and `7 · H`
    within 32 bits, lies on the card and is an ink pixel of the character drawn in the cell. -/
theorem covers_of_isInk_on_card {c : Char} {x y w h px py W H : Nat} (hW : W * 5 < 2 ^ 32)
    (hH : H * 7 < 2 ^ 32) (hx : x + w ≤ W) (hy : y + h ≤ H) (hpx : px < w) (hpy : py < h)
    (hink : isInk c px py w h = .ok true) :
    x + px < W ∧ y + py < H ∧ Covers c x y w h (x + px) (y + py) :=
  ⟨by omega, by omega, covers_of_isInk hpx hpy (by omega) (by omega) hink⟩

/-- Entry `px · 5 / w` of a row's pattern, for a column `px` of a `w`-wide cell, is the bitmap
    pixel the column shows. -/
theorem rowPattern_getD (rows : List String) (py h : Nat) {px w : Nat} (hpx : px < w) :
    (rowPattern rows py h).getD (px * 5 / w) false =
      bitmapInk rows (min (px * 5 / w) 4) (min (py * 7 / h) 6) := by
  have hk : px * 5 / w < 5 := Nat.div_lt_of_lt_mul (by rw [Nat.mul_comm w 5]; omega)
  have hmin : min (px * 5 / w) 4 = px * 5 / w := Nat.min_eq_left (by omega)
  rw [hmin]
  simp [rowPattern, Array.getD, hk]

/-! ## The rows of a cell -/

/-- Inside a cell where no scaling overflows, `isInk` reads the pattern of the pixel's row that
    `inkRows` lays out. -/
theorem isInk_eq_rowPattern (c : Char) {px py w h : Nat} (hpx : px < w) (hpy : py < h)
    (hfit : ((bitmap? c).isSome && scaleOverflows w h) = false) :
    isInk c px py w h = .ok ((rowPattern ((bitmap? c).getD []) py h).getD (px * 5 / w) false) := by
  rw [rowPattern_getD _ _ _ hpx]
  cases hb : bitmap? c with
  | none =>
    unfold isInk
    rw [hb]
    rfl
  | some rows =>
    -- a cell of this size scales every pixel within 32 bits
    have hsmall : w ≤ wideColumn ∧ h ≤ tallRow := by
      simp only [hb, Option.isSome_some, Bool.true_and, scaleOverflows, Bool.and_eq_false_imp,
        Bool.or_eq_false_iff, decide_eq_false_iff_not, Nat.not_lt, Bool.and_eq_true,
        decide_eq_true_eq] at hfit
      exact hfit ⟨by omega, by omega⟩
    rw [isInk_eq_ok c (by unfold wideColumn at hsmall; omega) (by unfold tallRow at hsmall; omega)
      (by omega) (by omega)]
    simp only [inkPixel, hb, Option.getD_some]

/-- Some pixel of a cell overflows the scaling exactly when the character has a bitmap and
    `scaleOverflows` holds: column `wideColumn` of the first row overflows in a wider cell, and
    row `tallRow` of the first column in a taller one. -/
theorem exists_isInk_fault_iff (c : Char) (w h : Nat) :
    (∃ px < w, ∃ py < h, ∃ f, isInk c px py w h = .error f) ↔
      ((bitmap? c).isSome && scaleOverflows w h) = true := by
  constructor
  · rintro ⟨px, hpx, py, hpy, f, hf⟩
    by_contra hfit
    rw [isInk_eq_rowPattern c hpx hpy (Bool.eq_false_iff.2 hfit)] at hf
    cases hf
  · intro hfit
    obtain ⟨rows, hb⟩ := Option.isSome_iff_exists.1 (Bool.and_eq_true_iff.1 hfit).1
    have hover := (Bool.and_eq_true_iff.1 hfit).2
    simp only [scaleOverflows, Bool.and_eq_true, decide_eq_true_eq, Bool.or_eq_true] at hover
    obtain ⟨⟨hw, hh⟩, hwide | htall⟩ := hover
    · refine ⟨wideColumn, hwide, 0, hh, .mulOverflow, ?_⟩
      unfold isInk
      rw [hb]
      rfl
    · refine ⟨0, hw, tallRow, htall, .mulOverflow, ?_⟩
      unfold isInk
      rw [hb]
      simp only [checkedMul, if_neg (Nat.ne_of_gt hw)]
      rfl

/-- `inkRows` lays a cell out as `isInk` reads it pixel by pixel: it faults exactly when some
    pixel's scaling does, and otherwise gives `h` rows of `w` characters, with `#` at the
    pixels `isInk` selects and `.` at the others. -/
theorem inkRows_spec (c : Char) (w h : Nat) :
    ((∃ f, inkRows c w h = .error f) ↔ ∃ px < w, ∃ py < h, ∃ f, isInk c px py w h = .error f) ∧
    ∀ rows, inkRows c w h = .ok rows → rows.length = h ∧
      ∀ py < h, ∃ row, rows[py]? = some row ∧ row.toList.length = w ∧
        ∀ px < w, ∃ b, isInk c px py w h = .ok b ∧ row.toList[px]? = some (if b then '#' else '.') := by
  rw [exists_isInk_fault_iff]
  unfold inkRows
  cases hfit : ((bitmap? c).isSome && scaleOverflows w h)
  case true =>
    simp only [↓reduceIte]
    exact ⟨iff_of_true ⟨_, rfl⟩ trivial, fun _ h => by cases h⟩
  simp only [Bool.false_eq_true, ↓reduceIte, reduceCtorEq, exists_false, iff_self,
    Except.ok.injEq, true_and]
  rintro _ rfl
  refine ⟨by simp, fun py hpy => ?_⟩
  refine ⟨String.ofList ((List.range w).map fun px =>
      if (rowPattern ((bitmap? c).getD []) py h).getD (px * 5 / w) false then '#' else '.'),
    by simp [List.getElem?_range hpy], by simp, fun px hpx => ?_⟩
  exact ⟨_, isInk_eq_rowPattern c hpx hpy hfit, by simp [hpx]⟩

/-! ## Cells that draw without a fault -/

/-- No bitmap column lies in an empty range of cell columns. -/
theorem inkWithin_of_le (ink : Nat → Bool) (w : Nat) {lo hi : Nat} (hle : hi ≤ lo) :
    inkWithin ink w lo hi = false := by
  unfold inkWithin
  rw [List.any_eq_false]
  intro k _
  simp only [Bool.and_eq_true, decide_eq_true_eq, not_and]
  intro _
  omega

/-- A row of a cell that ends within 32 bits, whose scaling fits, has no fault. -/
theorem rowFault_eq_none (rows : List String) (img : GrayImage) {x y w h py : Nat}
    (hpy : py * 7 < 2 ^ 32) (hy : y + py < 2 ^ 32) (hx : x + w ≤ 2 ^ 32) (hw : w ≤ wideColumn) :
    rowFault rows img x y w h py = none := by
  unfold rowFault
  simp only [Nat.pow_eq]
  have hrow : ¬2 ^ 32 ≤ py * 7 := by omega
  have hy' : decide (2 ^ 32 ≤ y + py) = false := decide_eq_false (by omega)
  -- the columns past the 32-bit range start after the cell's last column
  have hwide : inkWithin (fun k => bitmapInk rows k (min (py * 7 / h) 6)) w (2 ^ 32 - x)
      (min w wideColumn) = false := inkWithin_of_le _ w (by omega)
  have hcol : ¬wideColumn < w := by omega
  simp only [hrow, hy', hwide, hcol, Bool.false_and, Bool.or_false, Bool.false_eq_true,
    ↓reduceIte]

/-- A cell that ends within 32 bits, whose width and height scale within 32 bits, draws
    without a fault: every row the search looks at has none. -/
theorem cellFault_eq_none (rows : List String) (img : GrayImage) {x y w h : Nat}
    (hx : x + w ≤ 2 ^ 32) (hy : y + h ≤ 2 ^ 32) (hw : w ≤ wideColumn) (hh : h ≤ tallRow) :
    cellFault rows img x y w h = none := by
  have hrow : ∀ py, py < h → rowFault rows img x y w h py = none := fun py hpy =>
    rowFault_eq_none rows img (by unfold tallRow at hh; omega) (by omega) hx hw
  -- the search keeps finding nothing along the rows it looks at
  unfold cellFault
  dsimp only
  rw [List.foldl_fixed' fun py => ?_]
  · rfl
  · by_cases hpy : py < h
    · simp only [hpy, hrow py hpy, ↓reduceIte]
    · simp only [hpy, ↓reduceIte]

/-! ## The drawing loop -/

/-- A glyph with a bitmap in a nonempty cell that draws without a fault is drawn by writing the
    ink shade to each ink pixel of the cell inside the image, row by row. -/
theorem draw_eq_foldl (img : GrayImage) {c : Char} {rows : List String} (hc : bitmap? c = some rows)
    {x y w h : Nat} (v : UInt8) (hw : w ≠ 0) (hf : cellFault rows img x y w h = none) :
    draw img c x y w h v = .ok ((List.range' 0 (min h (img.height - y))).foldl (fun out py =>
      (List.range' 0 (min w (img.width - x))).foldl (fun out px =>
        if (rowPattern rows py h).getD (px * 5 / w) false = true then out.set (x + px) (y + py) v
        else out) out) img) := by
  simp only [draw, hc, hw, hf, ↓reduceIte, Std.Legacy.Range.forIn_eq_forIn_range',
    Std.Legacy.Range.size, ← apply_ite (f := fun o => pure (f := Id) (ForInStep.yield o)),
    List.forIn_pure_yield_eq_foldl, pure_bind, Nat.sub_zero, Nat.add_sub_cancel, Nat.div_one]
  rfl

/-- The writes of one row paint the ink pixels of that row of the cell that lie inside the
    image. -/
theorem painted_row {img : GrayImage} (hs : img.Sized) (rows : List String) (x y w h py : Nat)
    (n : Nat) (v : UInt8) :
    img.Painted ((List.range' 0 n).foldl (fun out px =>
        if (rowPattern rows py h).getD (px * 5 / w) false = true then out.set (x + px) (y + py) v
        else out) img)
      (fun X Y => ∃ px ∈ List.range' 0 n,
        (rowPattern rows py h).getD (px * 5 / w) false = true ∧ X = x + px ∧ Y = y + py) v := by
  refine GrayImage.Painted.foldl _ (fun px X Y =>
    (rowPattern rows py h).getD (px * 5 / w) false = true ∧ X = x + px ∧ Y = y + py)
    (fun out px hout => ?_) _ img hs
  by_cases hink : (rowPattern rows py h).getD (px * 5 / w) false = true
  · rw [if_pos hink]
    exact (GrayImage.painted_set hout _ _).congr fun X Y _ _ => by simp [hink]
  · rw [if_neg hink]
    exact GrayImage.Painted.rfl.congr fun X Y _ _ => by simp [hink]

/-- A glyph paints exactly its ink pixels in its cell, in the ink shade, when the cell ends
    within 32 bits and its width and height scale within 32 bits. -/
theorem draw_painted {img : GrayImage} (hs : img.Sized) (c : Char) {x y w h : Nat} (v : UInt8)
    (hx : x + w ≤ 2 ^ 32) (hy : y + h ≤ 2 ^ 32) (hw : w ≤ wideColumn) (hh : h ≤ tallRow) :
    ∃ img', draw img c x y w h v = .ok img' ∧ img.Painted img' (Covers c x y w h) v := by
  cases hc : bitmap? c with
  | none =>
    -- a character without a bitmap draws nothing and has no ink
    refine ⟨img, by simp [draw, hc], GrayImage.Painted.rfl.congr fun X Y _ _ => ?_⟩
    simp [Covers, inkPixel, hc]
  | some rows =>
    by_cases hw0 : w = 0
    · subst hw0
      refine ⟨img, by simp [draw, hc], GrayImage.Painted.rfl.congr fun X Y _ _ => ?_⟩
      simp only [Covers, false_iff, not_and]
      omega
    · refine ⟨_, draw_eq_foldl img hc v hw0 (cellFault_eq_none rows img hx hy hw hh), ?_⟩
      have hrows := GrayImage.Painted.foldl _ _
        (fun out py hout => painted_row hout rows x y w h py (min w (img.width - x)) v)
        (List.range' 0 (min h (img.height - y))) img hs
      refine hrows.congr fun X Y hX hY => ?_
      simp only [List.mem_range'_1, Nat.zero_add, Covers, inkPixel, hc]
      constructor
      · rintro ⟨py, ⟨-, hpy⟩, px, ⟨-, hpx⟩, hink, rfl, rfl⟩
        rw [rowPattern_getD rows py h (by omega)] at hink
        refine ⟨Nat.le_add_right x px, by omega, Nat.le_add_right y py, by omega, ?_⟩
        simpa using hink
      · rintro ⟨hxX, hXw, hyY, hYh, hink⟩
        refine ⟨Y - y, ⟨Nat.zero_le _, by omega⟩, X - x, ⟨Nat.zero_le _, by omega⟩, ?_, by omega,
          by omega⟩
        rw [rowPattern_getD rows (Y - y) h (by omega)]
        exact hink

/-- A glyph in a cell that ends on a `W × H` card, with `5 · W` and `7 · H` within 32 bits,
    paints exactly its ink pixels in the ink shade. -/
theorem draw_painted_on_card {img : GrayImage} (hs : img.Sized) (c : Char) {x y w h : Nat}
    (v : UInt8) {W H : Nat} (hW : W * 5 < 2 ^ 32) (hH : H * 7 < 2 ^ 32) (hx : x + w ≤ W)
    (hy : y + h ≤ H) :
    ∃ img', draw img c x y w h v = .ok img' ∧ img.Painted img' (Covers c x y w h) v :=
  draw_painted hs c v (by omega) (by omega) (by unfold wideColumn; omega)
    (by unfold tallRow; omega)

end Glyph

end CardOcr
