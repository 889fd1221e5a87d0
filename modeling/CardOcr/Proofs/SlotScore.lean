import Mathlib
import CardOcr.Proofs.Detection
import CardOcr.Proofs.LayoutFits

/-!
# Scoring a slot stays in bounds

Scoring a slot reads the image and its edge strengths in a search window, counts the ink of
the window's patch row by row (`rowProfile`) and, in a band of rows, column by column
(`columnProfile`), and sums spans of these profiles (`spanSum`).  Every count is taken in
32-bit words by the scanner, and every read is of a pixel, a profile entry or a cell that is
there.

The window is cut to the image, so every pixel read lies inside it, and its ink is at most its
area, hence below `2³²` when the image has fewer pixels.  The comb of a slot moves the slot's
cells by a shift and sums the columns under each cell: when the cells are a glyph width or
more apart, which the layout of valid settings guarantees, the spans are disjoint, so the comb
captures no more than the band's ink (`sum_spanSum_le`), and the band no more than the
window's (`sum_columnProfile_le`).  The share of ink a candidate reports is therefore at most
one.

## Key results

- `sum_spanSum_le`: spans that start a length apart hold at most the profile from the first on
- `sum_columnProfile_le`, `sum_rowProfile_le`: a band's ink is at most the window's, which is
  at most its area
- `bestShift_le`: the chosen shift is within the margin and its capture within any bound of all
- `SlotLayout.score_in_bounds`: what scoring a slot of valid settings reads, counts and reports
-/

open Except

namespace CardOcr

/-! ## Spans of a profile -/

/-- A span sums the profile from its clamped start for its clamped length. -/
theorem spanSum_eq (p : Array Nat) (s : Int) (len : Nat) :
    spanSum p s len = ((p.toList.drop (max s 0).toNat).take
      ((max 0 (min (s + len) p.size)).toNat - (max s 0).toNat)).sum := by
  unfold spanSum
  rw [← Array.foldr_toList, Array.toList_extract, List.extract_eq_take_drop]
  rfl

/-- Dropping more of a list of counts leaves less. -/
theorem sum_drop_le_sum_drop (l : List Nat) {a b : Nat} (h : a ≤ b) :
    (l.drop b).sum ≤ (l.drop a).sum :=
  (List.drop_sublist_drop_left l h).sum_le_sum fun _ _ => Nat.zero_le _

/-- A span and everything past its end hold no more than everything from its start. -/
theorem spanSum_add_le (p : Array Nat) (s : Int) (len : Nat) :
    spanSum p s len + (p.toList.drop (max (s + len) 0).toNat).sum ≤
      (p.toList.drop (max s 0).toNat).sum := by
  rw [spanSum_eq]
  -- the span ends at its clamped end, or is empty; either way the rest starts no earlier
  have hsplit := List.sum_take_add_sum_drop (p.toList.drop (max s 0).toNat)
    ((max 0 (min (s + len) p.size)).toNat - (max s 0).toNat)
  rw [List.drop_drop] at hsplit
  have hle := sum_drop_le_sum_drop p.toList
    (a := (max s 0).toNat + ((max 0 (min (s + len) p.size)).toNat - (max s 0).toNat))
    (b := (max (s + len) 0).toNat) (by omega)
  omega

/-- Spans whose starts are at least their length apart do not overlap: together they hold no
    more than the profile from the first start on. -/
theorem sum_spanSum_le (p : Array Nat) (len : Nat) :
    ∀ (starts : List Int) (b : Int), starts.IsChain (fun (s t : Int) => s + len ≤ t) →
      (∀ s ∈ starts.head?, b ≤ s) →
      (starts.map fun s => spanSum p s len).sum ≤ (p.toList.drop (max b 0).toNat).sum
  | [], _, _, _ => by simp
  | s :: rest, b, hchain, hb => by
    rw [List.isChain_cons] at hchain
    -- the rest starts after this span ends
    have ih := sum_spanSum_le p len rest (s + len) hchain.2 hchain.1
    have hs := spanSum_add_le p s len
    have hbs : b ≤ s := hb s rfl
    have := sum_drop_le_sum_drop p.toList (a := (max b 0).toNat) (b := (max s 0).toNat) (by omega)
    simp only [List.map_cons, List.sum_cons]
    omega

/-- Spans whose starts are at least their length apart hold at most the whole profile. -/
theorem sum_spanSum_le_sum (p : Array Nat) (len : Nat) {starts : List Int}
    (h : starts.IsChain fun (s t : Int) => s + len ≤ t) :
    (starts.map fun s => spanSum p s len).sum ≤ p.toList.sum := by
  cases starts with
  | nil => simp
  | cons s rest =>
    have h1 := sum_spanSum_le p len (s :: rest) s h (by simp)
    have h2 := sum_drop_le_sum_drop p.toList (Nat.zero_le (max s 0).toNat)
    rw [List.drop_zero] at h2
    omega

/-- A span holds at most the whole profile. -/
theorem spanSum_le (p : Array Nat) (s : Int) (len : Nat) : spanSum p s len ≤ p.toList.sum := by
  simpa using sum_spanSum_le_sum p len (List.isChain_singleton s)

/-! ## Ink profiles -/

/-- Pixel `(x, y)` of a patch counts one when it is ink. -/
def inkAt (patch : GrayImage) (p : InkPolarity) (x y : Nat) : Nat :=
  if p.isInk (patch.get x y) then 1 else 0

theorem inkAt_le_one {patch : GrayImage} {p : InkPolarity} {x y : Nat} :
    inkAt patch p x y ≤ 1 := by
  unfold inkAt
  split <;> omega

/-- A counting loop counts one per element that passes. -/
theorem foldl_count (q : Nat → Bool) (l : List Nat) (k : Nat) :
    l.foldl (fun n x => if q x then n + 1 else n) k =
      k + (l.map fun x => if q x then 1 else 0).sum := by
  induction l generalizing k with
  | nil => simp
  | cons x l ih =>
    rw [List.foldl_cons, ih, List.map_cons, List.sum_cons]
    split <;> omega

theorem sum_map_range (f : Nat → Nat) (n : Nat) :
    ((List.range n).map f).sum = ∑ i ∈ Finset.range n, f i := by
  induction n with
  | zero => simp
  | succ n ih =>
    rw [List.range_succ, List.map_append, List.sum_append, ih, Finset.sum_range_succ]
    simp

/-- The row profile sums to the ink pixels of the patch. -/
theorem sum_rowProfile (patch : GrayImage) (p : InkPolarity) :
    (rowProfile patch p).foldr (· + ·) 0 =
      ∑ y ∈ Finset.range patch.height, ∑ x ∈ Finset.range patch.width, inkAt patch p x y := by
  rw [← Array.foldr_toList]
  show (rowProfile patch p).toList.sum = _
  simp only [rowProfile, Array.toList_map, Array.toList_range, foldl_count, Nat.zero_add]
  rw [sum_map_range]
  simp only [sum_map_range, inkAt]

/-- The column profile of a band sums to the ink pixels of the band's rows. -/
theorem sum_columnProfile (patch : GrayImage) (p : InkPolarity) (lo hi : Nat) :
    (columnProfile patch p lo hi).toList.sum =
      ∑ x ∈ Finset.range patch.width, ∑ i ∈ Finset.range (hi - lo), inkAt patch p x (lo + i) := by
  simp only [columnProfile, Array.toList_map, Array.toList_range, foldl_count, Nat.zero_add]
  rw [sum_map_range]
  simp only [sum_map_range, inkAt]

/-- A band of rows of the patch holds no more ink than the patch. -/
theorem sum_columnProfile_le (patch : GrayImage) (p : InkPolarity) {lo hi : Nat}
    (hhi : hi ≤ patch.height) :
    (columnProfile patch p lo hi).toList.sum ≤ (rowProfile patch p).foldr (· + ·) 0 := by
  rw [sum_columnProfile, sum_rowProfile, Finset.sum_comm,
    ← Finset.sum_Ico_eq_sum_range (fun y => ∑ x ∈ Finset.range patch.width, inkAt patch p x y)]
  -- the rows `lo .. hi - 1` are rows of the patch
  apply Finset.sum_le_sum_of_subset
  intro y hy
  rw [Finset.mem_Ico] at hy
  rw [Finset.mem_range]
  omega

/-- A patch holds no more ink than it has pixels. -/
theorem sum_rowProfile_le (patch : GrayImage) (p : InkPolarity) :
    (rowProfile patch p).foldr (· + ·) 0 ≤ patch.width * patch.height := by
  rw [sum_rowProfile]
  -- no row holds more ink than it has pixels
  have hrow : ∀ y, ∑ x ∈ Finset.range patch.width, inkAt patch p x y ≤ patch.width := by
    intro y
    calc ∑ x ∈ Finset.range patch.width, inkAt patch p x y
        ≤ ∑ x ∈ Finset.range patch.width, 1 := Finset.sum_le_sum fun x _ => inkAt_le_one
      _ = patch.width := by simp
  calc ∑ y ∈ Finset.range patch.height, ∑ x ∈ Finset.range patch.width, inkAt patch p x y
      ≤ ∑ y ∈ Finset.range patch.height, patch.width := Finset.sum_le_sum fun y _ => hrow y
    _ = patch.width * patch.height := by simp [Nat.mul_comm]

/-- The comb of cells a glyph width or more apart, moved by any shift, captures no more ink
    than the patch holds, whatever band of its rows the columns count. -/
theorem comb_le_ink (patch : GrayImage) (p : InkPolarity) {lo hi : Nat} (hhi : hi ≤ patch.height)
    {cells : List Nat} {w : Nat} (hspaced : cells.IsChain fun a b => a + w ≤ b) (x0 : Nat)
    (d : Int) :
    ((cells.map fun (c : Nat) => (c : Int) - x0).map fun c =>
        spanSum (columnProfile patch p lo hi) (c + d) w).sum ≤
      (rowProfile patch p).foldr (· + ·) 0 := by
  -- moved cells keep their spacing
  have hstarts : ((cells.map fun (c : Nat) => (c : Int) - x0).map (· + d)).IsChain
      fun (s t : Int) => s + w ≤ t := by
    rw [List.isChain_map, List.isChain_map]
    exact hspaced.imp fun a b hab => by omega
  calc _ = (((cells.map fun (c : Nat) => (c : Int) - x0).map (· + d)).map
          fun s => spanSum (columnProfile patch p lo hi) s w).sum := by
        simp only [List.map_map, Function.comp_def]
    _ ≤ (columnProfile patch p lo hi).toList.sum := sum_spanSum_le_sum _ w hstarts
    _ ≤ (rowProfile patch p).foldr (· + ·) 0 := sum_columnProfile_le patch p hhi

/-! ## Shifts -/

/-- Every shift tried lies within the margin. -/
theorem natAbs_le_of_mem_shiftOrder {r : Nat} {d : Int} (h : d ∈ shiftOrder r) :
    d.natAbs ≤ r := by
  simp only [shiftOrder, List.mem_cons, List.mem_flatMap, List.mem_range] at h
  rcases h with rfl | ⟨s, hs, hd⟩
  · simp
  · simp only [List.not_mem_nil, or_false] at hd
    rcases hd with rfl | rfl <;> omega

/-- A search that keeps its incumbent or takes the shift it visits, with that shift's capture,
    keeps any property of the start that every visited pair has. -/
theorem foldl_keep_or_take {P : Int × Nat → Prop} (cap : Int → Nat) :
    ∀ (l : List Int) (best : Int × Nat), P best → (∀ d ∈ l, P (d, cap d)) →
      P (l.foldl (fun best d => if cap d > best.2 then (d, cap d) else best) best)
  | [], _, h0, _ => h0
  | d :: l, best, h0, hl => by
    rw [List.foldl_cons]
    refine foldl_keep_or_take cap l _ ?_ fun d' hd' => hl d' (List.mem_cons_of_mem d hd')
    split
    · exact hl d List.mem_cons_self
    · exact h0

/-- The best shift lies within the margin, and its capture within any bound of every
    capture. -/
theorem bestShift_le {r B : Nat} {cap : Int → Nat} (h : ∀ d, cap d ≤ B) :
    (bestShift r cap).1.natAbs ≤ r ∧ (bestShift r cap).2 ≤ B :=
  foldl_keep_or_take (P := fun best => best.1.natAbs ≤ r ∧ best.2 ≤ B) cap _ (0, 0)
    ⟨Nat.zero_le r, Nat.zero_le B⟩ fun d hd => ⟨natAbs_le_of_mem_shiftOrder hd, h d⟩

/-! ## Windows -/

namespace SearchWindow

/-- A window is cut to the image and is never empty. -/
theorem around_eq_some {box : BoundingBox} {mx my w h : Nat} {win : SearchWindow}
    (hwin : around box mx my w h = some win) :
    0 < win.width ∧ 0 < win.height ∧ win.x + win.width ≤ w ∧ win.y + win.height ≤ h := by
  unfold around at hwin
  dsimp only at hwin
  split at hwin
  · cases hwin
  · rename_i hne
    cases hwin
    simp only [not_or, not_le] at hne
    dsimp only
    omega

/-- The part of the image under the window. -/
def patch (win : SearchWindow) (img : GrayImage) : GrayImage :=
  img.crop win.x win.y win.width win.height

/-- Which shades of the window's patch are ink, by the patch's own threshold. -/
def polarity (win : SearchWindow) (img : GrayImage) : InkPolarity :=
  InkPolarity.ofPatch (win.patch img)

/-- The ink pixels of the window's patch. -/
def ink (win : SearchWindow) (img : GrayImage) : Nat :=
  (rowProfile (win.patch img) (win.polarity img)).foldr (· + ·) 0

/-- A window inside the image holds less ink than the image has pixels. -/
theorem ink_le (win : SearchWindow) (img : GrayImage) (hx : win.x + win.width ≤ img.width)
    (hy : win.y + win.height ≤ img.height) : win.ink img ≤ img.width * img.height :=
  calc win.ink img ≤ win.width * win.height := sum_rowProfile_le _ _
    _ ≤ img.width * img.height := Nat.mul_le_mul (by omega) (by omega)

end SearchWindow

/-! ## Slots of valid settings -/

/-- Each slot of the layout of settings that pass the layout checks fits the card, and its
    digit cells are cells of it. -/
theorem CardLayout.slot_of_ofConfig {c : ScanConfig}
    (fc : c.layout.FitsCard c.canonical.width c.canonical.height) {L : CardLayout}
    (hL : CardLayout.ofConfig c = .ok L) {slot : SlotLayout}
    (hslot : slot ∈ L.numberSlots ∨ slot = L.expirySlot) :
    slot.Fits L.canonical ∧ ∀ i ∈ slot.digitCells, i < slot.cells.length := by
  rw [CardLayout.ofConfig_eq_planned fc] at hL
  cases hL
  obtain ⟨r, hr, hrw⟩ := fc.numberRight
  obtain ⟨-, hsum, -, rfl, hr32⟩ := LayoutConfig.numberRight?_eq_some hr
  obtain ⟨r', hr', hrw'⟩ := fc.expiryRight
  obtain ⟨rfl, hr32'⟩ := ExpiryLayoutConfig.right?_eq_some hr'
  rcases hslot with hs | rfl
  · -- a number slot holds one cell per digit of its group
    obtain ⟨g, p, len, rfl, hg, hp⟩ := LayoutConfig.mem_plannedSlots hs
    refine ⟨LayoutConfig.plannedSlot_fits fc.width_le_pitch hr32 hrw (by omega) fc.numberBottom
      fun j hj => LayoutConfig.cellX_add_le_right (by omega) (by omega), ?_⟩
    simp [LayoutConfig.plannedSlot]
  · -- the expiry slot's digits are its cells but the separator
    refine ⟨ExpiryLayoutConfig.plannedSlot_fits fc.expiryWidth_le_pitch hr32' hrw'
      fc.expiryBottom, ?_⟩
    simp [ExpiryLayoutConfig.plannedSlot]

/-! ## Scoring -/

namespace SlotLayout

/-- Scoring never faults once the slot's box is computed: past it, scoring only computes. -/
theorem score_ok_of_box {slot : SlotLayout} (hbox : ∃ b, slot.nominalBox = .ok b)
    (cfg : DetectorConfig) (img : GrayImage) (g : GradientMap) :
    ∃ r, slot.score cfg img g = .ok r := by
  obtain ⟨b, hb⟩ := hbox
  have h : (slot.score cfg img g).ErrorsIn fun _ => False := by
    unfold score
    rw [errorsIn_bind, hb]
    refine ⟨trivial, fun nominal _ => ?_⟩
    split <;> simp
  cases hs : slot.score cfg img g with
  | error e =>
    rw [hs] at h
    exact h.elim
  | ok r => exact ⟨r, rfl⟩

/-- A candidate found for a slot whose cells are a glyph width or more apart comes from a
    window that the slot's box gives, with shifts within the margins and a capture at most the
    window's ink, which is not zero.  Its confidence is the edge score times the share of ink
    captured, and its offsets are the slot's digit cells and top moved by the shifts. -/
theorem score_candidate {slot : SlotLayout}
    (hspaced : slot.cells.IsChain fun a b => a + slot.glyphWidth ≤ b) (cfg : DetectorConfig)
    (img : GrayImage) (g : GradientMap) :
    (slot.score cfg img g).OkIn fun r => ∀ cand, r = some cand →
      ∃ nominal win dx dy captured, slot.nominalBox = .ok nominal ∧
        SearchWindow.around nominal cfg.searchMarginX cfg.searchMarginY img.width img.height =
          some win ∧
        dx.natAbs ≤ cfg.searchMarginX ∧ dy.natAbs ≤ cfg.searchMarginY ∧
        captured ≤ win.ink img ∧ 0 < win.ink img ∧
        cand.confidence = min (edgeDensity g win cfg.edgeThreshold / cfg.expectedEdgeDensity) 1.0 *
          (captured.toUInt64.toFloat32 / (win.ink img).toUInt64.toFloat32) ∧
        cand.xOffsets = slot.digitCells.map (fun i => shiftedBy (slot.cells.getD i 0) dx) ∧
        cand.yOffset = shiftedBy slot.top dy := by
  unfold score
  simp only [okIn_bind]
  intro nominal hnom
  split
  · rename_i win hwin
    simp only [okIn_ite, okIn_pure]
    -- only the last branch finds a candidate
    refine ⟨fun _ _ h => (by cases h), fun _ => ⟨fun _ _ h => (by cases h), fun hink =>
      ⟨fun _ _ h => (by cases h), fun _ cand hc => ?_⟩⟩⟩
    cases hc
    refine ⟨nominal, win, _, _, _, hnom, hwin, (bestShift_le (B := win.ink img) ?_).1,
      (bestShift_le fun d => spanSum_le _ _ _).1, (bestShift_le ?_).2, Nat.pos_of_ne_zero hink,
      rfl, rfl, rfl⟩
    all_goals
      intro d
      exact comb_le_ink _ _ (Nat.min_le_right _ _) hspaced win.x d
  · simp

/-- A value moved by a shift is the shifted value, stopping at zero, cut to 32 bits. -/
theorem shiftedBy_eq (v : Nat) (d : Int) : shiftedBy v d = (max ((v : Int) + d) 0).toNat % 2 ^ 32 := by
  rw [shiftedBy, Nat.pow_eq]

/-- What scoring a slot of valid settings does on an image of fewer than `2³²` pixels, `fc`
    being what `validate` checks of the layout (`ScanConfig.validate_fitsCard`).  It never
    faults, and the digit cells it reads are cells of the slot.  Every window it searches lies
    inside the image, so that every pixel and edge strength it reads is there, and every
    count it takes fits 32 bits: the window's ink is below `2³²`, no span of its row profile
    holds more, and the comb of the slot's cells, moved by any shift, captures no more than
    the window's ink from any band of its rows.  A candidate it finds comes from such a window
    and one pair of shifts within the margins: its confidence is the edge score times the
    share `captured / ink` of the window's ink, with `captured ≤ ink`, and its offsets are the
    slot's digit cells and top moved by the shifts, stopping at zero, as 32-bit words. -/
theorem score_in_bounds {c : ScanConfig}
    (fc : c.layout.FitsCard c.canonical.width c.canonical.height) {L : CardLayout}
    (hL : CardLayout.ofConfig c = .ok L) {slot : SlotLayout}
    (hslot : slot ∈ L.numberSlots ∨ slot = L.expirySlot) (cfg : DetectorConfig)
    (img : GrayImage) (hpix : img.width * img.height < 2 ^ 32) (g : GradientMap) :
    (∃ r, slot.score cfg img g = .ok r) ∧
    (∀ i ∈ slot.digitCells, i < slot.cells.length) ∧
    (∀ nominal win, slot.nominalBox = .ok nominal →
      SearchWindow.around nominal cfg.searchMarginX cfg.searchMarginY img.width img.height =
        some win →
      0 < win.width ∧ 0 < win.height ∧ win.x + win.width ≤ img.width ∧
        win.y + win.height ≤ img.height ∧ win.ink img < 2 ^ 32 ∧
        (∀ s, spanSum (rowProfile (win.patch img) (win.polarity img)) s slot.glyphHeight ≤
          win.ink img) ∧
        ∀ lo hi d, hi ≤ win.height →
          ((slot.cells.map fun (x : Nat) => (x : Int) - win.x).map fun x =>
            spanSum (columnProfile (win.patch img) (win.polarity img) lo hi) (x + d)
              slot.glyphWidth).sum ≤ win.ink img) ∧
    ∀ cand, slot.score cfg img g = .ok (some cand) →
      ∃ win dx dy captured,
        (∃ nominal, slot.nominalBox = .ok nominal ∧
          SearchWindow.around nominal cfg.searchMarginX cfg.searchMarginY img.width img.height =
            some win) ∧
        dx.natAbs ≤ cfg.searchMarginX ∧ dy.natAbs ≤ cfg.searchMarginY ∧
        captured ≤ win.ink img ∧ 0 < win.ink img ∧
        cand.confidence = min (edgeDensity g win cfg.edgeThreshold / cfg.expectedEdgeDensity) 1.0 *
          (captured.toUInt64.toFloat32 / (win.ink img).toUInt64.toFloat32) ∧
        List.Forall₂ (fun i o => ∃ x : Nat, slot.cells[i]? = some x ∧
          o = (max ((x : Int) + dx) 0).toNat % 2 ^ 32) slot.digitCells cand.xOffsets ∧
        cand.yOffset = (max ((slot.top : Int) + dy) 0).toNat % 2 ^ 32 := by
  obtain ⟨hfits, hdigits⟩ := CardLayout.slot_of_ofConfig fc hL hslot
  refine ⟨score_ok_of_box hfits.box cfg img g, hdigits, fun nominal win _ hwin => ?_,
    fun cand hcand => ?_⟩
  · -- the window, and what is counted in it
    obtain ⟨hw, hh, hx, hy⟩ := SearchWindow.around_eq_some hwin
    refine ⟨hw, hh, hx, hy, lt_of_le_of_lt (win.ink_le img hx hy) hpix, fun s => ?_,
      fun lo hi d hhi => comb_le_ink _ _ hhi hfits.spaced win.x d⟩
    calc _ ≤ _ := spanSum_le _ s _
      _ = win.ink img := by rw [SearchWindow.ink, ← Array.foldr_toList]; rfl
  · -- the candidate, with its offsets read from cells that are there
    obtain ⟨nominal, win, dx, dy, captured, hnom, hwin, hdx, hdy, hcap, hink, hconf, hxs, hys⟩ :=
      score_candidate hfits.spaced cfg img g _ hcand cand rfl
    refine ⟨win, dx, dy, captured, ⟨nominal, hnom, hwin⟩, hdx, hdy, hcap, hink, hconf, ?_,
      by rw [hys, shiftedBy_eq]⟩
    rw [hxs, List.forall₂_map_right_iff, List.forall₂_same]
    intro i hi
    have hlt := hdigits i hi
    exact ⟨slot.cells[i], List.getElem?_eq_getElem hlt, by
      rw [List.getD_eq_getElem _ _ hlt, shiftedBy_eq]⟩

/-- The expiry slot of the default settings is scored without a fault on a blank white card
    of the canonical size, with the card's own edge strengths. -/
theorem score_in_bounds_default :
    ∃ L, CardLayout.ofConfig {} = .ok L ∧ ∃ r, L.expirySlot.score {} (GrayImage.filled 428 270 255)
      (GrayImage.filled 428 270 255).gradients = .ok r := by
  have fc : ({} : ScanConfig).layout.FitsCard ({} : ScanConfig).canonical.width
      ({} : ScanConfig).canonical.height :=
    ⟨by decide, by decide, by decide, by decide, ⟨_, rfl, by decide⟩, by decide, by decide,
      ⟨_, rfl, by decide⟩, by decide⟩
  obtain ⟨L, hL⟩ : ∃ L, CardLayout.ofConfig {} = .ok L := ⟨_, rfl⟩
  exact ⟨L, hL, (score_in_bounds fc hL (.inr rfl) {} (GrayImage.filled 428 270 255) (by decide)
    (GrayImage.filled 428 270 255).gradients).1⟩

end SlotLayout

end CardOcr
