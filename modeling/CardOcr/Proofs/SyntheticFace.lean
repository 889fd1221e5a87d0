import CardOcr.Synthetic
import CardOcr.Proofs.GlyphDraw
import CardOcr.Proofs.LayoutFits

/-!
# The synthetic card face and the layout

`SyntheticCard.renderCanonical` fills the card with its shade, draws the digits of the number
into the number cells group by group, keeping its own position counter and stopping once the
digits run out, draws the expiry as `MM/YY` into the expiry cells, and turns the face by half a
turn when the card is flipped.

The two nested loops of the number are one pass over the digits zipped with the cells' targets
`(group, position)`, group after group (`drawNumber_eq_foldlM`).  The zip ends with the shorter
list: a number with fewer digits than cells leaves the last cells blank, and digits past the
last cell are never drawn (`drawNumber_congr_take`).  The targets' cells are the cells of the
layout's number slots in order (`map_cellX_numberTargets`), and the expiry is drawn in the
cells of the expiry slot.  Each glyph paints its ink pixels and keeps every other pixel
(`Glyph.draw_painted_on_card`), so the face before the turn is the filled card with the ink
pixels of every character it draws painted in the ink shade (`drawFace_painted`).

## Key results

- `drawNumber_eq_foldlM`: the number's loops draw the digits into the targets, in order
- `renderCanonical_eq`: the face is the number and the expiry on the filled card, then the turn
- `drawFace_painted`: the face paints the ink of each character drawn, in its cell
- `renderCanonical_matches_layout`: the face and the layout of the settings agree
-/

namespace CardOcr

/-! ## Zips with a long second list -/

/-- Zipping with a list whose front is as long as the first list reads only the front. -/
theorem zip_append_of_length_le {α β : Type} {l : List α} {A B : List β}
    (h : l.length ≤ A.length) : l.zip (A ++ B) = l.zip A := by
  induction l generalizing A with
  | nil => simp
  | cons x l ih =>
    cases A with
    | nil => simp at h
    | cons a A =>
      rw [List.cons_append, List.zip_cons_cons, List.zip_cons_cons,
        ih (Nat.le_of_succ_le_succ h)]

/-- A zip reads as many entries of the first list as the second has. -/
theorem zip_take_length {α β : Type} (l : List α) (T : List β) :
    l.zip T = (l.take T.length).zip T := by
  induction l generalizing T with
  | nil => simp
  | cons x l ih =>
    cases T with
    | nil => simp
    | cons t T => rw [List.length_cons, List.take_succ_cons, List.zip_cons_cons,
        List.zip_cons_cons, ih T]

/-! ## Cells of a layout that fits the card -/

namespace LayoutConfig

variable {l : LayoutConfig}

/-- Cell `j` of a planned slot is cell `firstPosition - position + j` of the number line, the
    slots' cells laid end to end from position `position`. -/
theorem getElem?_flatMap_cells {lens : List Nat} {group position : Nat} {s : SlotLayout}
    (hs : s ∈ l.plannedSlots lens group position) {j : Nat} (hj : j < s.cells.length) :
    position ≤ s.firstPosition ∧
      ((l.plannedSlots lens group position).flatMap (·.cells))[s.firstPosition - position + j]? =
        s.cells[j]? := by
  induction lens generalizing group position with
  | nil => cases hs
  | cons len rest ih =>
    rw [plannedSlots, List.flatMap_cons]
    rcases List.mem_cons.1 hs with rfl | hs
    · -- the first slot starts the line
      have hfirst : (l.plannedSlot group position len).firstPosition = position := rfl
      refine ⟨hfirst.ge, ?_⟩
      rw [hfirst, Nat.sub_self, Nat.zero_add, List.getElem?_append_left hj]
    · -- a later slot comes after the first slot's `len` cells
      obtain ⟨hle, hget⟩ := ih hs
      have hlen : (l.plannedSlot group position len).cells.length = len := by simp [plannedSlot]
      refine ⟨by omega, ?_⟩
      rw [List.getElem?_append_right (by omega), hlen, ← hget]
      congr 1
      omega

/-- The planned number slots all have the number line's top and glyph size. -/
theorem glyph_of_mem_plannedSlots {lens : List Nat} {group position : Nat} {s : SlotLayout}
    (hs : s ∈ l.plannedSlots lens group position) :
    s.top = l.numberTop ∧ s.glyphWidth = l.glyphWidth ∧ s.glyphHeight = l.glyphHeight := by
  obtain ⟨g, p, len, rfl, -, -⟩ := mem_plannedSlots hs
  exact ⟨rfl, rfl, rfl⟩

variable {W H : Nat}

/-- Each digit cell of a layout that fits the card is computed without a fault and ends on the
    card. -/
theorem FitsCard.numberCell_ok (fc : l.FitsCard W H) {g q : Nat} (hg : g < l.groups.length)
    (hq : q < l.groups.sum) :
    l.numberCell g q = .ok (l.cellX g q) ∧ l.cellX g q + l.glyphWidth ≤ W := by
  obtain ⟨r, hr, hrW⟩ := fc.numberRight
  obtain ⟨-, hsum, hlen, rfl, hr32⟩ := numberRight?_eq_some hr
  have hcell := cellX_add_le_right hg hq
  exact ⟨numberCell_eq (by omega) (by omega) (by omega), by omega⟩

/-- Each of the five expiry cells of a layout that fits the card is computed without a fault
    and ends on the card. -/
theorem FitsCard.expiryCell_ok (fc : l.FitsCard W H) {i : Nat} (hi : i < 5) :
    (do let step ← checkedMul 32 i l.expiry.glyphPitch; checkedAdd 32 l.expiry.left step) =
        (.ok (l.expiry.left + i * l.expiry.glyphPitch) : Except Fault Nat) ∧
      l.expiry.left + i * l.expiry.glyphPitch + l.expiry.glyphWidth ≤ W := by
  obtain ⟨r, hr, hrW⟩ := fc.expiryRight
  obtain ⟨rfl, hr32⟩ := ExpiryLayoutConfig.right?_eq_some hr
  have hi4 : i * l.expiry.glyphPitch ≤ l.expiry.glyphPitch * 4 := by
    rw [Nat.mul_comm l.expiry.glyphPitch]
    exact Nat.mul_le_mul_right _ (Nat.le_of_lt_succ hi)
  exact ⟨ExpiryLayoutConfig.cell_eq hr32 hi, by omega⟩

end LayoutConfig

/-- Pixel `(X, Y)` lies in one of the glyph cells of slot `s`. -/
def SlotLayout.InCell (s : SlotLayout) (X Y : Nat) : Prop :=
  ∃ x ∈ s.cells, x ≤ X ∧ X < x + s.glyphWidth ∧ s.top ≤ Y ∧ Y < s.top + s.glyphHeight

namespace SyntheticCard

/-! ## The number's loops -/

/-- Draws digit `ch` in the cell of position `position` of group `group`. -/
def drawDigit (card : SyntheticCard) (group : Nat) (img : GrayImage) (ch : Char)
    (position : Nat) : Except Fault GrayImage := do
  let x ← card.layout.numberCell group position
  Glyph.draw img ch x card.layout.numberTop card.layout.glyphWidth card.layout.glyphHeight
    card.inkShade

/-- A round of the loop over the cells of group `group`, which carries the image, the digits
    left, the next position and whether the digits ran out. -/
def digitRound (card : SyntheticCard) (group : Nat) (s : GrayImage × List Char × Nat × Bool) :
    Except Fault (ForInStep (GrayImage × List Char × Nat × Bool)) :=
  match s.2.1 with
  | [] => pure (.done (s.1, s.2.1, s.2.2.1, true))
  | ch :: rest => do
    let x ← card.layout.numberCell group s.2.2.1
    let img ← Glyph.draw s.1 ch x card.layout.numberTop card.layout.glyphWidth
      card.layout.glyphHeight card.inkShade
    pure (.yield (img, rest, s.2.2.1 + 1, s.2.2.2))

/-- The loop over the `len` cells of a group draws the next `len` digits at the next `len`
    positions, and flags that the digits ran out when fewer were left. -/
theorem forIn_digitRound (card : SyntheticCard) (group : Nat) :
    ∀ (len start : Nat) (img : GrayImage) (digits : List Char) (position : Nat),
      forIn (List.range' start len) (img, digits, position, false)
          (fun _ t => card.digitRound group t) =
        (((digits.take len).zip (List.range' position len)).foldlM
          (fun img t => card.drawDigit group img t.1 t.2) img) >>= fun img' =>
            pure (img', digits.drop len, position + min len digits.length,
              decide (digits.length < len))
  | 0, start, img, digits, position => by simp
  | len + 1, start, img, [], position => by
    simp [List.range'_succ, digitRound]
  | len + 1, start, img, ch :: rest, position => by
    have hstep : card.digitRound group (img, ch :: rest, position, false) =
        (card.drawDigit group img ch position >>= fun img' =>
          pure (.yield (img', rest, position + 1, false))) := by
      simp only [digitRound, drawDigit, bind_assoc]
    rw [List.range'_succ, List.forIn_cons, hstep]
    simp only [bind_assoc, pure_bind, List.take_succ_cons, List.range'_succ, List.zip_cons_cons,
      List.foldlM_cons]
    congr 1
    funext img'
    rw [forIn_digitRound card group len (start + 1) img' rest (position + 1)]
    congr 1
    funext img''
    -- the digits left, the next position and the flag agree
    have hpos : position + min (len + 1) (rest.length + 1) =
        position + 1 + min len rest.length := by
      omega
    rw [List.drop_succ_cons, List.length_cons, hpos]
    simp only [Nat.add_lt_add_iff_right]

/-- A round of the loop over the groups: the loop over the group's cells, then a stop when the
    digits ran out. -/
def groupRound (card : SyntheticCard) (x : Nat × Nat) (s : GrayImage × List Char × Nat) :
    Except Fault (ForInStep (GrayImage × List Char × Nat)) := do
  let t ← forIn (List.range' 0 x.1) (s.1, s.2.1, s.2.2, false) fun _ t => card.digitRound x.2 t
  if t.2.2.2 = true then pure (.done (t.1, t.2.1, t.2.2.1))
  else pure (.yield (t.1, t.2.1, t.2.2.1))

/-- The number's loops, with their rounds named. -/
theorem drawNumber_eq_forIn (card : SyntheticCard) (img : GrayImage) :
    card.drawNumber img = (do
      let s ← forIn card.layout.groups.zipIdx (img, card.number.toList.filter Char.isDigit, 0)
        fun x s => card.groupRound x s
      pure s.1) := by
  unfold drawNumber
  simp only [Std.Legacy.Range.forIn_eq_forIn_range', Std.Legacy.Range.size, Nat.sub_zero,
    Nat.add_sub_cancel, Nat.div_one]
  rfl

/-- The group and the position of each digit cell of groups of `lens` digits, in order, the
    first group being `group` and starting at position `position`. -/
def numberTargets : List Nat → Nat → Nat → List (Nat × Nat)
  | [], _, _ => []
  | len :: rest, group, position =>
    (List.range' position len).map (group, ·) ++ numberTargets rest (group + 1) (position + len)

theorem length_numberTargets (lens : List Nat) (group position : Nat) :
    (numberTargets lens group position).length = lens.sum := by
  induction lens generalizing group position with
  | nil => rfl
  | cons len rest ih => simp [numberTargets, ih]

/-- The loop over the groups draws the digits into the targets, in order, until either runs
    out; it leaves the digits past the groups and the position after the last one drawn. -/
theorem forIn_groupRound (card : SyntheticCard) :
    ∀ (groups : List Nat) (n : Nat) (img : GrayImage) (digits : List Char) (position : Nat),
      forIn (groups.zipIdx n) (img, digits, position) (fun x s => card.groupRound x s) =
        ((digits.zip (numberTargets groups n position)).foldlM
          (fun img t => card.drawDigit t.2.1 img t.1 t.2.2) img) >>= fun img' =>
            pure (img', digits.drop groups.sum, position + min groups.sum digits.length)
  | [], n, img, digits, position => by simp [numberTargets]
  | len :: rest, n, img, digits, position => by
    have hround : card.groupRound (len, n) (img, digits, position) =
        ((digits.take len).zip (List.range' position len)).foldlM
          (fun img t => card.drawDigit n img t.1 t.2) img >>= fun img' =>
            if digits.length < len then
              pure (.done (img', digits.drop len, position + min len digits.length))
            else pure (.yield (img', digits.drop len, position + min len digits.length)) := by
      simp only [groupRound, forIn_digitRound, bind_assoc, pure_bind, decide_eq_true_eq]
    rw [List.zipIdx_cons, List.forIn_cons, hround, bind_assoc]
    -- the targets of this group are its positions, all in group `n`
    have hgroup : ∀ (ds : List Char) (img : GrayImage),
        (ds.zip ((List.range' position len).map (n, ·))).foldlM
          (fun img t => card.drawDigit t.2.1 img t.1 t.2.2) img =
        (ds.zip (List.range' position len)).foldlM
          (fun img t => card.drawDigit n img t.1 t.2) img := by
      intro ds img
      rw [List.zip_map_right, List.foldlM_map]
      rfl
    have hlen : ((List.range' position len).map (n, ·)).length = len := by simp
    simp only [numberTargets, List.sum_cons]
    by_cases hL : digits.length < len
    · -- the digits run out inside this group: the loop stops once they are drawn
      have htake : digits.take len = digits := List.take_of_length_le (by omega)
      simp only [hL, ↓reduceIte, pure_bind]
      rw [zip_append_of_length_le (by omega), hgroup, htake]
      congr 1
      funext img'
      have hdrop : digits.drop (len + rest.sum) = digits.drop len := by
        rw [List.drop_of_length_le (by omega), List.drop_of_length_le (by omega)]
      rw [hdrop, Nat.min_eq_right (by omega), Nat.min_eq_right (by omega)]
    · -- the group is drawn in full and the loop goes on with the next one
      have hsplit : digits.zip (((List.range' position len).map (n, ·)) ++
            numberTargets rest (n + 1) (position + len)) =
          (digits.take len).zip ((List.range' position len).map (n, ·)) ++
            (digits.drop len).zip (numberTargets rest (n + 1) (position + len)) := by
        conv_lhs => rw [← List.take_append_drop len digits]
        exact List.zip_append (by rw [hlen, List.length_take]; omega)
      simp only [hL, ↓reduceIte, pure_bind, Nat.min_eq_left (Nat.le_of_not_lt hL)]
      rw [hsplit, List.foldlM_append, hgroup, bind_assoc]
      congr 1
      funext img'
      rw [forIn_groupRound card rest (n + 1) img' (digits.drop len) (position + len)]
      congr 1
      funext img''
      rw [List.drop_drop, List.length_drop]
      congr 3
      omega

/-- The number's loops draw the digits of the number into the targets of the groups, in order,
    until either runs out. -/
theorem drawNumber_eq_foldlM (card : SyntheticCard) (img : GrayImage) :
    card.drawNumber img =
      ((card.number.toList.filter Char.isDigit).zip (numberTargets card.layout.groups 0 0)).foldlM
        (fun img t => card.drawDigit t.2.1 img t.1 t.2.2) img := by
  rw [drawNumber_eq_forIn, forIn_groupRound, bind_assoc]
  simp only [pure_bind, bind_pure]

/-- Only the digits that have a cell are drawn: numbers whose digits agree up to the number of
    cells draw the same. -/
theorem drawNumber_congr_take (card : SyntheticCard) {number : String}
    (h : (number.toList.filter Char.isDigit).take card.layout.groups.sum =
      (card.number.toList.filter Char.isDigit).take card.layout.groups.sum) (img : GrayImage) :
    { card with number }.drawNumber img = card.drawNumber img := by
  rw [drawNumber_eq_foldlM, drawNumber_eq_foldlM, zip_take_length,
    zip_take_length (card.number.toList.filter Char.isDigit), length_numberTargets]
  exact congrArg (fun ds => (ds.zip (numberTargets card.layout.groups 0 0)).foldlM
    (fun img t => card.drawDigit t.2.1 img t.1 t.2.2) img) h

/-! ## Targets and the layout's cells -/

/-- Every target is a group and a position of the groups. -/
theorem mem_numberTargets {lens : List Nat} {group position : Nat} {t : Nat × Nat}
    (h : t ∈ numberTargets lens group position) :
    t.1 < group + lens.length ∧ t.2 < position + lens.sum := by
  induction lens generalizing group position with
  | nil => cases h
  | cons len rest ih =>
    simp only [numberTargets, List.mem_append, List.mem_map, List.mem_range'_1] at h
    simp only [List.length_cons, List.sum_cons]
    rcases h with ⟨q, ⟨-, hq⟩, rfl⟩ | h
    · exact ⟨by simp, by simp only; omega⟩
    · have := ih h
      omega

/-- The targets' cells are the cells of the planned number slots, in order. -/
theorem map_cellX_numberTargets (l : LayoutConfig) (lens : List Nat) (group position : Nat) :
    (numberTargets lens group position).map (fun t => l.cellX t.1 t.2) =
      (l.plannedSlots lens group position).flatMap (·.cells) := by
  induction lens generalizing group position with
  | nil => rfl
  | cons len rest ih =>
    rw [numberTargets, LayoutConfig.plannedSlots, List.map_append, List.flatMap_cons, ih]
    simp [LayoutConfig.plannedSlot, List.range'_eq_map_range]

/-- The target at position `firstPosition + j` is the one whose cell is cell `j` of its planned
    slot. -/
theorem getElem?_numberTargets {l : LayoutConfig} {lens : List Nat} {s : SlotLayout}
    (hs : s ∈ l.plannedSlots lens 0 0) {j x : Nat} (hx : s.cells[j]? = some x) :
    ∃ t, (numberTargets lens 0 0)[s.firstPosition + j]? = some t ∧ l.cellX t.1 t.2 = x := by
  obtain ⟨-, hflat⟩ := LayoutConfig.getElem?_flatMap_cells hs (List.getElem?_eq_some_iff.1 hx).1
  rw [Nat.sub_zero, hx, ← map_cellX_numberTargets, List.getElem?_map] at hflat
  exact Option.map_eq_some_iff.1 hflat

/-! ## The expiry -/

/-- The two decimal digits of a number below one hundred. -/
def twoDigits (n : Nat) : List Char := [Char.ofNat (48 + n / 10), Char.ofNat (48 + n % 10)]

/-- Below one hundred, `twoDigitText` writes the two decimal digits, the first one zero for a
    single digit. -/
theorem twoDigitText_toList : ∀ n, n < 100 → (twoDigitText n).toList = twoDigits n := by
  decide +kernel

/-- The five characters of an expiry: month and year modulo one hundred, two digits each,
    around a slash. -/
def expiryChars (month year : Nat) : List Char :=
  twoDigits (month % 100) ++ '/' :: twoDigits (year % 100)

theorem length_expiryChars (month year : Nat) : (expiryChars month year).length = 5 := rfl

/-- The expiry's characters are drawn in the five expiry cells. -/
theorem lt_five_of_mem_zipIdx_expiryChars {month year : Nat} {t : Char × Nat}
    (ht : t ∈ (expiryChars month year).zipIdx) : t.2 < 5 :=
  length_expiryChars month year ▸
    (List.getElem?_eq_some_iff.1 (List.mem_zipIdx_iff_getElem?.1 ht)).1

/-- Draws expiry character `ch` in expiry cell `i`. -/
def drawExpiryChar (card : SyntheticCard) (img : GrayImage) (ch : Char) (i : Nat) :
    Except Fault GrayImage := do
  let step ← checkedMul 32 i card.layout.expiry.glyphPitch
  let x ← checkedAdd 32 card.layout.expiry.left step
  Glyph.draw img ch x card.layout.expiry.top card.layout.expiry.glyphWidth
    card.layout.expiry.glyphHeight card.inkShade

/-- Draws the expiry, when there is one, character by character. -/
def drawExpiry (card : SyntheticCard) (img : GrayImage) : Except Fault GrayImage :=
  match card.expiry with
  | some (month, year) =>
    (expiryChars month year).zipIdx.foldlM (fun img t => card.drawExpiryChar img t.1 t.2) img
  | none => pure img

/-! ## The face -/

/-- The face before the turn: the number and then the expiry on the filled card, once its bytes
    are reserved. -/
def drawFace (card : SyntheticCard) : Except Fault GrayImage := do
  reserveCheck (card.width * card.height) 1
  let img ← card.drawNumber (GrayImage.filled card.width card.height card.cardShade)
  card.drawExpiry img

/-- The face is drawn, then turned when the card is flipped. -/
theorem renderCanonical_eq (card : SyntheticCard) :
    card.renderCanonical =
      (fun img => if card.flipped then img.rotate180 else img) <$> card.drawFace := by
  unfold renderCanonical drawFace drawExpiry
  simp only [map_bind]
  congr 1
  funext u
  congr 1
  funext img
  cases card.expiry with
  | none => cases card.flipped <;> rfl
  | some e =>
    obtain ⟨month, year⟩ := e
    have htext : (twoDigitText (month % 100) ++ "/" ++ twoDigitText (year % 100)).toList =
        expiryChars month year := by
      rw [String.toList_append, String.toList_append,
        twoDigitText_toList _ (Nat.mod_lt _ (by decide)),
        twoDigitText_toList _ (Nat.mod_lt _ (by decide))]
      rfl
    -- the expiry's loop only ever yields, so it is a fold
    have hfold : (expiryChars month year).zipIdx.foldlM
        (fun img t => card.drawExpiryChar img t.1 t.2) img =
        forIn (expiryChars month year).zipIdx img
          (fun t s => (fun c => ForInStep.yield c) <$> card.drawExpiryChar s t.1 t.2) := by
      rw [List.forIn_yield_eq_foldlM]
      simp only [id_map']
    dsimp only
    rw [htext, hfold, map_eq_bind_pure_comp]
    refine congrArg₂ (· >>= ·) (congrArg (forIn (expiryChars month year).zipIdx img) ?_) ?_
    · funext t s
      simp only [drawExpiryChar, map_eq_bind_pure_comp, bind_assoc, Function.comp_def]
    · funext s
      cases card.flipped <;> rfl

/-! ## What the face paints -/

/-- The pixels the number paints: the ink pixels of each digit in the cell of its target. -/
def NumberInk (card : SyntheticCard) (X Y : Nat) : Prop :=
  ∃ t ∈ (card.number.toList.filter Char.isDigit).zip (numberTargets card.layout.groups 0 0),
    Glyph.Covers t.1 (card.layout.cellX t.2.1 t.2.2) card.layout.numberTop
      card.layout.glyphWidth card.layout.glyphHeight X Y

/-- The pixels the expiry paints: the ink pixels of each of its characters in its cell. -/
def ExpiryInk (card : SyntheticCard) (X Y : Nat) : Prop :=
  ∃ month year, card.expiry = some (month, year) ∧ ∃ t ∈ (expiryChars month year).zipIdx,
    Glyph.Covers t.1 (card.layout.expiry.left + t.2 * card.layout.expiry.glyphPitch)
      card.layout.expiry.top card.layout.expiry.glyphWidth card.layout.expiry.glyphHeight X Y

/-- The pixels the face paints before the turn. -/
def FaceInk (card : SyntheticCard) (X Y : Nat) : Prop := card.NumberInk X Y ∨ card.ExpiryInk X Y

variable (card : SyntheticCard) {W H : Nat}

/-- On a layout that fits a card whose glyph scaling fits 32 bits, the number is drawn without
    a fault and paints the ink of its digits. -/
theorem drawNumber_painted (fc : card.layout.FitsCard W H) (hW : W * 5 < 2 ^ 32)
    (hH : H * 7 < 2 ^ 32) {img : GrayImage} (hs : img.Sized) :
    ∃ img', card.drawNumber img = .ok img' ∧ img.Painted img' card.NumberInk card.inkShade := by
  rw [drawNumber_eq_foldlM]
  refine GrayImage.Painted.foldlM _ (fun (t : Char × Nat × Nat) =>
    Glyph.Covers t.1 (card.layout.cellX t.2.1 t.2.2)
    card.layout.numberTop card.layout.glyphWidth card.layout.glyphHeight) _
    (fun t ht img hs => ?_) img hs
  -- each target is a cell of the groups, computed without a fault and on the card
  obtain ⟨hg, hq⟩ := mem_numberTargets (List.of_mem_zip ht).2
  obtain ⟨hcell, hright⟩ := fc.numberCell_ok (by simpa using hg) (by simpa using hq)
  rw [drawDigit, hcell]
  exact Glyph.draw_painted_on_card hs _ _ hW hH hright fc.numberBottom

/-- On a layout that fits a card whose glyph scaling fits 32 bits, the expiry is drawn without
    a fault and paints the ink of its characters. -/
theorem drawExpiry_painted (fc : card.layout.FitsCard W H) (hW : W * 5 < 2 ^ 32)
    (hH : H * 7 < 2 ^ 32) {img : GrayImage} (hs : img.Sized) :
    ∃ img', card.drawExpiry img = .ok img' ∧ img.Painted img' card.ExpiryInk card.inkShade := by
  unfold drawExpiry ExpiryInk
  cases card.expiry with
  | none => exact ⟨img, rfl, GrayImage.Painted.rfl.congr fun X Y _ _ => by simp⟩
  | some e =>
    obtain ⟨month, year⟩ := e
    -- each of the five cells is computed without a fault and on the card
    have hstep : ∀ t ∈ (expiryChars month year).zipIdx, ∀ img : GrayImage, img.Sized →
        ∃ img', card.drawExpiryChar img t.1 t.2 = .ok img' ∧
          img.Painted img' (Glyph.Covers t.1
            (card.layout.expiry.left + t.2 * card.layout.expiry.glyphPitch)
            card.layout.expiry.top card.layout.expiry.glyphWidth card.layout.expiry.glyphHeight)
            card.inkShade := by
      intro t ht img hs
      obtain ⟨hcell, hright⟩ := fc.expiryCell_ok (lt_five_of_mem_zipIdx_expiryChars ht)
      rw [drawExpiryChar, ← bind_assoc, hcell]
      exact Glyph.draw_painted_on_card hs _ _ hW hH hright fc.expiryBottom
    obtain ⟨img', hrun, hpaint⟩ := GrayImage.Painted.foldlM _ _ _ hstep img hs
    exact ⟨img', hrun, hpaint.congr fun X Y _ _ => by simp⟩

/-- On a layout that fits a card whose glyph scaling fits 32 bits, the face is drawn without a
    fault: the filled card with the ink of the number's digits and of the expiry painted. -/
theorem drawFace_painted (fc : card.layout.FitsCard card.width card.height)
    (hW : card.width * 5 < 2 ^ 32) (hH : card.height * 7 < 2 ^ 32) :
    ∃ face, card.drawFace = .ok face ∧
      (GrayImage.filled card.width card.height card.cardShade).Painted face card.FaceInk
        card.inkShade := by
  -- the reservation passes: the card has fewer than `2 ^ 60` pixels
  have hreserve : reserveCheck (card.width * card.height) 1 = .ok () := by
    have hpix : card.width * card.height < 2 ^ 30 * 2 ^ 30 :=
      Nat.mul_lt_mul'' (by omega) (by omega)
    unfold reserveCheck
    rw [if_neg (by rw [Nat.pow_eq]; omega)]
  have hs := GrayImage.sized_filled card.width card.height card.cardShade
  obtain ⟨img, hnum, hpnum⟩ := card.drawNumber_painted fc hW hH hs
  obtain ⟨face, hexp, hpexp⟩ := card.drawExpiry_painted fc hW hH (hpnum.sized hs)
  refine ⟨face, ?_, hpnum.trans hpexp⟩
  rw [drawFace, hreserve]
  simp only [bind, Except.bind, hnum, hexp]

/-- Every pixel the face paints lies in a glyph cell of the planned number slots or of the
    expiry slot. -/
theorem inCell_of_faceInk {X Y : Nat} (h : card.FaceInk X Y) :
    (∃ s ∈ card.layout.plannedSlots card.layout.groups 0 0, s.InCell X Y) ∨
      card.layout.expiry.plannedSlot.InCell X Y := by
  rcases h with ⟨t, ht, hcov⟩ | ⟨month, year, -, t, ht, hcov⟩
  · -- the target's cell is a cell of a number slot
    have hmem : card.layout.cellX t.2.1 t.2.2 ∈
        (card.layout.plannedSlots card.layout.groups 0 0).flatMap (·.cells) := by
      rw [← map_cellX_numberTargets]
      exact List.mem_map_of_mem (List.of_mem_zip ht).2
    obtain ⟨s, hs, hx⟩ := List.mem_flatMap.1 hmem
    obtain ⟨htop, hgw, hgh⟩ := LayoutConfig.glyph_of_mem_plannedSlots hs
    obtain ⟨h1, h2, h3, h4, -⟩ := hcov
    refine .inl ⟨s, hs, _, hx, h1, ?_, ?_, ?_⟩
    · rw [hgw]
      exact h2
    · rw [htop]
      exact h3
    · rw [htop, hgh]
      exact h4
  · -- the character's cell is an expiry cell
    obtain ⟨h1, h2, h3, h4, -⟩ := hcov
    exact .inr ⟨_, List.mem_map.2 ⟨t.2, List.mem_range.2 (lt_five_of_mem_zipIdx_expiryChars ht),
      rfl⟩, h1, h2, h3, h4⟩

/-! ## The face and the layout agree -/

/-- The synthetic face and the detector's layout agree.  Take settings whose layout fits the
    card (what validation checks, `ScanConfig.validate_fitsCard`) on a card whose glyph scaling
    fits 32 bits, and any number, expiry and pair of shades.  The face is drawn without a fault
    at the card's size; every pixel off the card shade lies in a glyph cell of a number slot or
    of the expiry slot; every ink pixel of the digit at position `k` is painted in the cell of
    position `k`, for every position with a cell and a digit; the digits past the last cell are
    not drawn; every ink pixel of the five characters `MM/YY` is painted in the five expiry
    cells; and the flipped card is the face turned by half a turn. -/
theorem renderCanonical_matches_layout {c : ScanConfig}
    (fc : c.layout.FitsCard c.canonical.width c.canonical.height)
    (hW : c.canonical.width * 5 < 2 ^ 32) (hH : c.canonical.height * 7 < 2 ^ 32)
    (number : String) (expiry : Option (Nat × Nat)) (cardShade inkShade : UInt8) :
    let card : SyntheticCard := { ofConfig number c with expiry, cardShade, inkShade }
    let digits := number.toList.filter Char.isDigit
    ∃ L img, CardLayout.ofConfig c = .ok L ∧ card.renderCanonical = .ok img ∧
      img.width = c.canonical.width ∧ img.height = c.canonical.height ∧
      (∀ X Y, X < img.width → Y < img.height → img.get X Y ≠ cardShade →
        (∃ s ∈ L.numberSlots, s.InCell X Y) ∨ L.expirySlot.InCell X Y) ∧
      (∀ s ∈ L.numberSlots, ∀ (j x : Nat) (ch : Char), s.cells[j]? = some x →
        digits[s.firstPosition + j]? = some ch →
        ∀ px py, px < s.glyphWidth → py < s.glyphHeight →
          Glyph.isInk ch px py s.glyphWidth s.glyphHeight = .ok true →
          img.get (x + px) (s.top + py) = inkShade) ∧
      (∀ number' : String, (number'.toList.filter Char.isDigit).take L.digitCount =
          digits.take L.digitCount →
        { card with number := number' }.renderCanonical = .ok img) ∧
      (∀ month year, expiry = some (month, year) → ∀ (i x : Nat) (ch : Char),
        (expiryChars month year)[i]? = some ch → L.expirySlot.cells[i]? = some x →
        ∀ px py, px < L.expirySlot.glyphWidth → py < L.expirySlot.glyphHeight →
          Glyph.isInk ch px py L.expirySlot.glyphWidth L.expirySlot.glyphHeight = .ok true →
          img.get (x + px) (L.expirySlot.top + py) = inkShade) ∧
      { card with flipped := true }.renderCanonical = .ok img.rotate180 ∧
      ∀ X Y, X < img.width → Y < img.height →
        img.rotate180.get X Y = img.get (img.width - 1 - X) (img.height - 1 - Y) := by
  intro card digits
  obtain ⟨face, hface, hpaint⟩ := card.drawFace_painted fc hW hH
  have hrender : card.renderCanonical = .ok face := by
    rw [renderCanonical_eq, hface]
    rfl
  have hs : face.Sized := hpaint.sized (GrayImage.sized_filled _ _ _)
  have hwidth : face.width = c.canonical.width := hpaint.width
  have hheight : face.height = c.canonical.height := hpaint.height
  -- a pixel of the face that is painted has the ink shade
  have hinked : ∀ X Y, X < c.canonical.width → Y < c.canonical.height → card.FaceInk X Y →
      face.get X Y = inkShade := hpaint.painted
  refine ⟨_, face, CardLayout.ofConfig_eq_planned fc, hrender, hwidth, hheight, ?cells, ?digits,
    ?take, ?expiry, ?flip, fun X Y hX hY => GrayImage.get_rotate180 hs hX hY⟩
  case cells =>
    intro X Y hX hY hne
    rw [hwidth] at hX
    rw [hheight] at hY
    -- a pixel off the card shade was painted
    have hink : card.FaceInk X Y := by
      by_contra hnot
      exact hne ((hpaint.kept X Y hX hY hnot).trans (GrayImage.get_filled _ hX hY))
    exact inCell_of_faceInk card hink
  case digits =>
    intro s hs j x ch hx hch px py hpx hpy hink
    -- cell `j` of the slot is the cell of the target at position `firstPosition + j`
    obtain ⟨t, ht, rfl⟩ := getElem?_numberTargets hs hx
    have hzip : (digits.zip (numberTargets c.layout.groups 0 0))[s.firstPosition + j]? =
        some (ch, t) := List.getElem?_zip_eq_some.2 ⟨hch, ht⟩
    obtain ⟨hg, hq⟩ := mem_numberTargets (List.mem_of_getElem? ht)
    obtain ⟨-, hright⟩ := fc.numberCell_ok (by simpa using hg) (by simpa using hq)
    obtain ⟨htop, hgw, hgh⟩ := LayoutConfig.glyph_of_mem_plannedSlots hs
    rw [htop]
    rw [hgw, hgh] at hink
    rw [hgw] at hpx
    rw [hgh] at hpy
    obtain ⟨hX, hY, hcov⟩ :=
      Glyph.covers_of_isInk_on_card hW hH hright fc.numberBottom hpx hpy hink
    exact hinked _ _ hX hY (.inl ⟨(ch, t), List.mem_of_getElem? hzip, hcov⟩)
  case take =>
    intro number' htake
    have hcount : CardLayout.digitCount
        ⟨⟨c.canonical.width, c.canonical.height⟩, c.layout.plannedSlots c.layout.groups 0 0,
          c.layout.expiry.plannedSlot⟩ = c.layout.groups.sum := by
      simp only [CardLayout.digitCount, LayoutConfig.map_digitCount_plannedSlots]
      rfl
    rw [hcount] at htake
    have hface' : { card with number := number' }.drawFace = card.drawFace := by
      unfold drawFace
      simp only [drawNumber_congr_take card htake]
      rfl
    rw [renderCanonical_eq, hface', hface]
    rfl
  case expiry =>
    intro month year hexp i x ch hch hx px py hpx hpy hink
    dsimp only [ExpiryLayoutConfig.plannedSlot] at hx hpx hpy hink ⊢
    have hi : i < 5 := by simpa using (List.getElem?_eq_some_iff.1 hx).1
    have hxi : x = c.layout.expiry.left + i * c.layout.expiry.glyphPitch := by
      simp only [List.getElem?_map, List.getElem?_range hi, Option.map_some, Option.some.injEq]
        at hx
      exact hx.symm
    subst hxi
    obtain ⟨-, hright⟩ := fc.expiryCell_ok hi
    obtain ⟨hX, hY, hcov⟩ :=
      Glyph.covers_of_isInk_on_card hW hH hright fc.expiryBottom hpx hpy hink
    exact hinked _ _ hX hY
      (.inr ⟨month, year, hexp, (ch, i), List.mem_zipIdx_iff_getElem?.2 hch, hcov⟩)
  case flip =>
    have hface' : { card with flipped := true }.drawFace = card.drawFace := rfl
    rw [renderCanonical_eq, hface', hface]
    rfl

/-- The default settings on the default card: a sixteen digit number with an expiry is drawn at
    the card's size, and the flipped card is its half turn. -/
theorem renderCanonical_matches_layout_default :
    ∃ img, ({ ofConfig "4111 1111 1111 1111" {} with
          expiry := some (9, 2027), cardShade := 215, inkShade := 35 } :
        SyntheticCard).renderCanonical = .ok img ∧
      img.width = 428 ∧ img.height = 270 ∧
      ({ ofConfig "4111 1111 1111 1111" {} with
          expiry := some (9, 2027), cardShade := 215, inkShade := 35,
          flipped := true } : SyntheticCard).renderCanonical = .ok img.rotate180 := by
  have fc : ({} : ScanConfig).layout.FitsCard ({} : ScanConfig).canonical.width
      ({} : ScanConfig).canonical.height :=
    ⟨by decide, by decide, by decide, by decide, ⟨_, rfl, by decide⟩, by decide, by decide,
      ⟨_, rfl, by decide⟩, by decide⟩
  obtain ⟨-, img, -, hrender, hw, hh, -, -, -, -, hflip, -⟩ :=
    renderCanonical_matches_layout fc (by decide) (by decide) "4111 1111 1111 1111"
      (some (9, 2027)) 215 35
  exact ⟨img, hrender, hw, hh, hflip⟩

end SyntheticCard

end CardOcr
