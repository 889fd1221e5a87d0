import Mathlib
import CardOcr.Layout
import CardOcr.Config.Validate
import CardOcr.Proofs.CheckedSums

/-!
# Valid settings give a layout that fits the card

`ScanConfig.validate` bounds the right edge of the number line by a chain of checked 32-bit
steps, `(digits - 1) · pitch + width + (groups - 1) · gap + left`, while the layout computes
every cell on its own as `left + position · pitch + group · gap`.  Each cell is below the
checked right edge, so none of its steps overflows; the same holds of the five expiry cells,
and of the box over each slot.

The layout is then the planned one (`LayoutConfig.plannedSlots`): slot `g` holds the cells of
the positions `first .. first + groups[g]` with `first` the size of the groups before it, so
the slots cover the digit positions in order, each once.  Each cell ends on the card and the
cells of a slot are at least a glyph apart (`SlotLayout.Fits`).

## Key results

- `ScanConfig.validate_fitsCard`: what validation checks of the layout
- `LayoutConfig.numberSlots_eq_planned`: the number slots are computed without a fault
- `ScanConfig.layout_fits_card`: the layout of valid settings fits the card
-/

namespace CardOcr

/-! ## What validation checks of the layout -/

/-- What valid settings promise of their layout on a card of `width × height`: groups that are
    there and hold digits, glyphs no wider than their pitch, and a number line and an expiry
    field whose right edges, computed in 32 bits, and whose bottoms lie on the card. -/
structure LayoutConfig.FitsCard (l : LayoutConfig) (width height : Nat) : Prop where
  groups_ne_nil : l.groups ≠ []
  groups_pos : ∀ g ∈ l.groups, 0 < g
  glyphWidth_pos : 0 < l.glyphWidth
  width_le_pitch : l.glyphWidth ≤ l.glyphPitch
  numberRight : ∃ r, l.numberRight? = some r ∧ r ≤ width
  numberBottom : l.numberTop + l.glyphHeight ≤ height
  expiryWidth_le_pitch : l.expiry.glyphWidth ≤ l.expiry.glyphPitch
  expiryRight : ∃ r, l.expiry.right? = some r ∧ r ≤ width
  expiryBottom : l.expiry.top + l.expiry.glyphHeight ≤ height

/-- A check that passed: a computation that fails when `c` holds gave a result. -/
theorem not_of_ite_error_eq_ok {ε α : Type} {c : Prop} [Decidable c] {e : ε}
    {x : Except ε α} {a : α} (h : (if c then .error e else x) = .ok a) : ¬c ∧ x = .ok a := by
  by_cases hc : c
  · rw [if_pos hc] at h
    cases h
  · rw [if_neg hc] at h
    exact ⟨hc, h⟩

theorem ScanConfig.validate_fitsCard {cfg : ScanConfig} (h : cfg.validate = .ok ()) :
    cfg.layout.FitsCard cfg.canonical.width cfg.canonical.height := by
  unfold ScanConfig.validate at h
  simp only [bind, Except.bind, pure, Except.pure] at h
  -- the size and the four layout checks come first
  obtain ⟨-, h⟩ := not_of_ite_error_eq_ok h
  obtain ⟨hgroups, h⟩ := not_of_ite_error_eq_ok h
  obtain ⟨hglyph, h⟩ := not_of_ite_error_eq_ok h
  obtain ⟨hnumber, h⟩ := not_of_ite_error_eq_ok h
  obtain ⟨hexpiry, -⟩ := not_of_ite_error_eq_ok h
  simp only [Bool.or_eq_true, List.isEmpty_iff, List.contains_iff_mem, decide_eq_true_eq,
    not_or, not_lt] at hgroups hglyph
  simp only [Bool.not_eq_true', Bool.not_eq_false, Bool.and_eq_true, bottomFits,
    decide_eq_true_eq] at hnumber hexpiry
  obtain ⟨hright, -, hbottom⟩ := hnumber
  obtain ⟨⟨hpitch, hright'⟩, -, hbottom'⟩ := hexpiry
  refine ⟨hgroups.1, fun g hg => Nat.pos_of_ne_zero fun h0 => hgroups.2 (h0 ▸ hg),
    Nat.pos_of_ne_zero hglyph.1.1, hglyph.2, ?_, hbottom, hpitch, ?_, hbottom'⟩
  · split at hright
    · exact ⟨_, ‹_›, of_decide_eq_true hright⟩
    · cases hright
  · split at hright'
    · exact ⟨_, ‹_›, of_decide_eq_true hright'⟩
    · cases hright'

/-! ## The checked right edges -/

/-- The checked sum of group sizes is their sum, and stays within 32 bits. -/
theorem digitSum_foldlM {xs : List Nat} {n d : Nat} (hn : n < 2 ^ 32)
    (h : xs.foldlM (fun n g => if fitsU32 g && fitsU32 (n + g) then some (n + g) else none) n =
      some d) : d = n + xs.sum ∧ d < 2 ^ 32 := by
  induction xs generalizing n with
  | nil =>
    cases h
    exact ⟨rfl, hn⟩
  | cons x xs ih =>
    by_cases hfit : (fitsU32 x && fitsU32 (n + x)) = true
    · rw [List.foldlM_cons, if_pos hfit] at h
      simp only [fitsU32, Nat.pow_eq, Bool.and_eq_true, decide_eq_true_eq] at hfit
      obtain ⟨rfl, hd⟩ := ih hfit.2 h
      exact ⟨by rw [List.sum_cons, Nat.add_assoc], hd⟩
    · rw [List.foldlM_cons, if_neg hfit] at h
      cases h

/-- The number line's right edge, when its checked computation does not overflow:
    `(digits - 1) · pitch + width + (groups - 1) · gap + left`, below `2 ^ 32`. -/
theorem LayoutConfig.numberRight?_eq_some {l : LayoutConfig} {r : Nat}
    (h : l.numberRight? = some r) :
    0 < l.groups.sum ∧ l.groups.sum < 2 ^ 32 ∧ l.groups.length ≤ 2 ^ 32 ∧
      r = (l.groups.sum - 1) * l.glyphPitch + l.glyphWidth + (l.groups.length - 1) * l.groupGap +
        l.numberLeft ∧ r < 2 ^ 32 := by
  unfold LayoutConfig.numberRight? at h
  cases hd : l.groups.foldlM
      (fun n g => if fitsU32 g && fitsU32 (n + g) then some (n + g) else none) 0 with
  | none =>
    rw [hd] at h
    cases h
  | some d =>
    obtain ⟨rfl, hsum⟩ := digitSum_foldlM (by decide) hd
    rw [hd] at h
    -- every checked step passed; the last one gives the right edge
    simp only [bind, Option.bind, Option.ite_none_left_eq_some, Option.ite_none_right_eq_some,
      Option.some.injEq, fitsU32, Nat.pow_eq, Bool.and_eq_true, decide_eq_true_eq,
      Nat.zero_add] at h hsum
    obtain ⟨-, ⟨hlen, -⟩, hd0, -, -, -, hr, rfl⟩ := h
    exact ⟨Nat.pos_of_ne_zero hd0, hsum, by omega, rfl, hr⟩

/-- The expiry field's right edge, when its checked computation does not overflow:
    `4 · pitch + width + left`, below `2 ^ 32`. -/
theorem ExpiryLayoutConfig.right?_eq_some {e : ExpiryLayoutConfig} {r : Nat}
    (h : e.right? = some r) : r = e.glyphPitch * 4 + e.glyphWidth + e.left ∧ r < 2 ^ 32 := by
  unfold ExpiryLayoutConfig.right? at h
  simp only [bind, Option.bind, Option.ite_none_right_eq_some, Option.some.injEq, fitsU32,
    Nat.pow_eq, decide_eq_true_eq] at h
  obtain ⟨-, -, hr, rfl⟩ := h
  exact ⟨rfl, hr⟩

/-! ## Cells in exact arithmetic -/

/-- A traversal whose every step gives a result gives the list of them. -/
theorem mapM_eq_ok_map {ε α β : Type} {f : α → Except ε β} {g : α → β} {xs : List α}
    (h : ∀ x ∈ xs, f x = .ok (g x)) : xs.mapM f = .ok (xs.map g) := by
  induction xs with
  | nil => rfl
  | cons x xs ih =>
    rw [List.mapM_cons, h x List.mem_cons_self, ih fun y hy => h y (List.mem_cons_of_mem _ hy)]
    rfl

namespace LayoutConfig

variable (l : LayoutConfig)

/-- The left edge of the glyph at digit position `position` of group `group`, in exact
    arithmetic. -/
def cellX (group position : Nat) : Nat :=
  l.numberLeft + position * l.glyphPitch + group * l.groupGap

variable {l}

/-- A cell whose exact edge fits 32 bits is computed without a fault, for a position and a
    group that are 32-bit words themselves. -/
theorem numberCell_eq {group position : Nat} (hp : position < 2 ^ 32) (hg : group < 2 ^ 32)
    (hx : l.cellX group position < 2 ^ 32) :
    l.numberCell group position = .ok (l.cellX group position) := by
  unfold cellX at hx
  have h1 : position * l.glyphPitch < 2 ^ 32 := by omega
  have h2 : l.numberLeft + position * l.glyphPitch < 2 ^ 32 := by omega
  have h3 : group * l.groupGap < 2 ^ 32 := by omega
  simp only [numberCell, checkedMul, checkedAdd, Nat.pow_eq, Nat.mod_eq_of_lt hp,
    Nat.mod_eq_of_lt hg, h1, h2, h3, hx, ↓reduceIte, bind, Except.bind]
  rfl

theorem groupCell_eq {group position j : Nat} (hp : position + j < 2 ^ 32) (hg : group < 2 ^ 32)
    (hx : l.cellX group (position + j) < 2 ^ 32) :
    l.groupCell group position j = .ok (l.cellX group (position + j)) := by
  have h64 : position + j < Nat.pow 2 64 := by rw [Nat.pow_eq]; omega
  simp only [groupCell, checkedAdd, h64, ↓reduceIte, bind, Except.bind]
  exact numberCell_eq hp hg hx

/-- The search for the first faulty cell changes nothing when no cell of the group faults: the
    group's cells are then those of the plain traversal. -/
theorem groupCells_eq_mapM {group position len : Nat}
    (h : ∀ j < len, ∃ x, l.groupCell group position j = .ok x) :
    l.groupCells group position len = (List.range len).mapM (l.groupCell group position) := by
  unfold groupCells
  split
  · split
    · -- the cell the search names is free of faults, so the traversal runs
      rename_i f _ hf
      obtain ⟨x, hx⟩ := h f hf
      rw [hx]
    · rfl
  · rfl

variable (l)

/-- The number slot of group `group` holding `len` digits from position `position`, with its
    cells in exact arithmetic. -/
def plannedSlot (group position len : Nat) : SlotLayout :=
  { kind := .numberGroup group, cells := (List.range len).map fun j => l.cellX group (position + j),
    digitCells := List.range len, top := l.numberTop, glyphWidth := l.glyphWidth,
    glyphHeight := l.glyphHeight, firstPosition := position }

/-- The number slots of groups of `lens` digits, the first being group `group` and starting at
    position `position`. -/
def plannedSlots : List Nat → Nat → Nat → List SlotLayout
  | [], _, _ => []
  | len :: rest, group, position =>
    l.plannedSlot group position len :: plannedSlots rest (group + 1) (position + len)

variable {l}

/-- The number slots are the planned ones when every cell of every group fits 32 bits: no
    position, group, cell or reservation overflows. -/
theorem numberSlots_eq_planned {lens : List Nat} {group position : Nat}
    (hpos : position + lens.sum < 2 ^ 32) (hgroup : group + lens.length ≤ 2 ^ 32)
    (hcell : ∀ g q, g < group + lens.length → q < position + lens.sum →
      l.cellX g q < 2 ^ 32) :
    l.numberSlots lens group position = .ok (l.plannedSlots lens group position) := by
  induction lens generalizing group position with
  | nil => rfl
  | cons len rest ih =>
    simp only [List.sum_cons, List.length_cons] at hpos hgroup hcell
    -- the group's cells, its two reservations and the next position all fit their words
    have hcells : l.groupCells group position len =
        .ok ((List.range len).map fun j => l.cellX group (position + j)) := by
      have hj : ∀ j < len, l.groupCell group position j = .ok (l.cellX group (position + j)) :=
        fun j hlt => groupCell_eq (by omega) (by omega) (hcell _ _ (by omega) (by omega))
      rw [groupCells_eq_mapM fun j hlt => ⟨_, hj j hlt⟩]
      exact mapM_eq_ok_map fun j hmem => hj j (List.mem_range.1 hmem)
    have hr4 : ¬Nat.pow 2 63 ≤ len * 4 := by rw [Nat.pow_eq]; omega
    have hr8 : ¬Nat.pow 2 63 ≤ len * 8 := by rw [Nat.pow_eq]; omega
    have hnext : position + len < Nat.pow 2 64 := by rw [Nat.pow_eq]; omega
    have hrest : l.numberSlots rest (group + 1) (position + len) =
        .ok (l.plannedSlots rest (group + 1) (position + len)) :=
      ih (by omega) (by omega) fun g q hg hq => hcell g q (by omega) (by omega)
    simp only [numberSlots, reserveCheck, checkedAdd, hr4, hr8, hnext, hcells, hrest,
      ↓reduceIte, bind, Except.bind, pure, Except.pure]
    rfl

end LayoutConfig

/-! ## Slots that fit the card -/

namespace SlotLayout

/-- The digit positions of the card number that a slot holds, in order. -/
def positions (s : SlotLayout) : List Nat := (List.range s.digitCount).map (s.firstPosition + ·)

/-- A slot that lies on a canvas: every glyph cell ends within its width and the row within its
    height, each cell starts at least a glyph width after the one before, and the box over its
    cells is computed without a fault. -/
structure Fits (canvas : Size) (s : SlotLayout) : Prop where
  right : ∀ x ∈ s.cells, x + s.glyphWidth ≤ canvas.width
  bottom : s.top + s.glyphHeight ≤ canvas.height
  spaced : s.cells.IsChain fun a b => a + s.glyphWidth ≤ b
  box : ∃ b, s.nominalBox = .ok b

/-- Cells spaced by a glyph width are sorted. -/
theorem pairwise_le_of_spaced {s : SlotLayout}
    (h : s.cells.IsChain fun a b => a + s.glyphWidth ≤ b) : s.cells.Pairwise (· ≤ ·) :=
  (h.imp fun _ _ hab => Nat.le_trans (Nat.le_add_right _ _) hab).pairwise

/-- The box over spaced cells that end within 32 bits is computed without a fault: its right
    edge fits and lies at or past its left edge. -/
theorem nominalBox_ok {s : SlotLayout} (hspaced : s.cells.IsChain fun a b => a + s.glyphWidth ≤ b)
    (hw : s.glyphWidth < 2 ^ 32) (hfit : ∀ x ∈ s.cells, x + s.glyphWidth < 2 ^ 32) :
    ∃ b, s.nominalBox = .ok b := by
  have hsorted := pairwise_le_of_spaced hspaced
  -- the last cell (zero for no cells) ends within 32 bits, at or past the first cell
  have hlast : s.cells.getLastD 0 + s.glyphWidth < Nat.pow 2 32 ∧
      s.cells.headD 0 ≤ s.cells.getLastD 0 + s.glyphWidth := by
    rw [Nat.pow_eq]
    cases hc : s.cells with
    | nil => exact ⟨by simpa using hw, Nat.zero_le _⟩
    | cons a t =>
      rw [hc] at hsorted hfit
      have hmem : (a :: t).getLastD 0 ∈ a :: t := by
        rw [List.getLastD_cons]
        exact List.getLastD_mem_cons
      refine ⟨hfit _ hmem, ?_⟩
      have ha : a ≤ (a :: t).getLastD 0 := by
        rcases List.mem_cons.1 hmem with h | h
        · exact Nat.le_of_eq h.symm
        · exact List.rel_of_pairwise_cons hsorted h
      exact Nat.le_trans ha (Nat.le_add_right _ _)
  simp only [nominalBox, checkedAdd, checkedSub, hlast.1, hlast.2, ↓reduceIte, bind, Except.bind,
    pure, Except.pure]
  exact ⟨_, rfl⟩

/-- A slot fits a canvas when its cells are spaced and each ends within a right edge `R` on the
    canvas and within 32 bits, as does a glyph at zero. -/
theorem Fits.of_spaced {s : SlotLayout} {canvas : Size} {R : Nat} (hR : R < 2 ^ 32)
    (hRw : R ≤ canvas.width) (hw : s.glyphWidth ≤ R)
    (hcells : ∀ x ∈ s.cells, x + s.glyphWidth ≤ R)
    (hbottom : s.top + s.glyphHeight ≤ canvas.height)
    (hspaced : s.cells.IsChain fun a b => a + s.glyphWidth ≤ b) : s.Fits canvas where
  right x hx := Nat.le_trans (hcells x hx) hRw
  bottom := hbottom
  spaced := hspaced
  box := nominalBox_ok hspaced (by omega) fun x hx => Nat.lt_of_le_of_lt (hcells x hx) hR

end SlotLayout

namespace LayoutConfig

variable {l : LayoutConfig}

theorem cellX_succ (g q : Nat) : l.cellX g (q + 1) = l.cellX g q + l.glyphPitch := by
  unfold cellX
  rw [Nat.succ_mul]
  omega

/-- Consecutive cells of a group are a pitch apart, so at least a glyph width. -/
theorem plannedSlot_spaced (hpitch : l.glyphWidth ≤ l.glyphPitch) (g p len : Nat) :
    (l.plannedSlot g p len).cells.IsChain fun a b => a + l.glyphWidth ≤ b := by
  simp only [plannedSlot, List.isChain_map, List.isChain_range]
  intro m _
  rw [Nat.succ_eq_add_one, ← Nat.add_assoc, cellX_succ]
  omega

theorem plannedSlot_fits {canvas : Size} {R g p len : Nat} (hpitch : l.glyphWidth ≤ l.glyphPitch)
    (hR : R < 2 ^ 32) (hRw : R ≤ canvas.width) (hw : l.glyphWidth ≤ R)
    (hbottom : l.numberTop + l.glyphHeight ≤ canvas.height)
    (hcell : ∀ j < len, l.cellX g (p + j) + l.glyphWidth ≤ R) :
    (l.plannedSlot g p len).Fits canvas := by
  refine SlotLayout.Fits.of_spaced hR hRw hw ?_ hbottom (plannedSlot_spaced hpitch g p len)
  simp only [plannedSlot, List.mem_map, List.mem_range]
  rintro x ⟨j, hj, rfl⟩
  exact hcell j hj

/-- The cells of a group rise strictly once glyphs have a width. -/
theorem plannedSlot_pairwise_lt (hpitch : l.glyphWidth ≤ l.glyphPitch) (hw : 0 < l.glyphWidth)
    (g p len : Nat) : (l.plannedSlot g p len).cells.Pairwise (· < ·) :=
  ((plannedSlot_spaced hpitch g p len).imp fun _ _ hab => by omega).pairwise

variable (l)

theorem map_cells_length_plannedSlots (lens : List Nat) (group position : Nat) :
    (l.plannedSlots lens group position).map (·.cells.length) = lens := by
  induction lens generalizing group position with
  | nil => rfl
  | cons len rest ih => simp [plannedSlots, plannedSlot, ih]

theorem map_digitCount_plannedSlots (lens : List Nat) (group position : Nat) :
    (l.plannedSlots lens group position).map SlotLayout.digitCount = lens := by
  induction lens generalizing group position with
  | nil => rfl
  | cons len rest ih => simp [plannedSlots, plannedSlot, SlotLayout.digitCount, ih]

/-- Each slot starts after the digits of the groups before it. -/
theorem map_firstPosition_plannedSlots (lens : List Nat) (group position : Nat) :
    (l.plannedSlots lens group position).map (·.firstPosition) =
      (List.range lens.length).map fun i => position + (lens.take i).sum := by
  induction lens generalizing group position with
  | nil => rfl
  | cons len rest ih =>
    rw [plannedSlots, List.map_cons, ih, List.length_cons, List.range_succ_eq_map]
    simp [plannedSlot, Nat.add_assoc]

/-- The slots hold the positions from `position` on, in order, each once. -/
theorem flatMap_positions_plannedSlots (lens : List Nat) (group position : Nat) :
    (l.plannedSlots lens group position).flatMap SlotLayout.positions =
      (List.range lens.sum).map (position + ·) := by
  induction lens generalizing group position with
  | nil => rfl
  | cons len rest ih =>
    rw [plannedSlots, List.flatMap_cons, ih, List.sum_cons, List.range_add, List.map_append,
      List.map_map]
    simp [SlotLayout.positions, plannedSlot, SlotLayout.digitCount, Function.comp_def,
      Nat.add_assoc]

variable {l}

/-- A planned slot is that of a group among `lens`, covering positions among theirs. -/
theorem mem_plannedSlots {lens : List Nat} {group position : Nat} {s : SlotLayout}
    (h : s ∈ l.plannedSlots lens group position) :
    ∃ g p len, s = l.plannedSlot g p len ∧ g < group + lens.length ∧
      p + len ≤ position + lens.sum := by
  induction lens generalizing group position with
  | nil => cases h
  | cons len rest ih =>
    rcases List.mem_cons.1 h with rfl | h
    · exact ⟨group, position, len, rfl, by simp, by simp⟩
    · obtain ⟨g, p, n, rfl, hg, hp⟩ := ih h
      refine ⟨g, p, n, rfl, ?_, ?_⟩ <;> simp only [List.length_cons, List.sum_cons] <;> omega

end LayoutConfig

/-! ## The expiry slot -/

namespace ExpiryLayoutConfig

variable (e : ExpiryLayoutConfig)

/-- The expiry slot with its five cells in exact arithmetic. -/
def plannedSlot : SlotLayout :=
  { kind := .expiry, cells := (List.range 5).map fun i => e.left + i * e.glyphPitch,
    digitCells := [0, 1, 3, 4], top := e.top, glyphWidth := e.glyphWidth,
    glyphHeight := e.glyphHeight, firstPosition := 0 }

variable {e}

/-- Expiry cell `i` of the five is computed without a fault once the right edge fits 32
    bits. -/
theorem cell_eq (h : e.glyphPitch * 4 + e.glyphWidth + e.left < 2 ^ 32) {i : Nat} (hi : i < 5) :
    (do let step ← checkedMul 32 i e.glyphPitch; checkedAdd 32 e.left step) =
      (.ok (e.left + i * e.glyphPitch) : Except Fault Nat) := by
  have hi4 : i * e.glyphPitch ≤ e.glyphPitch * 4 := by
    rw [Nat.mul_comm e.glyphPitch]
    exact Nat.mul_le_mul_right _ (Nat.le_of_lt_succ hi)
  have hmul : i * e.glyphPitch < Nat.pow 2 32 := by rw [Nat.pow_eq]; omega
  have hadd : e.left + i * e.glyphPitch < Nat.pow 2 32 := by rw [Nat.pow_eq]; omega
  simp only [checkedMul, checkedAdd, hmul, hadd, ↓reduceIte, bind, Except.bind]

/-- The expiry cells are computed without a fault once the right edge fits 32 bits. -/
theorem slot_eq_planned (h : e.glyphPitch * 4 + e.glyphWidth + e.left < 2 ^ 32) :
    e.slot = .ok e.plannedSlot := by
  unfold slot
  rw [mapM_eq_ok_map fun i hi => cell_eq h (List.mem_range.1 hi)]
  rfl

/-- The expiry slot of a field whose right edge `R` lies on the canvas fits it. -/
theorem plannedSlot_fits {canvas : Size} (hpitch : e.glyphWidth ≤ e.glyphPitch)
    (hR : e.glyphPitch * 4 + e.glyphWidth + e.left < 2 ^ 32)
    (hRw : e.glyphPitch * 4 + e.glyphWidth + e.left ≤ canvas.width)
    (hbottom : e.top + e.glyphHeight ≤ canvas.height) : e.plannedSlot.Fits canvas := by
  refine SlotLayout.Fits.of_spaced hR hRw (show e.glyphWidth ≤ _ by omega) ?_ hbottom ?_
  · simp only [plannedSlot, List.mem_map, List.mem_range]
    rintro x ⟨i, hi, rfl⟩
    have hi4 : i * e.glyphPitch ≤ e.glyphPitch * 4 := by
      rw [Nat.mul_comm e.glyphPitch]
      exact Nat.mul_le_mul_right _ (Nat.le_of_lt_succ hi)
    omega
  · -- consecutive cells are a pitch apart
    simp only [plannedSlot, List.isChain_map, List.isChain_range]
    intro m _
    rw [Nat.succ_mul]
    omega

end ExpiryLayoutConfig

/-! ## The layout of valid settings -/

namespace LayoutConfig

variable {l : LayoutConfig}

/-- Every cell of the number line ends at or before its checked right edge. -/
theorem cellX_add_le_right {g q : Nat} (hg : g < l.groups.length) (hq : q < l.groups.sum) :
    l.cellX g q + l.glyphWidth ≤
      (l.groups.sum - 1) * l.glyphPitch + l.glyphWidth + (l.groups.length - 1) * l.groupGap +
        l.numberLeft := by
  have hpitch := Nat.mul_le_mul_right l.glyphPitch (Nat.le_sub_one_of_lt hq)
  have hgap := Nat.mul_le_mul_right l.groupGap (Nat.le_sub_one_of_lt hg)
  unfold cellX
  omega

end LayoutConfig

/-- The layout of settings that pass validation's layout checks is the planned one: no step of
    its computation faults. -/
theorem CardLayout.ofConfig_eq_planned {c : ScanConfig}
    (fc : c.layout.FitsCard c.canonical.width c.canonical.height) :
    CardLayout.ofConfig c =
      .ok ⟨⟨c.canonical.width, c.canonical.height⟩, c.layout.plannedSlots c.layout.groups 0 0,
        c.layout.expiry.plannedSlot⟩ := by
  obtain ⟨r, hr, -⟩ := fc.numberRight
  obtain ⟨-, hsum, hlen, rfl, hr32⟩ := LayoutConfig.numberRight?_eq_some hr
  obtain ⟨r', hr', -⟩ := fc.expiryRight
  obtain ⟨rfl, hr32'⟩ := ExpiryLayoutConfig.right?_eq_some hr'
  -- every cell ends before the number line's right edge, which fits 32 bits
  have hslots : c.layout.numberSlots c.layout.groups 0 0 =
      .ok (c.layout.plannedSlots c.layout.groups 0 0) :=
    LayoutConfig.numberSlots_eq_planned (by omega) (by omega) fun g q hg hq => by
      have := LayoutConfig.cellX_add_le_right (Nat.zero_add _ ▸ hg) (Nat.zero_add _ ▸ hq)
      omega
  simp only [CardLayout.ofConfig, hslots, ExpiryLayoutConfig.slot_eq_planned hr32', bind,
    Except.bind, pure, Except.pure]

/-- Settings that pass validation's layout checks (`validate_fitsCard`) give a layout computed
    without overflow whose slots fit the card: slot `g` has `groups[g]` cells and digits and
    starts after the digits of the groups before it, so the slots hold every digit position
    once, in order, and as many as the settings count; every cell ends on the card, the cells
    of a slot are a glyph width or more apart (strictly rising on the number line), and the box
    over each slot is computed without a fault. -/
theorem ScanConfig.layout_fits_card {c : ScanConfig}
    (fc : c.layout.FitsCard c.canonical.width c.canonical.height) :
    ∃ L, CardLayout.ofConfig c = .ok L ∧ L.canonical = ⟨c.canonical.width, c.canonical.height⟩ ∧
      L.numberSlots.map (·.cells.length) = c.layout.groups ∧
      L.numberSlots.map SlotLayout.digitCount = c.layout.groups ∧
      L.numberSlots.map (·.firstPosition) =
        (List.range c.layout.groups.length).map (fun g => (c.layout.groups.take g).sum) ∧
      L.numberSlots.flatMap SlotLayout.positions = List.range L.digitCount ∧
      c.layout.digitCount = .ok L.digitCount ∧
      (∀ s ∈ L.numberSlots, s.Fits L.canonical ∧ s.cells.Pairwise (· < ·)) ∧
      L.expirySlot.Fits L.canonical := by
  obtain ⟨r, hr, hrw⟩ := fc.numberRight
  obtain ⟨-, hsum, -, rfl, hr32⟩ := LayoutConfig.numberRight?_eq_some hr
  obtain ⟨r', hr', hrw'⟩ := fc.expiryRight
  obtain ⟨rfl, hr32'⟩ := ExpiryLayoutConfig.right?_eq_some hr'
  have hdigits : CardLayout.digitCount
      ⟨⟨c.canonical.width, c.canonical.height⟩, c.layout.plannedSlots c.layout.groups 0 0,
        c.layout.expiry.plannedSlot⟩ = c.layout.groups.sum := by
    simp only [CardLayout.digitCount, LayoutConfig.map_digitCount_plannedSlots]
    rfl
  refine ⟨_, CardLayout.ofConfig_eq_planned fc, rfl,
    LayoutConfig.map_cells_length_plannedSlots _ _ _ _,
    LayoutConfig.map_digitCount_plannedSlots _ _ _ _, ?_, ?_, ?_, ?_, ?_⟩
  · simpa using LayoutConfig.map_firstPosition_plannedSlots c.layout c.layout.groups 0 0
  · rw [hdigits]
    simpa using LayoutConfig.flatMap_positions_plannedSlots c.layout c.layout.groups 0 0
  · rw [hdigits, LayoutConfig.digitCount, foldlM_checkedAdd_of_lt (by omega), Nat.zero_add]
  · -- each number slot is that of a group, its cells before the number line's right edge
    intro s hs
    obtain ⟨g, p, len, rfl, hg, hp⟩ := LayoutConfig.mem_plannedSlots hs
    refine ⟨LayoutConfig.plannedSlot_fits fc.width_le_pitch hr32 hrw (by omega) fc.numberBottom
      fun j hj => LayoutConfig.cellX_add_le_right (by omega) (by omega),
      LayoutConfig.plannedSlot_pairwise_lt fc.width_le_pitch fc.glyphWidth_pos g p len⟩
  · exact ExpiryLayoutConfig.plannedSlot_fits fc.expiryWidth_le_pitch hr32' hrw' fc.expiryBottom

/-- The fifteen digit layout passes the layout checks on the default card, and its three
    groups start at positions 0, 4 and 10. -/
theorem ScanConfig.layout_fits_card_amex :
    LayoutConfig.amex.FitsCard 428 270 ∧
      ∃ L, CardLayout.ofConfig { layout := .amex } = .ok L ∧
        L.numberSlots.map (·.firstPosition) = [0, 4, 10] ∧ L.digitCount = 15 ∧
        ∀ s ∈ L.numberSlots, s.Fits L.canonical := by
  have fc : LayoutConfig.amex.FitsCard 428 270 :=
    ⟨by decide, by decide, by decide, by decide, ⟨_, rfl, by decide⟩, by decide, by decide,
      ⟨_, rfl, by decide⟩, by decide⟩
  obtain ⟨L, hL, -, -, -, hfirst, -, hcount, hslots, -⟩ :=
    ScanConfig.layout_fits_card (c := { layout := .amex }) fc
  have h15 : L.digitCount = 15 := by
    have h : (Except.ok 15 : Except Fault Nat) = .ok L.digitCount := hcount
    injection h with h
    exact h.symm
  exact ⟨fc, L, hL, hfirst, h15, fun s hs => (hslots s hs).1⟩

end CardOcr
