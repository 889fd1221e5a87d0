import CardOcr.Config.Basic
import CardOcr.Detect.Candidate
import CardOcr.Fault

/-! # Glyph cells on the deskewed card

A `SlotLayout` is a row of glyph cells of one size: the left edge of every cell, which of
them hold digits, the top of the row, and the position of the slot's first digit in the
card number.  A `CardLayout` has one slot per group of the number line and one for the
expiry field `MM/YY`, whose middle cell is the separator.

The cell of the digit at position `p` of group `g` starts at
`numberLeft + p · glyphPitch + g · groupGap`; the five expiry cells at
`left + i · glyphPitch`.  These are 32-bit computations: an overflow is a fault
(`CardLayout.ofConfig`), and so is a group too long for its cells to be reserved.
-/

namespace CardOcr

/-- A width and a height in pixels. -/
structure Size where
  width : Nat
  height : Nat
  deriving Repr, BEq, DecidableEq, Inhabited

/-- A row of glyph cells. -/
structure SlotLayout where
  kind : CandidateKind
  /-- Left edge of every cell, separators included. -/
  cells : List Nat
  /-- Indices into `cells` of the cells that hold digits. -/
  digitCells : List Nat
  top : Nat
  glyphWidth : Nat
  glyphHeight : Nat
  /-- Position of the slot's first digit in the card number. -/
  firstPosition : Nat
  deriving Repr, Inhabited

namespace SlotLayout

/-- The box from the first cell's left edge to the last cell's right edge (from zero when the
    slot has no cells). -/
def nominalBox (s : SlotLayout) : Except Fault BoundingBox := do
  let left := s.cells.headD 0
  let right ← checkedAdd 32 (s.cells.getLastD 0) s.glyphWidth
  let width ← checkedSub right left
  return { x := left, y := s.top, width := width, height := s.glyphHeight }

def digitCount (s : SlotLayout) : Nat := s.digitCells.length

end SlotLayout

/-- Where the glyphs sit on the deskewed card. -/
structure CardLayout where
  canonical : Size
  numberSlots : List SlotLayout
  expirySlot : SlotLayout
  deriving Repr, Inhabited

/-- Left edge of the digit at `position` of group `group`, in 32-bit arithmetic. -/
def LayoutConfig.numberCell (l : LayoutConfig) (group position : Nat) : Except Fault Nat := do
  let a ← checkedMul 32 (position % Nat.pow 2 32) l.glyphPitch
  let b ← checkedAdd 32 l.numberLeft a
  let c ← checkedMul 32 (group % Nat.pow 2 32) l.groupGap
  checkedAdd 32 b c

/-- Left edge of digit `j` of the group `group` whose first digit is at `position`: the
    position `position + j` is a 64-bit word, then the cell is computed in 32 bits. -/
def LayoutConfig.groupCell (l : LayoutConfig) (group position j : Nat) : Except Fault Nat := do
  let p ← checkedAdd 64 position j
  l.numberCell group p

/-- A digit index at or past which `groupCell group position` is sure to fault, when there is
    one; every index before it is free of faults.  The position overflows 64 bits from
    `2 ^ 64 - position` on.  The cell is `left + q · pitch + c` with `q` the position modulo
    `2 ^ 32` and `c = (group mod 2 ^ 32) · gap`: it fits 32 bits exactly when `c` and
    `left + c` do and `q · pitch ≤ r` for `r = 2 ^ 32 - 1 - left - c`.  So every index faults
    when `left + c` does not fit; with a zero pitch none does; otherwise `q` may rise from
    `position mod 2 ^ 32` up to `r / pitch`, and the first index past that faults unless
    `r / pitch` is the largest 32-bit value, when `q` never passes it. -/
def LayoutConfig.firstFaultyCell (l : LayoutConfig) (group position : Nat) : Option Nat :=
  let word := Nat.pow 2 32
  let atPosition := Nat.pow 2 64 - position
  let c := (group % word) * l.groupGap
  let cell : Option Nat :=
    if word ≤ l.numberLeft + c then some 0
    else if l.glyphPitch = 0 then none
    else
      let qMax := (word - 1 - l.numberLeft - c) / l.glyphPitch
      let q0 := position % word
      if qMax < q0 then some 0
      else if qMax ≥ word - 1 then none
      else some (qMax + 1 - q0)
  match cell with
  | some j => some (min j atPosition)
  | none => some atPosition

/-- The left edges of the `len` digits of group `group` from position `position`, or the
    fault of the first digit that has one.  It equals
    `(List.range len).mapM (l.groupCell group position)`: when `firstFaultyCell` names an
    index inside the group, every digit before it is free of faults, so its fault is the
    first one and is found without computing the cells before it. -/
def LayoutConfig.groupCells (l : LayoutConfig) (group position len : Nat) :
    Except Fault (List Nat) :=
  let all := fun (_ : Unit) => (List.range len).mapM (l.groupCell group position)
  match l.firstFaultyCell group position with
  | some f =>
    if f < len then
      match l.groupCell group position f with
      | .error e => .error e
      | .ok _ => all ()
    else all ()
  | none => all ()

/-- The number slots of groups `sizes`, the first being group `group` and starting at digit
    position `position`.  Each slot reserves its cell edges (32-bit) and then its digit
    indices (64-bit) before the next position is counted in a 64-bit word. -/
def LayoutConfig.numberSlots (l : LayoutConfig) :
    List Nat → Nat → Nat → Except Fault (List SlotLayout)
  | [], _, _ => .ok []
  | len :: rest, group, position => do
    reserveCheck len 4
    let cells ← l.groupCells group position len
    reserveCheck len 8
    let next ← checkedAdd 64 position len
    let slot : SlotLayout :=
      { kind := .numberGroup group, cells := cells, digitCells := List.range len,
        top := l.numberTop, glyphWidth := l.glyphWidth, glyphHeight := l.glyphHeight,
        firstPosition := position }
    let slots ← l.numberSlots rest (group + 1) next
    return slot :: slots

/-- The expiry slot: five cells, the middle one the separator. -/
def ExpiryLayoutConfig.slot (e : ExpiryLayoutConfig) : Except Fault SlotLayout := do
  let cells ← (List.range 5).mapM fun i => do
    let step ← checkedMul 32 i e.glyphPitch
    checkedAdd 32 e.left step
  return { kind := .expiry, cells := cells, digitCells := [0, 1, 3, 4], top := e.top,
           glyphWidth := e.glyphWidth, glyphHeight := e.glyphHeight, firstPosition := 0 }

namespace CardLayout

/-- The layout of a configuration. -/
def ofConfig (c : ScanConfig) : Except Fault CardLayout := do
  let numberSlots ← c.layout.numberSlots c.layout.groups 0 0
  let expirySlot ← c.layout.expiry.slot
  return { canonical := ⟨c.canonical.width, c.canonical.height⟩, numberSlots := numberSlots,
           expirySlot := expirySlot }

/-- Number of digits of the card number. -/
def digitCount (l : CardLayout) : Nat := (l.numberSlots.map SlotLayout.digitCount).foldr (· + ·) 0

/-- The slot of a candidate kind. -/
def slot? (l : CardLayout) : CandidateKind → Option SlotLayout
  | .numberGroup g => l.numberSlots[g]?
  | .expiry => some l.expirySlot

end CardLayout

end CardOcr
