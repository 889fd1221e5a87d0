import CardOcr.Image.Gray
import CardOcr.Fault

/-! # The glyph font

Digits and the slash are drawn from 5 × 7 bitmaps that approximate the embossed card
typeface.  A glyph is scaled to any cell by nearest neighbour: pixel `(px, py)` of a
`w × h` cell shows bitmap pixel `(min (px · 5 / w) 4, min (py · 7 / h) 6)`
(`Glyph.isInk`), in 32-bit arithmetic.  Other characters have no ink.

A cell so large that some pixel's scaling overflows is a fault, and `Glyph.scaleOverflows`
tells so without going over the pixels before it.

`Glyph.template` is the zero-mean, unit-norm pattern of a digit at a cell size, which the
classifier correlates glyphs with (`normalize`).
-/

namespace CardOcr

namespace Glyph

/-- Rows of the bitmap of a character, if the font has it. -/
def bitmap? (c : Char) : Option (List String) :=
  match c with
  | '0' => some [".###.", "#...#", "#..##", "#.#.#", "##..#", "#...#", ".###."]
  | '1' => some ["..#..", ".##..", "..#..", "..#..", "..#..", "..#..", ".###."]
  | '2' => some [".###.", "#...#", "....#", "...#.", "..#..", ".#...", "#####"]
  | '3' => some ["#####", "...#.", "..#..", "...#.", "....#", "#...#", ".###."]
  | '4' => some ["...#.", "..##.", ".#.#.", "#..#.", "#####", "...#.", "...#."]
  | '5' => some ["#####", "#....", "####.", "....#", "....#", "#...#", ".###."]
  | '6' => some ["..##.", ".#...", "#....", "####.", "#...#", "#...#", ".###."]
  | '7' => some ["#####", "....#", "...#.", "..#..", ".#...", ".#...", ".#..."]
  | '8' => some [".###.", "#...#", "#...#", ".###.", "#...#", "#...#", ".###."]
  | '9' => some [".###.", "#...#", "#...#", ".####", "....#", "...#.", ".##.."]
  | '/' => some ["....#", "...#.", "...#.", "..#..", ".#...", ".#...", "#...."]
  | _ => none

/-- Bitmap pixel `(fx, fy)` of a character's rows. -/
def bitmapInk (rows : List String) (fx fy : Nat) : Bool :=
  match rows[fy]? with
  | some row => row.toList[fx]? == some '#'
  | none => false

/-- Whether pixel `(px, py)` of a `w × h` cell showing `c` is ink.  The scaling is 32-bit:
    a product beyond it overflows and a zero cell size divides by zero. -/
def isInk (c : Char) (px py w h : Nat) : Except Fault Bool :=
  match bitmap? c with
  | none => .ok false
  | some rows => do
    let sx ← checkedMul 32 px 5
    if w = 0 then throw .divByZero
    let sy ← checkedMul 32 py 7
    if h = 0 then throw .divByZero
    return bitmapInk rows (min (sx / w) 4) (min (sy / h) 6)

/-- Whether scaling some pixel of a `w × h` cell overflows 32 bits.  Column `858993460` is the
    first whose `px · 5` does not fit and row `613566757` the first whose `py · 7` does not;
    every pixel before the first of them in row-major order scales without a fault, so going
    over the cell with a character that has a bitmap faults exactly when this holds. -/
def scaleOverflows (w h : Nat) : Bool :=
  0 < w && 0 < h && (858993460 < w || 613566757 < h)

/-- The ink of the five bitmap columns in row `py` of an `h`-tall cell: pixel `px` of that
    row in a `w`-wide cell shows entry `px · 5 / w`, which is below five for `px < w`. -/
def rowPattern (rows : List String) (py h : Nat) : Array Bool :=
  (List.range 5).toArray.map fun k => bitmapInk rows k (min (py * 7 / h) 6)

/-- The rows of a `w × h` cell showing `c`, with `#` for ink and `.` for the rest.  A cell
    whose scaling overflows is a fault, found without visiting the pixels before it; in any
    other cell `isInk` succeeds at every pixel and reads its row's pattern. -/
def inkRows (c : Char) (w h : Nat) : Except Fault (List String) :=
  if (bitmap? c).isSome && scaleOverflows w h then .error .mulOverflow
  else
    let rows := (bitmap? c).getD []
    .ok ((List.range h).map fun py =>
      let pattern := rowPattern rows py h
      String.ofList ((List.range w).map fun px =>
        if pattern.getD (px * 5 / w) false then '#' else '.'))

/-- The first column whose `px · 5` does not fit in 32 bits. -/
def wideColumn : Nat := 858993460

/-- The first row whose `py · 7` does not fit in 32 bits. -/
def tallRow : Nat := 613566757

/-- The columns `[a, b)` of a `w`-wide cell that show bitmap column `k`: those with
    `px · 5 / w = k`, from `⌈k · w / 5⌉` up to `⌈(k + 1) · w / 5⌉`. -/
def columnRun (w k : Nat) : Nat × Nat := ((k * w + 4) / 5, ((k + 1) * w + 4) / 5)

/-- Whether a column in `[lo, hi)` of a `w`-wide cell row is ink, where `ink k` tells whether
    bitmap column `k` is. -/
def inkWithin (ink : Nat → Bool) (w lo hi : Nat) : Bool :=
  (List.range 5).any fun k => ink k && decide (max (columnRun w k).1 lo < min (columnRun w k).2 hi)

/-- The first fault of row `py` of a nonempty `w × h` cell at `(x, y)` in `img`, for a
    character with bitmap `rows`.  A row past `tallRow` faults at its first pixel.  Otherwise,
    before `wideColumn` the only faults are at ink pixels: the column `x + px` overflowing,
    or, for a pixel inside the image's width, the row `y + py` overflowing; both are additions,
    so only whether such a pixel exists matters.  Past them, column `wideColumn` overflows its
    scaling. -/
def rowFault (rows : List String) (img : GrayImage) (x y w h py : Nat) : Option Fault :=
  if Nat.pow 2 32 ≤ py * 7 then some .mulOverflow
  else
    let ink := fun k => bitmapInk rows k (min (py * 7 / h) 6)
    let safe := min w wideColumn
    let inside := min (Nat.pow 2 32) img.width - x
    if (decide (Nat.pow 2 32 ≤ y + py) && inkWithin ink w 0 (min safe inside)) ||
        inkWithin ink w (Nat.pow 2 32 - x) safe then
      some .addOverflow
    else if wideColumn < w then some .mulOverflow
    else none

/-- The rows of a `w × h` cell at height `y` where the outcome of a row can change: the first
    row of each bitmap row, the first whose `y + py` overflows and `tallRow`.  Between two of
    them every row has the same first fault, so the first faulty row of the cell is one of
    them. -/
def rowBreaks (y h : Nat) : List Nat :=
  0 :: (Nat.pow 2 32 - y) :: tallRow :: (List.range 6).map fun k => ((k + 1) * h + 6) / 7

/-- The fault of the first faulty row of a nonempty cell, if any. -/
def cellFault (rows : List String) (img : GrayImage) (x y w h : Nat) : Option Fault :=
  let found := (rowBreaks y h).foldl (fun best py =>
    if py < h then
      match rowFault rows img x y w h py, best with
      | some f, some (q, g) => if py < q then some (py, f) else some (q, g)
      | some f, none => some (py, f)
      | none, _ => best
    else best) none
  found.map Prod.snd

/-- Paints the ink of `c` in the `w × h` cell at `(x, y)` with shade `ink`; pixels outside
    the image are skipped.  Positions are 32-bit: an overflow is a fault.  The source goes over
    the cell pixel by pixel in row-major order and stops at its first fault; the scaled bitmap
    is constant on runs of rows and columns, so that fault is looked for in a few rows
    (`cellFault`), and only the pixels inside the image are visited. -/
def draw (img : GrayImage) (c : Char) (x y w h : Nat) (ink : UInt8) : Except Fault GrayImage :=
  match bitmap? c with
  | none => .ok img
  | some rows =>
    if w = 0 then .ok img
    else match cellFault rows img x y w h with
      | some f => .error f
      | none => Id.run do
        let mut out := img
        for py in [0:min h (img.height - y)] do
          let pattern := rowPattern rows py h
          for px in [0:min w (img.width - x)] do
            if pattern.getD (px * 5 / w) false then
              out := out.set (x + px) (y + py) ink
        return .ok out

/-- Sum of single precision numbers in order, from negative zero. -/
def sum32 (xs : Array Float32) : Float32 := xs.foldl (· + ·) (-0.0)

/-- Subtracts the mean and scales to unit length.  A flat pattern (length below `1e-6`
    after centring) becomes all zeros and is reported with `false`, as is an empty one. -/
def normalize (v : Array Float32) : Array Float32 × Bool :=
  if v.isEmpty then (v, false)
  else
    let mean := sum32 v / v.size.toUInt64.toFloat32
    let centred := v.map (· - mean)
    let norm := (sum32 (centred.map fun x => x * x)).sqrt
    if norm < 1e-6 then (centred.map fun _ => 0, false)
    else (centred.map (· / norm), true)

/-- Zero-mean, unit-norm pattern of a digit in a `w × h` cell, row-major. -/
def template (digit : Nat) (w h : Nat) : Except Fault (Array Float32) := do
  let c := Char.ofNat (48 + digit)
  if (bitmap? c).isSome && scaleOverflows w h then throw .mulOverflow
  let rows := (bitmap? c).getD []
  let mut v : Array Float32 := Array.mkEmpty (w * h)
  for py in [0:h] do
    let pattern := rowPattern rows py h
    for px in [0:w] do
      v := v.push (if pattern.getD (px * 5 / w) false then 1 else 0)
  return (normalize v).1

end Glyph

end CardOcr
