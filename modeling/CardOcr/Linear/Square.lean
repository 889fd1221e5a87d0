import CardOcr.Numeric.Dyadic

/-! # Square matrices of doubles

A `SquareMatrix` stores its entries column by column, so that entry `(i, j)` is at
`i + j · dim`.  The numerical routines of this library work on columns and on trailing
blocks below the diagonal, and their results depend on the exact order in which products are
summed; this file fixes the two orders they use:

* `dotBlocked` sums the products of two vectors in eight interleaved partial sums, combined
  pairwise (`0 + 4`, `1 + 5`, `2 + 6`, `3 + 7`), then adds the products left over after the
  last full block of eight one by one;
* `gramFused` forms `Aᵀ A` entry by entry as a chain of fused multiply-adds over the rows of
  `A`, starting from zero.
-/

namespace CardOcr

/-- A square matrix of doubles, column-major: entry `(i, j)` is `entries[i + j * dim]`. -/
structure SquareMatrix where
  dim : Nat
  entries : Array Float
  deriving Inhabited

namespace SquareMatrix

/-- Entry `(i, j)`; zero outside the matrix. -/
@[inline] def get (m : SquareMatrix) (i j : Nat) : Float :=
  m.entries.getD (i + j * m.dim) 0

/-- Replaces entry `(i, j)`. -/
@[inline] def set (m : SquareMatrix) (i j : Nat) (v : Float) : SquareMatrix :=
  { m with entries := m.entries.set! (i + j * m.dim) v }

/-- The matrix with entries `f i j`. -/
def ofFn (n : Nat) (f : Nat → Nat → Float) : SquareMatrix :=
  ⟨n, Id.run do
    let mut out := Array.mkEmpty (n * n)
    for j in [0:n] do
      for i in [0:n] do
        out := out.push (f i j)
    return out⟩

/-- The identity matrix. -/
def identity (n : Nat) : SquareMatrix := ofFn n fun i j => if i = j then 1.0 else 0.0

/-- Entries `(lo, j), (lo + 1, j), …` to the bottom of column `j`. -/
def columnFrom (m : SquareMatrix) (j lo : Nat) : Array Float :=
  (Array.range (m.dim - lo)).map fun k => m.get (lo + k) j

/-- Largest magnitude of an entry, scanning column by column from the first entry; a NaN
    after the first entry is passed over. -/
def maxMagnitude (m : SquareMatrix) : Float :=
  match m.entries.toList with
  | [] => 0.0
  | e :: rest => rest.foldl (fun a b => if b.abs > a then b.abs else a) e.abs

/-- Every entry divided by `d`. -/
def divBy (m : SquareMatrix) (d : Float) : SquareMatrix :=
  { m with entries := m.entries.map (· / d) }

end SquareMatrix

namespace Linear

/-- Sum of `xs[i] * ys[i]` over the common length: eight interleaved partial sums over the
    full blocks of eight, combined as `(s0 + s4) + (s1 + s5) + (s2 + s6) + (s3 + s7)` onto
    zero, then the remaining products added in order. -/
def dotBlocked (xs ys : Array Float) : Float := Id.run do
  let n := min xs.size ys.size
  let blocks := n / 8
  let mut acc : Array Float := Array.replicate 8 0.0
  for b in [0:blocks] do
    for r in [0:8] do
      let i := 8 * b + r
      acc := acc.set! r (acc[r]! + xs[i]! * ys[i]!)
  let mut res : Float := 0.0
  res := res + (acc[0]! + acc[4]!)
  res := res + (acc[1]! + acc[5]!)
  res := res + (acc[2]! + acc[6]!)
  res := res + (acc[3]! + acc[7]!)
  for i in [8 * blocks:n] do
    res := res + xs[i]! * ys[i]!
  return res

/-- `Aᵀ A` for `A` given by its rows, each of `n` entries: entry `(i, j)` is the chain
    `fma (A[r][i]) (A[r][j]) acc` over the rows in order, from zero. -/
def gramFused (n : Nat) (rows : List (Array Float)) : SquareMatrix :=
  SquareMatrix.ofFn n fun i j =>
    rows.foldl (fun acc row => Float.fusedMulAdd (row.getD i 0) (row.getD j 0) acc) 0.0

end Linear

end CardOcr
