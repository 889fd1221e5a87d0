import CardOcr.Fault

/-! # Votes and their histograms

Each frame casts one `Vote` per character position of the card: a digit value, a reject
(a glyph was seen but not recognised), or nothing (the glyph's slot was not found).  A
`Histogram` counts the value votes of one position by value, and the rejects apart.

The histogram keeps its counts as a list of `(value, count)` pairs in ascending value order,
each count positive.  Its view is `Histogram.count`: the number of value votes for a value.
The mode is the value of highest count, the smaller value on a tie, found by one pass in
ascending value order that keeps the incumbent unless a later count is strictly higher.

Counts, rejects and the total of the value votes are 32-bit words: recording the vote that
would bring a count or the rejects to `2³²` is an overflow fault (`record`, which checks the
counter and then `add`s the vote), and so is summing counts past `2³² - 1` (`total`, summed in
ascending value order).
-/

namespace CardOcr

/-- One frame's evidence for one position. -/
inductive Vote where
  | value (v : Nat)
  | reject
  /-- The slot holding this position was not detected. -/
  | absent
  deriving Repr, BEq, DecidableEq, Inhabited

/-- Value votes by value, and the number of rejects. -/
structure Histogram where
  counts : List (Nat × Nat) := []
  rejects : Nat := 0
  deriving Repr, BEq, Inhabited

namespace Histogram

/-- Adds one vote for `v` to counts kept in ascending value order. -/
def bump (v : Nat) : List (Nat × Nat) → List (Nat × Nat)
  | [] => [(v, 1)]
  | (k, n) :: rest =>
    if v < k then (v, 1) :: (k, n) :: rest
    else if v = k then (k, n + 1) :: rest
    else (k, n) :: bump v rest

/-- Counts a vote, in unbounded counters: a value vote adds to its value, a reject to the
    rejects, and an absent vote changes nothing. -/
def add (h : Histogram) : Vote → Histogram
  | .value v => { h with counts := bump v h.counts }
  | .reject => { h with rejects := h.rejects + 1 }
  | .absent => h

/-- Number of value votes for `v`. -/
def count (h : Histogram) (v : Nat) : Nat := (h.counts.lookup v).getD 0

/-- Counts a vote in 32-bit counters: the counter it bumps (its value's count, or the
    rejects) is incremented with an overflow check, then the vote is added. -/
def record (h : Histogram) : Vote → Except Fault Histogram
  | .value v => do
    let _ ← checkedAdd 32 (h.count v) 1
    return h.add (.value v)
  | .reject => do
    let _ ← checkedAdd 32 h.rejects 1
    return h.add .reject
  | .absent => return h

/-- Number of value votes, the counts summed in ascending value order in a 32-bit word. -/
def total (h : Histogram) : Except Fault Nat := (h.counts.map Prod.snd).foldlM (checkedAdd 32) 0

/-- One step of the mode search: keep the incumbent unless `n` beats its count. -/
def modeStep (best : Option (Nat × Nat)) (entry : Nat × Nat) : Option (Nat × Nat) :=
  match best with
  | some (_, m) => if m ≥ entry.2 then best else some entry
  | none => some entry

/-- The most frequent value, the smallest one on a tie; none without value votes. -/
def mode (h : Histogram) : Option Nat := (h.counts.foldl modeStep none).map Prod.fst

/-- A count as a single precision number. -/
def countToFloat32 (n : Nat) : Float32 := n.toUInt64.toFloat32

/-- Share of the value votes held by the mode, in single precision; zero without value
    votes. -/
def modeFraction (h : Histogram) : Except Fault Float32 := do
  let total ← h.total
  return match h.mode with
    | some v => if total > 0 then countToFloat32 (h.count v) / countToFloat32 total else 0
    | none => 0

end Histogram

end CardOcr
