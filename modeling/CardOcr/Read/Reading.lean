import CardOcr.Read.Histogram
import CardOcr.Detect.Candidate
import CardOcr.Fault

/-! # Frame readings and their accumulation

A `FrameReading` is what one frame contributes: a vote per digit position, a vote for the
expiry month and year, and the glyph group candidates it found.  A `VoteTally` gathers the
readings of a session: one histogram per digit position, one for the month and one for the
year, the number of frames, and the candidates of the most confident frame that found every
number group.

Sums of single precision confidences start from negative zero, the neutral element of
floating point addition.
-/

namespace CardOcr

/-- Sum of single precision numbers, in order, starting from negative zero. -/
def sumFloat32 (xs : List Float32) : Float32 := xs.foldl (· + ·) (-0.0)

/-- Everything one frame contributes to the tally. -/
structure FrameReading where
  digits : List Vote
  month : Vote := .absent
  year : Vote := .absent
  candidates : List DigitCandidate := []
  deriving Repr, Inhabited

namespace FrameReading

/-- A reading of `n` positions, all absent. -/
def empty (n : Nat) : FrameReading := { digits := List.replicate n .absent }

/-- `empty n` once its votes are reserved: a vote takes two bytes. -/
def create (n : Nat) : Except Fault FrameReading := do
  reserveCheck n 2
  return empty n

/-- The vote of a classified glyph: its digit, or a reject. -/
def labelVote : Option Nat → Vote
  | some d => .value d
  | none => .reject

/-- Sets the votes of positions `first`, `first + 1`, ... from the labels of a classified
    number group (positions beyond the reading are dropped), and keeps its candidate.  The
    positions are machine words, so a group whose last position `first + len - 1` does not
    fit in 64 bits is an overflow fault. -/
def addGroup (r : FrameReading) (first : Nat) (cand : DigitCandidate)
    (labels : List (Option Nat)) : Except Fault FrameReading :=
  if !labels.isEmpty && Nat.pow 2 64 ≤ first + (labels.length - 1) then .error .addOverflow
  else
    let digits := r.digits.mapIdx fun i v =>
      if first ≤ i then ((labels[i - first]?).map labelVote).getD v else v
    .ok { r with digits := digits, candidates := r.candidates ++ [cand] }

/-- `a · 10 + b` in bytes, or an overflow fault. -/
def twoDigits (a b : Nat) : Except Fault Nat := do
  let t ← checkedMul 8 a 10
  checkedAdd 8 t b

/-- Sets the month and year votes from the four labels of a classified `MM/YY` field: both
    are rejected unless all four glyphs were read and the month is within `1 .. 12`.  The
    candidate is kept. -/
def addExpiry (r : FrameReading) (cand : DigitCandidate) (labels : List (Option Nat)) :
    Except Fault FrameReading := do
  let (month, year) ← match labels with
    | [some m0, some m1, some y0, some y1] => do
      let m ← twoDigits m0 m1
      if 1 ≤ m && m ≤ 12 then
        let y ← twoDigits y0 y1
        pure (Vote.value m, Vote.value y)
      else pure (Vote.reject, Vote.reject)
    | _ => pure (Vote.reject, Vote.reject)
  return { r with month := month, year := year, candidates := r.candidates ++ [cand] }

/-- Number of number-group candidates. -/
def numberSlotsFound (r : FrameReading) : Nat :=
  (r.candidates.filter (·.kind.isNumberGroup)).length

/-- Sum of the candidates' confidences. -/
def score (r : FrameReading) : Float32 := sumFloat32 (r.candidates.map (·.confidence))

end FrameReading

/-- The votes of a session so far. -/
structure VoteTally where
  positions : List Histogram
  month : Histogram := {}
  year : Histogram := {}
  frames : Nat := 0
  numberSlots : Nat
  /-- Score and candidates of the best frame that found every number group. -/
  bestFrame : Option (Float32 × List DigitCandidate) := none
  deriving Repr, Inhabited

namespace VoteTally

/-- An empty tally for `d` digit positions and `s` number groups. -/
def empty (d s : Nat) : VoteTally := { positions := List.replicate d {}, numberSlots := s }

/-- `empty d s` once its histograms are reserved: a histogram takes 32 bytes. -/
def create (d s : Nat) : Except Fault VoteTally := do
  reserveCheck d 32
  return empty d s

/-- Records the votes of histograms and readings paired in order; the longer list's extra
    entries are left out.  The first histogram whose counter overflows faults. -/
def recordAll : List Histogram → List Vote → Except Fault (List Histogram)
  | h :: hs, v :: vs => do
    let h' ← h.record v
    let hs' ← recordAll hs vs
    return h' :: hs'
  | hs, [] => .ok hs
  | [], _ => .ok []

/-- The best frame after a reading: the reading's candidates when it found every number group
    with a higher score than the best so far (or is the first to). -/
def bestAfter (t : VoteTally) (r : FrameReading) : Option (Float32 × List DigitCandidate) :=
  if r.numberSlotsFound = t.numberSlots then
    let s := r.score
    match t.bestFrame with
    | some (b, _) => if s > b then some (s, r.candidates) else t.bestFrame
    | none => some (s, r.candidates)
  else t.bestFrame

/-- Adds a reading: its digit votes, month and year votes, one frame (a 64-bit count), and its
    candidates as the best frame when it beats the best so far. -/
def record (t : VoteTally) (r : FrameReading) : Except Fault VoteTally := do
  let positions ← recordAll t.positions r.digits
  let month ← t.month.record r.month
  let year ← t.year.record r.year
  let frames ← checkedAdd 64 t.frames 1
  return { t with positions, month, year, frames, bestFrame := t.bestAfter r }

def isEmpty (t : VoteTally) : Bool := t.frames == 0

def digitCount (t : VoteTally) : Nat := t.positions.length

end VoteTally

end CardOcr
