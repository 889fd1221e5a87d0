import CardOcr.Read.Reading
import CardOcr.Config.Basic
import CardOcr.Card

/-! # Deciding when a read is complete

`VoteTally.assess policy t` decides whether the votes so far make a card read.  A histogram
is *settled* when it has at least one value vote, at least `minFrames` of them, and its
mode holds at least the `confidenceThreshold` share of them (`Histogram.settled`).

The read is ready when every digit position is settled, the month and year are settled if
the policy requires an expiry, some frame found every number group, and the string of
position modes passes the Luhn check if the policy requires it.  Otherwise the assessment
reports the share of required histograms that are settled.

A ready read takes the position modes as its number, the month and year modes when both are
settled (else zeros), and the cells, top and orientation of the best frame's number groups:
the cells of all groups in group order, the top and orientation of the most confident group
(the last of equally confident ones).
-/

namespace CardOcr

/-- The outcome of an assessment. -/
inductive Assessment where
  /-- Not ready; the share of required histograms already settled. -/
  | notYet (stability : Float32)
  | ready (card : CardInfo)
  deriving Repr, Inhabited

/-- Whether a histogram meets the policy.  Its total is summed first; the share of the mode is
    taken only when the total is positive and reaches the least number of frames. -/
def Histogram.settled (p : AggregatorConfig) (h : Histogram) : Except Fault Bool := do
  let total ← h.total
  if total > 0 && total ≥ p.minFrames then return (← h.modeFraction) ≥ p.confidenceThreshold
  else return false

/-- Whether two histograms both meet the policy; the second is judged only when the first
    does. -/
def Histogram.bothSettled (p : AggregatorConfig) (a b : Histogram) : Except Fault Bool := do
  if ← a.settled p then b.settled p else pure false

/-- Orders single precision numbers totally: negative NaNs, negative numbers, negative
    zero, positive zero, positive numbers, positive NaNs. -/
def Float32.totalKey (x : Float32) : Int :=
  let b := x.toBits.toNat
  if b < Nat.pow 2 31 then b else -((b - Nat.pow 2 31 : Nat) : Int) - 1

/-- The last element of greatest key. -/
def lastMaxBy {α : Type} (key : α → Int) : List α → Option α
  | [] => none
  | x :: xs =>
    some (xs.foldl (fun best y => if key y ≥ key best then y else best) x)

/-- The character of a digit value: `'0'` plus the value, a fault beyond a byte. -/
def digitChar (d : Nat) : Except Fault Char := do
  let c ← checkedAdd 8 48 d
  return Char.ofNat c

/-- Group index of a candidate kind, the expiry last. -/
def CandidateKind.groupIndex : CandidateKind → Nat
  | .numberGroup g => g
  | .expiry => Nat.pow 2 64 - 1

namespace VoteTally

/-- The card of a ready read: the number, the month and year modes when the expiry is settled
    (else zeros), and the cells of the best frame's number groups in group order, with the top
    and orientation of the most confident group, the last of equally confident ones. -/
def cardOf (t : VoteTally) (expiryOk : Bool) (numbers : String)
    (candidates : List DigitCandidate) : CardInfo :=
  let (month, year) := match expiryOk, t.month.mode, t.year.mode with
    | true, some m, some y => (m, y)
    | _, _, _ => (0, 0)
  let groups := (candidates.filter (·.kind.isNumberGroup)).mergeSort
    (fun a b => a.kind.groupIndex ≤ b.kind.groupIndex)
  let anchor := lastMaxBy (fun c => Float32.totalKey c.confidence) groups
  { numbers := numbers
    xOffsets := groups.flatMap (·.xOffsets)
    yOffset := (anchor.map (·.yOffset)).getD 0
    expiryMonth := month
    expiryYear := year
    isFlipped := (anchor.map (·.flipped)).getD false }

/-- Number of the month and year histograms that meet the policy when it requires an expiry,
    else zero. -/
def expiryMet (p : AggregatorConfig) (t : VoteTally) : Except Fault Nat :=
  if p.requireExpiry then do pure (← [t.month, t.year].filterM (·.settled p)).length else pure 0

/-- Assesses the votes so far against a policy.  The histograms are judged in the order of
    the source: the positions, the month, the year only when the month is settled, and both
    again when an expiry is required. -/
def assess (p : AggregatorConfig) (t : VoteTally) : Except Fault Assessment := do
  let digitsOk := (← t.positions.filterM (·.settled p)).length
  let expiryOk ← Histogram.bothSettled p t.month t.year
  let required := t.positions.length + (if p.requireExpiry then 2 else 0)
  let expiryMet ← t.expiryMet p
  let met := digitsOk + expiryMet
  let notYet := Assessment.notYet
    (if required = 0 then 0 else Histogram.countToFloat32 met / Histogram.countToFloat32 required)
  if digitsOk < t.positions.length || (p.requireExpiry && !expiryOk) then return notYet
  let some (_, candidates) := t.bestFrame | return notYet
  let chars ← (t.positions.filterMap Histogram.mode).mapM digitChar
  let numbers := String.ofList chars
  if p.requireLuhn then
    if !(← luhnValid numbers) then return notYet
  return .ready (t.cardOf expiryOk numbers candidates)

/-- Records a reading, then assesses. -/
def update (p : AggregatorConfig) (t : VoteTally) (r : FrameReading) :
    Except Fault (VoteTally × Assessment) := do
  let t ← t.record r
  let a ← t.assess p
  return (t, a)

end VoteTally

end CardOcr
