import CardOcr.Random.ChaCha

/-! # Uniform integers from a random stream

`ChaChaStream.uniformSmall lo hi` draws an integer of `[lo, hi]` for a range of at most
`2 ^ 16` values by widening multiplication: a 32-bit word `v` gives `lo + ⌊v · n / 2³²⌋`
for `n = hi - lo + 1`, unless the low half of `v · n` lies in the biased zone above
`2³² - 1 - (2³² mod n)`, in which case the word is discarded and another is drawn.
-/

namespace CardOcr

namespace ChaChaStream

/-- Draws rejected at most; one draw is rejected with probability below `2⁻¹⁶`. -/
def maxDraws : Nat := 4096

/-- A uniform integer of `[lo, hi]` (`lo ≤ hi`, at most `2 ^ 16` values). -/
def uniformSmall (g : ChaChaStream) (lo hi : Int) : Int × ChaChaStream :=
  let n : Nat := (hi - lo + 1).toNat
  let zone : Nat := (Nat.pow 2 32 - 1) - ((Nat.pow 2 32 - 1 - n + 1) % n)
  let rec draw : Nat → ChaChaStream → Int × ChaChaStream
    | 0, g => (lo, g)
    | fuel + 1, g =>
      let (v, g) := g.nextWord
      let prod := v.toNat * n
      if prod % Nat.pow 2 32 ≤ zone then (lo + (prod / Nat.pow 2 32 : Nat), g) else draw fuel g
  draw maxDraws g

end ChaChaStream

end CardOcr
