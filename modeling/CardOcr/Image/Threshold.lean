import CardOcr.Image.Gray

/-! # Otsu's threshold

`GrayImage.otsuLevel` splits the shades of an image into a dark class (at most the level)
and a light class (above it) so that the between-class variance
`w_b · w_f · (μ_b - μ_f)²` is largest.  The levels are tried from 0 up, levels below the
darkest shade are skipped and the search stops once the light class is empty; of equal
variances the lowest level wins, and an image of one shade gets level 0.  The sums of
shades are exact; the means and the variance are double-precision.
-/

namespace CardOcr

namespace GrayImage

/-- Number of pixels of each shade. -/
def shadeCounts (img : GrayImage) : Array Nat :=
  img.pixels.foldl (fun h b => h.modify b.toNat (· + 1)) (Array.replicate 256 0)

/-- The best threshold so far with its variance, and the weight and shade sum of the
    dark class, while the levels are tried in order. -/
structure OtsuScan where
  bestLevel : Nat := 0
  bestVariance : Float := 0
  darkWeight : Nat := 0
  darkSum : Nat := 0
  stopped : Bool := false

/-- Otsu's threshold of an image. -/
def otsuLevel (img : GrayImage) : UInt8 :=
  let counts := img.shadeCounts
  let total := img.width * img.height
  let totalSum := (List.range 256).foldl (fun s t => s + (t * counts[t]!).toFloat) 0
  let step (st : OtsuScan) (t : Nat) : OtsuScan :=
    if st.stopped then st
    else
      let c := counts[t]!
      let wb := st.darkWeight + c
      if wb = 0 then st
      else if total - wb = 0 then { st with darkWeight := wb, stopped := true }
      else
        let bs := st.darkSum + t * c
        let fs := totalSum - bs.toFloat
        let mb := bs.toFloat / wb.toFloat
        let mf := fs / (total - wb).toFloat
        let d := mb - mf
        let variance := wb.toFloat * (total - wb).toFloat * (d * d)
        let st := { st with darkWeight := wb, darkSum := bs }
        if variance > st.bestVariance then { st with bestLevel := t, bestVariance := variance }
        else st
  ((List.range 256).foldl step {}).bestLevel.toUInt8

end GrayImage

end CardOcr
