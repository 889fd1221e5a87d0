import CardOcr.Image.Gray

/-! # Edge strength

`GrayImage.gradients` is the Sobel edge strength of every pixel: the two 3 × 3 Sobel
responses

```
  -1 0 1        -1 -2 -1
  -2 0 2         0  0  0
  -1 0 1         1  2  1
```

are correlated with the image, a neighbour outside the image taking the value of the
nearest edge pixel, and the strength is the integer part of the Euclidean length of the pair.
Each response is at most `4 · 255` in size, so the squared length stays below `2 ^ 24`.
In that range the single-precision square root is exact enough that its integer part is
`Nat.sqrt` of the squared length, which is how it is computed here.
-/

namespace CardOcr

/-- Edge strengths of an image, row-major. -/
structure GradientMap where
  width : Nat
  height : Nat
  values : Array Nat
  deriving Inhabited

namespace GradientMap

/-- The strength at `(x, y)`, zero outside the map. -/
@[inline] def get (g : GradientMap) (x y : Nat) : Nat :=
  g.values.getD (y * g.width + x) 0

end GradientMap

namespace GrayImage

/-- The two Sobel responses at `(x, y)`: to a change along `x` (the first kernel), and to a
    change along `y` (the second).  The neighbours' coordinates are moved into the image
    (`x - 1` stops at zero, `x + 1` at the last column). -/
@[inline] def sobelAt (img : GrayImage) (x y : Nat) : Int × Int :=
  let lastX := img.width - 1
  let lastY := img.height - 1
  let xs := (min (x - 1) lastX, min x lastX, min (x + 1) lastX)
  let ys := (min (y - 1) lastY, min y lastY, min (y + 1) lastY)
  let p (a b : Nat) : Int := (img.get a b).toNat
  let (x0, x1, x2) := xs
  let (y0, y1, y2) := ys
  ((p x2 y0 - p x0 y0) + 2 * (p x2 y1 - p x0 y1) + (p x2 y2 - p x0 y2),
   (p x0 y2 - p x0 y0) + 2 * (p x1 y2 - p x1 y0) + (p x2 y2 - p x2 y0))

/-- Sobel edge strength at `(x, y)`: the integer part of the length of the responses. -/
@[inline] def sobelStrength (img : GrayImage) (x y : Nat) : Nat :=
  let (h, v) := img.sobelAt x y
  (h * h + v * v).toNat.sqrt

/-- Strengths of pixels `i, i + 1, …` (`n` of them, row-major), appended to `out`. -/
def strengths (img : GrayImage) : Nat → Nat → Array Nat → Array Nat
  | 0, _, out => out
  | n + 1, i, out =>
    strengths img n (i + 1) (out.push (img.sobelStrength (i % img.width) (i / img.width)))

/-- Sobel edge strength of every pixel. -/
def gradients (img : GrayImage) : GradientMap :=
  let n := img.width * img.height
  ⟨img.width, img.height, img.strengths n 0 (Array.mkEmpty n)⟩

end GrayImage

end CardOcr
