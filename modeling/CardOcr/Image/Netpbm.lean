import CardOcr.Image.Gray

/-! # Portable graymap and pixmap files

The binary Netpbm formats carry a picture as a short text header and the raw samples:
`P5` (graymap, one byte a pixel) or `P6` (pixmap, three bytes a pixel in red, green, blue
order), then width, height and the largest sample value, separated by blanks, with `#`
comments running to the end of a line, and one blank before the samples.

`GrayImage.ofNetpbm` reads such a file with byte samples (largest value at most 255) into
a grayscale picture; a pixmap is reduced to its luma with the Rec. 709 weights
`(2126 R + 7152 G + 722 B) / 10000`, rounded down.  `GrayImage.toGraymap` writes a picture
as a `P5` file.
-/

namespace CardOcr

namespace Netpbm

/-- Whether a byte is a header blank: space, tab, line feed, vertical tab, form feed or
    carriage return. -/
def isBlank (b : UInt8) : Bool :=
  b == 32 || (9 ≤ b && b ≤ 13)

/-- The position of the first byte at or after `pos` that is neither a blank nor inside a
    comment. -/
def skipBlanks (data : ByteArray) (pos : Nat) : Nat :=
  go (data.size - pos) pos false
where
  /-- Walks at most `fuel` bytes; `inComment` holds between a `#` and the end of its line. -/
  go : Nat → Nat → Bool → Nat
    | 0, p, _ => p
    | fuel + 1, p, inComment =>
      match data[p]? with
      | none => p
      | some b =>
        if inComment then go fuel (p + 1) (b != 10 && b != 13)
        else if b == 35 then go fuel (p + 1) true
        else if isBlank b then go fuel (p + 1) false
        else p

/-- The decimal number at `pos` and the position after it; none when no digit is there. -/
def readNumber (data : ByteArray) (pos : Nat) : Option (Nat × Nat) :=
  let rec go : Nat → Nat → Nat → Nat × Nat
    | 0, p, acc => (acc, p)
    | fuel + 1, p, acc =>
      match data[p]? with
      | some b => if 48 ≤ b && b ≤ 57 then go fuel (p + 1) (acc * 10 + (b - 48).toNat) else (acc, p)
      | none => (acc, p)
  let (n, stop) := go (data.size - pos) pos 0
  if stop = pos then none else some (n, stop)

/-- The three header numbers after the magic, and the position of the first sample. -/
def header (data : ByteArray) : Option (Nat × Nat × Nat × Nat) := do
  let (w, p) ← readNumber data (skipBlanks data 2)
  let (h, p) ← readNumber data (skipBlanks data p)
  let (maxval, p) ← readNumber data (skipBlanks data p)
  let b ← data[p]?
  if isBlank b then some (w, h, maxval, p + 1) else none

/-- Luma of a red, green, blue sample triple by the Rec. 709 weights, rounded down. -/
def luma (r g b : UInt8) : UInt8 :=
  ((2126 * r.toNat + 7152 * g.toNat + 722 * b.toNat) / 10000).toUInt8

end Netpbm

/-- Reads a binary graymap (`P5`) or pixmap (`P6`) with byte samples as a grayscale
    picture; the error says what is wrong with the file. -/
def GrayImage.ofNetpbm (data : ByteArray) : Except String GrayImage := do
  let magic : Option UInt8 × Option UInt8 := (data[0]?, data[1]?)
  let channels ←
    if magic == (some 80, some 53) then pure 1
    else if magic == (some 80, some 54) then pure 3
    else throw "not a binary graymap (P5) or pixmap (P6) file"
  let some (w, h, maxval, start) := Netpbm.header data
    | throw "malformed header"
  unless 0 < maxval && maxval ≤ 255 do throw "only byte samples are supported"
  unless start + w * h * channels ≤ data.size do throw "image data ends early"
  if channels = 1 then return ⟨w, h, data.extract start (start + w * h)⟩
  let pixel (out : ByteArray) (i : Nat) : ByteArray :=
    let p := start + 3 * i
    out.push (Netpbm.luma (data.get! p) (data.get! (p + 1)) (data.get! (p + 2)))
  let pixels := (List.range (w * h)).foldl pixel (ByteArray.emptyWithCapacity (w * h))
  return ⟨w, h, pixels⟩

/-- A picture as a binary graymap (`P5`) file with largest sample 255. -/
def GrayImage.toGraymap (img : GrayImage) : ByteArray :=
  let head := "P5\n" ++ toString img.width ++ " " ++ toString img.height ++ "\n255\n"
  head.toUTF8 ++ img.pixels.extract 0 (img.width * img.height)

end CardOcr
