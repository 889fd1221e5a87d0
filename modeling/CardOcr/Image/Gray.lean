/-! # Grayscale images

A `GrayImage` is a width, a height and its pixels, one byte each, row by row.  Pixels are
read with `GrayImage.get`, which gives zero outside the image, and written with
`GrayImage.set`, which ignores writes outside it.

`GrayImage.fnv` is the 64-bit FNV-1a hash of the pixel bytes (offset basis
`0xcbf29ce484222325`, prime `0x100000001b3`: each byte is xored in, then the hash is
multiplied with wrap-around), written as sixteen lowercase hex digits.
-/

namespace CardOcr

/-- A grayscale image, row-major, one byte per pixel. -/
structure GrayImage where
  width : Nat
  height : Nat
  pixels : ByteArray

namespace GrayImage

instance : Inhabited GrayImage := ⟨⟨0, 0, ByteArray.empty⟩⟩

/-- An image of one shade. -/
def filled (w h : Nat) (v : UInt8) : GrayImage :=
  ⟨w, h, ⟨Array.replicate (w * h) v⟩⟩

/-- An image whose pixel `(x, y)` is `f x y`. -/
def ofFn (w h : Nat) (f : Nat → Nat → UInt8) : GrayImage := Id.run do
  let mut out := ByteArray.emptyWithCapacity (w * h)
  for y in [0:h] do
    for x in [0:w] do
      out := out.push (f x y)
  return ⟨w, h, out⟩

/-- The pixel at `(x, y)`, zero outside the image. -/
@[inline] def get (img : GrayImage) (x y : Nat) : UInt8 :=
  img.pixels.get! (y * img.width + x)

/-- Sets the pixel at `(x, y)`; a write outside the image changes nothing. -/
@[inline] def set (img : GrayImage) (x y : Nat) (v : UInt8) : GrayImage :=
  if x < img.width && y < img.height then
    { img with pixels := img.pixels.set! (y * img.width + x) v }
  else img

/-- Paints the pixels `x .. x + w - 1` by `y .. y + h - 1` that lie inside the image. -/
def fillRect (img : GrayImage) (x y w h : Int) (v : UInt8) : GrayImage := Id.run do
  let x0 := (max x 0).toNat
  let y0 := (max y 0).toNat
  let x1 := (max (min (x + w) img.width) 0).toNat
  let y1 := (max (min (y + h) img.height) 0).toNat
  let mut out := img.pixels
  for yy in [y0:y1] do
    for xx in [x0:x1] do
      out := out.set! (yy * img.width + xx) v
  return { img with pixels := out }

/-- The image turned by half a turn: pixel `(x, y)` moves to `(w - 1 - x, h - 1 - y)`,
    which reverses the row-major pixel order. -/
def rotate180 (img : GrayImage) : GrayImage :=
  { img with pixels := ⟨img.pixels.data.reverse⟩ }

/-- Sum of the pixel values. -/
def sum (img : GrayImage) : Nat :=
  img.pixels.foldl (fun acc b => acc + b.toNat) 0

end GrayImage

/-- 64-bit FNV-1a hash of bytes. -/
def fnv1a (bs : ByteArray) : UInt64 :=
  bs.foldl (fun h b => (h ^^^ b.toUInt64) * 0x100000001b3) 0xcbf29ce484222325

/-- Lowercase hex digit of a value below sixteen. -/
def hexDigitChar (n : Nat) : Char :=
  if n < 10 then Char.ofNat (48 + n) else Char.ofNat (87 + n)

/-- `n` as `width` lowercase hex digits (its low bits). -/
def hexFixed (width n : Nat) : String :=
  String.ofList ((List.range width).reverse.map fun i => hexDigitChar (n / Nat.pow 16 i % 16))

/-- Bytes as lowercase hex, two digits each. -/
def hexOfBytes (bs : ByteArray) : String :=
  bs.foldl (fun s b => s.push (hexDigitChar (b.toNat / 16)) |>.push (hexDigitChar (b.toNat % 16))) ""

/-- Bytes of a hex text, two digits each (either case); none for an odd length or a
    character that is no hex digit. -/
def bytesOfHex (s : String) : Option ByteArray :=
  let digit (c : Char) : Option Nat :=
    if c.isDigit then some (c.toNat - 48)
    else if 'a' ≤ c && c ≤ 'f' then some (c.toNat - 87)
    else if 'A' ≤ c && c ≤ 'F' then some (c.toNat - 55)
    else none
  let rec go : List Char → ByteArray → Option ByteArray
    | [], acc => some acc
    | a :: b :: rest, acc => do
      let hi ← digit a
      let lo ← digit b
      go rest (acc.push (hi * 16 + lo).toUInt8)
    | [_], _ => none
  go s.toList ByteArray.empty

namespace GrayImage

/-- FNV-1a hash of the pixels as sixteen hex digits. -/
def fnv (img : GrayImage) : String := hexFixed 16 (fnv1a img.pixels).toNat

end GrayImage

end CardOcr
