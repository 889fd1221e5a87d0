import Mathlib
import CardOcr.Proofs.Readings

/-!
# Reading strided frame buffers

A frame's buffer holds `height` rows, `stride` bytes apart.  The first `width · bpp` bytes of
a row are its pixels, the row's payload; a row may carry padding after them, and the buffer
may run on after the last row.  `Frame.new` checks that the stride holds a row and that the
buffer reaches the end of the last row's payload, so that every payload byte lies inside the
buffer (`Frame.PayloadInside`).

Both readers visit the payload rows in order and read nothing else.  Their results are
pictures laid out row by row (`rowMajor`), pixel `(x, y)` of a `w`-wide picture standing at
`y · w + x`: `toGray` packs the payload rows of a grayscale frame, and `intoLuma` turns each
pixel of a colour frame into its luma `(77 R + 150 G + 29 B) / 256` (`luma`).  The weights sum
to 256, so a luma always fits a byte and a grey keeps its shade.

## Key results

- `Frame.payloadInside_of_new`: every payload byte of a frame `new` accepts is in its buffer
- `Frame.toGray_of_luma8`: the packed image is the payload rows, one after another
- `Frame.intoLuma_of_colour`: the luma frame is the lumas of the pixels, row by row
- `Frame.new_readers`: what both readers make of every frame `new` accepts
-/

open Except

namespace CardOcr

/-! ## Rows laid end to end -/

section Rows

variable {α : Type} {w : Nat} (F : Nat → List α)

theorem length_flatMap_rows (hF : ∀ y, (F y).length = w) (h : Nat) :
    ((List.range' 0 h).flatMap F).length = h * w := by
  induction h with
  | zero => simp
  | succ h ih =>
    rw [List.range'_concat, List.flatMap_append, List.length_append, ih]
    simp [hF, Nat.succ_mul]

/-- In rows of one length `w` laid end to end, entry `x` of row `y` stands at `y · w + x`. -/
theorem getElem?_flatMap_rows (hF : ∀ y, (F y).length = w) {h y x : Nat} (hy : y < h)
    (hx : x < w) : ((List.range' 0 h).flatMap F)[y * w + x]? = (F y)[x]? := by
  induction h with
  | zero => omega
  | succ h ih =>
    rw [List.range'_concat, List.flatMap_append]
    by_cases hyh : y < h
    · -- the entry lies in the rows before the last
      have hle : (y + 1) * w ≤ h * w := Nat.mul_le_mul_right w hyh
      rw [Nat.succ_mul] at hle
      rw [List.getElem?_append_left (by rw [length_flatMap_rows F hF]; omega)]
      exact ih hyh
    · obtain rfl : y = h := by omega
      rw [List.getElem?_append_right (by rw [length_flatMap_rows F hF]; omega),
        length_flatMap_rows F hF]
      simp

end Rows

/-- The first `h · w` entries of a list are its rows of `w` entries, `w` apart. -/
theorem take_eq_flatMap_rows {α : Type} (l : List α) (w : Nat) :
    ∀ h, l.take (h * w) = (List.range' 0 h).flatMap fun y => (l.drop (y * w)).take w
  | 0 => by simp
  | h + 1 => by
    rw [Nat.succ_mul, List.take_add, take_eq_flatMap_rows l w h, List.range'_concat,
      List.flatMap_append]
    simp

/-- The pixels `g y x` of a `w × h` picture, row by row. -/
def rowMajor (w h : Nat) (g : Nat → Nat → UInt8) : List UInt8 :=
  (List.range' 0 h).flatMap fun y => (List.range' 0 w).map (g y)

section RowMajor

variable {w h : Nat} {g g' : Nat → Nat → UInt8}

theorem length_rowMajor : (rowMajor w h g).length = h * w :=
  length_flatMap_rows _ (fun _ => by simp) h

/-- Pixel `(x, y)` of the picture stands at `y · w + x`. -/
theorem getElem?_rowMajor {y x : Nat} (hy : y < h) (hx : x < w) :
    (rowMajor w h g)[y * w + x]? = some (g y x) := by
  rw [rowMajor, getElem?_flatMap_rows _ (fun _ => by simp) hy hx]
  simp [hx]

/-- A picture is made of its pixels inside it and nothing else. -/
theorem rowMajor_congr (hg : ∀ y < h, ∀ x < w, g y x = g' y x) :
    rowMajor w h g = rowMajor w h g' := by
  apply List.flatMap_congr
  intro y hy
  apply List.map_congr_left
  intro x hx
  rw [List.mem_range'_1] at hy hx
  exact hg y (by omega) x (by omega)

end RowMajor

/-! ## Bytes -/

/-- Byte `i` of a buffer is entry `i` of its list, zero past its end. -/
theorem get!_eq_getD (a : ByteArray) (i : Nat) : a.get! i = a.data.toList[i]?.getD 0 := by
  simp only [ByteArray.get!, getElem!_def, Array.getElem?_toList]
  cases a.data[i]? <;> rfl

/-- A buffer is the bytes of its list. -/
theorem eq_mk_of_toList {a : ByteArray} {l : List UInt8} (h : a.data.toList = l) : a = ⟨⟨l⟩⟩ := by
  cases a with
  | mk d =>
    cases d
    cases h
    rfl

/-- A run of `w` bytes from `start` that lies inside the buffer is read byte by byte. -/
theorem take_drop_eq_map (a : ByteArray) {start w : Nat} (hw : ∀ x < w, start + x < a.size) :
    (a.data.toList.drop start).take w = (List.range' 0 w).map fun x => a.get! (start + x) := by
  apply List.ext_getElem?
  intro x
  by_cases hx : x < w
  · have hin : start + x < a.data.size := hw x hx
    simp [hx, get!_eq_getD, Array.getElem?_eq_getElem hin]
  · simp [hx]

/-- Pushing the bytes of a list in order appends them. -/
theorem foldl_push_toList {β : Type} (l : List β) (g : β → UInt8) (out : ByteArray) :
    (l.foldl (fun out x => out.push (g x)) out).data.toList = out.data.toList ++ l.map g := by
  induction l generalizing out with
  | nil => simp
  | cons a l ih => simp [ih, ByteArray.data_push]

/-- A loop whose every round appends the bytes `F y` appends them all, in order. -/
theorem foldl_append_toList (step : ByteArray → Nat → ByteArray) (F : Nat → List UInt8)
    (hstep : ∀ out y, (step out y).data.toList = out.data.toList ++ F y) :
    ∀ (rows : List Nat) (out : ByteArray),
      (rows.foldl step out).data.toList = out.data.toList ++ rows.flatMap F
  | [], out => by simp
  | y :: rows, out => by
    rw [List.foldl_cons, foldl_append_toList step F hstep rows, hstep, List.flatMap_cons,
      List.append_assoc]

/-- Copying `w` bytes from `start` onto the end of a buffer appends them, as far as the
    source reaches. -/
theorem copySlice_end_toList (src out : ByteArray) (start w : Nat) :
    (src.copySlice start out out.size w).data.toList =
      out.data.toList ++ (src.data.toList.drop start).take w := by
  simp [ByteArray.copySlice, Array.toList_extract]

@[simp] theorem emptyWithCapacity_toList (n : Nat) :
    (ByteArray.emptyWithCapacity n).data.toList = [] := rfl

/-- Pixel `(x, y)` of a packed picture is byte `y · w + x` of its buffer. -/
theorem get!_rowMajor {w h : Nat} {g : Nat → Nat → UInt8} {y x : Nat} (hy : y < h) (hx : x < w) :
    (⟨⟨rowMajor w h g⟩⟩ : ByteArray).get! (y * w + x) = g y x := by
  rw [get!_eq_getD]
  exact congrArg (·.getD 0) (getElem?_rowMajor hy hx)

/-! ## Luma -/

/-- The luma of a colour, `(77 R + 150 G + 29 B) / 256` rounded down. -/
def luma (r g b : UInt8) : UInt8 :=
  ((77 * r.toNat + 150 * g.toNat + 29 * b.toNat) / 256).toUInt8

/-- The weights sum to 256, so the luma always fits a byte. -/
theorem luma_toNat (r g b : UInt8) :
    (luma r g b).toNat = (77 * r.toNat + 150 * g.toNat + 29 * b.toNat) / 256 := by
  have hr := r.toNat_lt
  have hg := g.toNat_lt
  have hb := b.toNat_lt
  simp only [luma, Nat.toUInt8_eq, UInt8.toNat_ofNat']
  omega

/-- A grey keeps its shade. -/
theorem luma_grey (v : UInt8) : luma v v v = v := by
  apply UInt8.toNat_inj.1
  rw [luma_toNat]
  omega

/-! ## Frames -/

namespace Frame

variable {w h stride seq : Nat} {fmt : PixelFormat} {data : ByteArray} {f : Frame}

/-- Byte `i` of the payload of row `y`. -/
def byteAt (f : Frame) (y i : Nat) : UInt8 := f.data.get! (y * f.stride + i)

/-- Every payload byte of the frame lies inside its buffer. -/
def PayloadInside (f : Frame) : Prop :=
  ∀ y < f.height, ∀ i < f.width * f.format.bytesPerPixel, y * f.stride + i < f.data.size

/-- The luma of pixel `x` of row `y`, from its channels at the format's offsets. -/
def pixelLuma (f : Frame) (y x : Nat) : UInt8 :=
  let c := PixelFormat.channels f.format
  let p := x * f.format.bytesPerPixel
  luma (f.byteAt y (p + c.1)) (f.byteAt y (p + c.2.1)) (f.byteAt y (p + c.2.2))

/-- A frame made by `new` is the buffer as given; its stride holds a row's payload and its
    buffer holds the payload of its last row. -/
theorem new_okIn (w h stride : Nat) (fmt : PixelFormat) (seq : Nat) (data : ByteArray) :
    (Frame.new w h stride fmt seq data).OkIn fun f =>
      f = ⟨w, h, stride, fmt, seq, data⟩ ∧ w * fmt.bytesPerPixel ≤ stride ∧
        (0 < h → stride * (h - 1) + w * fmt.bytesPerPixel ≤ data.size) := by
  -- the length asked of a buffer of rows is the end of its last row's payload
  have hreq : (Except.liftFault do
      let a ← checkedMul 64 stride (h - 1)
      checkedAdd 64 a (w * fmt.bytesPerPixel)).OkIn (· = stride * (h - 1) + w * fmt.bytesPerPixel) := by
    simp only [Except.liftFault, okIn_mapError, okIn_bind]
    intro a ha
    rw [FrameReading.checkedMul_okIn _ _ _ a ha]
    exact FrameReading.checkedAdd_okIn _ _ _
  unfold Frame.new
  simp
  refine ⟨fun _ hs => ⟨hs, by omega⟩, fun _ a ha hs hle => ⟨hs, fun _ => ?_⟩⟩
  rw [← hreq a ha]
  exact hle
/-- Every payload byte of a frame made by `new` lies inside its buffer. -/
theorem payloadInside_of_new (hf : Frame.new w h stride fmt seq data = .ok f) :
    f.PayloadInside := by
  obtain ⟨rfl, hs, hlast⟩ := new_okIn w h stride fmt seq data f hf
  intro y hy i hi
  dsimp only at hy hi ⊢
  -- a row before the last starts no later than the last one
  have hrow : y * stride ≤ stride * (h - 1) := by
    rw [Nat.mul_comm]
    exact Nat.mul_le_mul_left stride (by omega)
  have := hlast (by omega)
  omega

/-- Each colour channel lies inside its pixel. -/
theorem channels_lt (fmt : PixelFormat) :
    (PixelFormat.channels fmt).1 < fmt.bytesPerPixel ∧
      (PixelFormat.channels fmt).2.1 < fmt.bytesPerPixel ∧
      (PixelFormat.channels fmt).2.2 < fmt.bytesPerPixel := by
  cases fmt <;> decide

/-! ### Colour frames -/

/-- A grayscale frame needs no conversion. -/
theorem intoLuma_of_luma8 (hl : f.format = .luma8) : f.intoLuma = f := by
  unfold intoLuma
  rw [if_pos hl]

/-- A colour frame converts to the packed grayscale frame of its pixels' lumas. -/
theorem intoLuma_of_colour (hc : f.format ≠ .luma8) :
    f.intoLuma = ⟨f.width, f.height, f.width, .luma8, f.sequence,
      ⟨⟨rowMajor f.width f.height f.pixelLuma⟩⟩⟩ := by
  unfold intoLuma
  rw [if_neg hc]
  simp only [Std.Legacy.Range.forIn_eq_forIn_range', Std.Legacy.Range.size, Nat.sub_zero,
    Nat.add_sub_cancel, Nat.div_one, List.forIn_pure_yield_eq_foldl, pure_bind, Id.run_pure]
  congr 1
  apply eq_mk_of_toList
  -- each row pushes the lumas of its pixels
  rw [foldl_append_toList _ (fun y => (List.range' 0 f.width).map (f.pixelLuma y)), rowMajor]
  · simp
  · intro out y
    rw [foldl_push_toList]
    simp [pixelLuma, byteAt, luma, Nat.add_assoc]

/-- A pixel of an RGB frame is read red, green, blue. -/
theorem pixelLuma_of_rgb8 (hf : f.format = .rgb8) (y x : Nat) :
    f.pixelLuma y x = luma (f.byteAt y (x * 3)) (f.byteAt y (x * 3 + 1)) (f.byteAt y (x * 3 + 2)) := by
  simp [pixelLuma, hf, PixelFormat.channels, PixelFormat.bytesPerPixel]

/-- A pixel of a BGRA frame is read blue, green, red, and its alpha is not read. -/
theorem pixelLuma_of_bgra8 (hf : f.format = .bgra8) (y x : Nat) :
    f.pixelLuma y x = luma (f.byteAt y (x * 4 + 2)) (f.byteAt y (x * 4 + 1)) (f.byteAt y (x * 4)) := by
  simp [pixelLuma, hf, PixelFormat.channels, PixelFormat.bytesPerPixel]

/-- A pixel's luma reads only the payload of its row. -/
theorem pixelLuma_congr {f' : Frame} (hfmt : f'.format = f.format)
    {y : Nat} (hrow : ∀ i < f.width * f.format.bytesPerPixel, f'.byteAt y i = f.byteAt y i)
    {x : Nat} (hx : x < f.width) : f'.pixelLuma y x = f.pixelLuma y x := by
  obtain ⟨hr, hg, hb⟩ := channels_lt f.format
  -- every channel of pixel `x` lies before the end of the row's payload
  have hend : (x + 1) * f.format.bytesPerPixel ≤ f.width * f.format.bytesPerPixel :=
    Nat.mul_le_mul_right _ hx
  rw [Nat.succ_mul] at hend
  simp only [pixelLuma, hfmt]
  rw [hrow _ (by omega), hrow _ (by omega), hrow _ (by omega)]

/-! ### Grayscale frames -/

/-- A colour frame has no grayscale image. -/
theorem toGray_of_colour (hc : f.format ≠ .luma8) :
    f.toGray = .error (.unsupportedPixelFormat f.format) := by
  unfold toGray
  simp [hc, throw, throwThe, MonadExceptOf.throw, bind, Except.bind]

/-- A grayscale frame whose payload lies inside its buffer packs its payload rows into an
    image. -/
theorem toGray_of_luma8 (hl : f.format = .luma8) (hp : f.PayloadInside) :
    f.toGray = .ok ⟨f.width, f.height, ⟨⟨rowMajor f.width f.height f.byteAt⟩⟩⟩ := by
  -- the `w` bytes from each row's start are its payload
  have hrows : ((List.range' 0 f.height).flatMap fun y =>
      (f.data.data.toList.drop (y * f.stride)).take f.width) =
        rowMajor f.width f.height f.byteAt := by
    apply List.flatMap_congr
    intro y hy
    rw [List.mem_range'_1] at hy
    apply take_drop_eq_map
    intro x hx
    exact hp y (by omega) x (by simpa [hl, PixelFormat.bytesPerPixel] using hx)
  unfold toGray
  by_cases hs : f.stride = f.width
  · -- a packed buffer is cut after its last row
    simp only [hl, ne_eq, not_true_eq_false, ↓reduceIte, hs]
    refine congrArg (fun p => (.ok ⟨f.width, f.height, p⟩ : Except FrameError GrayImage))
      (eq_mk_of_toList ?_)
    rw [← hrows, hs, Nat.mul_comm f.width f.height, ← take_eq_flatMap_rows]
    simp [Array.toList_extract]
  · simp only [hl, ne_eq, not_true_eq_false, ↓reduceIte, hs, Std.Legacy.Range.forIn_eq_forIn_range',
      Std.Legacy.Range.size, Nat.sub_zero, Nat.add_sub_cancel, Nat.div_one,
      List.forIn_pure_yield_eq_foldl, pure_bind]
    -- each row copies its payload onto the end of the image
    refine congrArg (fun p => (.ok ⟨f.width, f.height, p⟩ : Except FrameError GrayImage))
      (eq_mk_of_toList ?_)
    rw [← hrows, foldl_append_toList (fun out y => f.data.copySlice (y * f.stride) out out.size f.width)
      _ fun out y => copySlice_end_toList _ _ _ _]
    simp

/-! ### Frames made by `new` -/

/-- What the two readers make of a frame `new` accepts, `bpp` bytes to a pixel.  Every
    payload byte, `i < w · bpp` bytes from the start `y · stride` of a row `y < h`, lies
    inside the buffer.  A grayscale frame converts to itself, and its image is its payload
    rows packed: `w × h` pixels, pixel `(x, y)` the byte at `y · stride + x`.  A colour frame
    has no image; it converts to a packed grayscale frame of its shape and sequence whose
    pixel `(x, y)` is the luma of the pixel's red, green and blue bytes, read in the order of
    its format.  Both results are made of the payload alone: another buffer of the same shape,
    with any stride, whose payload bytes agree gives the same ones.  A luma fits a byte, and
    a grey keeps its shade. -/
theorem new_readers (hf : Frame.new w h stride fmt seq data = .ok f) :
    (∀ y < h, ∀ i < w * fmt.bytesPerPixel, y * stride + i < data.size) ∧
    (fmt = .luma8 → f.intoLuma = f ∧
      ∃ img, f.toGray = .ok img ∧ img.width = w ∧ img.height = h ∧ img.pixels.size = w * h ∧
        ∀ y < h, ∀ x < w, img.get x y = data.get! (y * stride + x)) ∧
    (fmt ≠ .luma8 → f.toGray = .error (.unsupportedPixelFormat fmt) ∧
      f.intoLuma.width = w ∧ f.intoLuma.height = h ∧ f.intoLuma.stride = w ∧
      f.intoLuma.format = .luma8 ∧ f.intoLuma.sequence = seq ∧ f.intoLuma.data.size = w * h) ∧
    (fmt = .rgb8 → ∀ y < h, ∀ x < w, f.intoLuma.data.get! (y * w + x) =
      luma (data.get! (y * stride + x * 3)) (data.get! (y * stride + x * 3 + 1))
        (data.get! (y * stride + x * 3 + 2))) ∧
    (fmt = .bgra8 → ∀ y < h, ∀ x < w, f.intoLuma.data.get! (y * w + x) =
      luma (data.get! (y * stride + x * 4 + 2)) (data.get! (y * stride + x * 4 + 1))
        (data.get! (y * stride + x * 4))) ∧
    (∀ stride' data' f', Frame.new w h stride' fmt seq data' = .ok f' →
      (∀ y < h, ∀ i < w * fmt.bytesPerPixel,
        data'.get! (y * stride' + i) = data.get! (y * stride + i)) →
      f'.toGray = f.toGray ∧ (fmt ≠ .luma8 → f'.intoLuma = f.intoLuma)) ∧
    (∀ r g b, (luma r g b).toNat = (77 * r.toNat + 150 * g.toNat + 29 * b.toNat) / 256) ∧
    ∀ v, luma v v v = v := by
  have hp := payloadInside_of_new hf
  obtain ⟨rfl, -, -⟩ := new_okIn w h stride fmt seq data f hf
  refine ⟨hp, fun hl => ⟨intoLuma_of_luma8 hl, ?_⟩, fun hc => ⟨toGray_of_colour hc, ?_⟩,
    fun hrgb y hy x hx => ?_, fun hbgra y hy x hx => ?_, ?_, luma_toNat, luma_grey⟩
  case refine_1 =>
    refine ⟨_, toGray_of_luma8 hl hp, rfl, rfl, ?_, fun y hy x hx => get!_rowMajor hy hx⟩
    exact length_rowMajor.trans (Nat.mul_comm _ _)
  case refine_2 =>
    rw [intoLuma_of_colour hc]
    exact ⟨rfl, rfl, rfl, rfl, rfl, length_rowMajor.trans (Nat.mul_comm _ _)⟩
  case refine_3 =>
    rw [intoLuma_of_colour (by simp [hrgb]), get!_rowMajor hy hx, pixelLuma_of_rgb8 hrgb]
    rfl
  case refine_4 =>
    rw [intoLuma_of_colour (by simp [hbgra]), get!_rowMajor hy hx, pixelLuma_of_bgra8 hbgra]
    rfl
  case refine_5 =>
    intro stride' data' f' hf' hsame
    have hp' := payloadInside_of_new hf'
    obtain ⟨rfl, -, -⟩ := new_okIn w h stride' fmt seq data' f' hf'
    refine ⟨?_, fun hc => ?_⟩
    · by_cases hl : fmt = .luma8
      · -- the packed images are the same payload rows
        rw [toGray_of_luma8 hl hp, toGray_of_luma8 hl hp']
        refine congrArg (fun l => (.ok ⟨w, h, ⟨⟨l⟩⟩⟩ : Except FrameError GrayImage))
          (rowMajor_congr fun y hy x hx => hsame y hy x ?_)
        simpa [hl, PixelFormat.bytesPerPixel] using hx
      · rw [toGray_of_colour hl, toGray_of_colour hl]
    · rw [intoLuma_of_colour hc, intoLuma_of_colour hc]
      refine congrArg (fun l => (⟨w, h, w, .luma8, seq, ⟨⟨l⟩⟩⟩ : Frame))
        (rowMajor_congr fun y hy x hx => ?_)
      exact pixelLuma_congr (by rfl) (hsame y hy) hx

/-- The strided BGRA frame of a red and a white pixel, each row padded by four bytes,
    converts to the lumas 76 and 255. -/
theorem new_readers_strided_bgra :
    ∃ f, Frame.new 2 1 12 .bgra8 3 ⟨#[0, 0, 255, 255, 255, 255, 255, 255, 9, 9, 9, 9]⟩ = .ok f ∧
      f.intoLuma.data.get! 0 = 76 ∧ f.intoLuma.data.get! 1 = 255 := by
  obtain ⟨f, hf⟩ : ∃ f, Frame.new 2 1 12 .bgra8 3
      ⟨#[0, 0, 255, 255, 255, 255, 255, 255, 9, 9, 9, 9]⟩ = .ok f := ⟨_, rfl⟩
  have hpix := (new_readers hf).2.2.2.2.1 rfl
  exact ⟨f, hf, (hpix 0 (by decide) 0 (by decide)).trans (by decide),
    (hpix 0 (by decide) 1 (by decide)).trans (by decide)⟩

end Frame

end CardOcr
