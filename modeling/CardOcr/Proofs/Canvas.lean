import CardOcr.Image.Gray
import CardOcr.Proofs.FrameBuffers

/-!
# Pixels of painted images

An image keeps its pixels row by row, pixel `(x, y)` of a `w`-wide image at `y · w + x`.  When
it holds one byte per pixel (`GrayImage.Sized`) the pixels inside it are separate bytes, and the
operations read pixel by pixel: a filled image has its shade everywhere (`get_filled`), a write
changes one pixel (`get_set`), and half a turn moves pixel `(x, y)` to
`(w - 1 - x, h - 1 - y)` (`get_rotate180`).

Drawing only ever writes one shade.  `GrayImage.Painted img img' P v` says that `img'` is `img`
with the pixels where `P` holds painted `v` and every other pixel kept.  Paintings in one
shade compose (`Painted.trans`), so a loop of writes paints the union of what its rounds paint
(`Painted.foldl`), whatever their order and however often a pixel is written; a loop whose
rounds may fault gives a result when each of its rounds does (`Painted.foldlM`).

## Key results

- `get_set`, `get_filled`, `get_rotate180`: the operations, pixel by pixel
- `Painted.trans`, `Painted.foldl`, `Painted.foldlM`: paintings in one shade compose
-/

namespace CardOcr

namespace GrayImage

/-- An image holds one byte per pixel. -/
def Sized (img : GrayImage) : Prop := img.pixels.size = img.width * img.height

/-! ## Row-major positions -/

/-- A pixel inside a `w × h` image stands before `w · h`. -/
theorem index_lt {w h X Y : Nat} (hX : X < w) (hY : Y < h) : Y * w + X < w * h := by
  have hrow : (Y + 1) * w ≤ h * w := Nat.mul_le_mul_right w hY
  rw [Nat.succ_mul, Nat.mul_comm h w] at hrow
  omega

/-- Two pixels of a `w`-wide image at one position are the same pixel. -/
theorem index_inj {w X Y X' Y' : Nat} (hX : X < w) (hX' : X' < w)
    (h : Y * w + X = Y' * w + X') : X = X' ∧ Y = Y' := by
  have hw : 0 < w := Nat.lt_of_le_of_lt (Nat.zero_le X) hX
  -- the column is the remainder by `w`, the row the quotient
  have hmod : ∀ {a b : Nat}, b < w → (a * w + b) % w = b := fun hb => by
    rw [Nat.add_comm, Nat.add_mul_mod_self_right, Nat.mod_eq_of_lt hb]
  have hdiv : ∀ {a b : Nat}, b < w → (a * w + b) / w = a := fun hb => by
    rw [Nat.add_comm, Nat.add_mul_div_right _ _ hw, Nat.div_eq_of_lt hb, Nat.zero_add]
  exact ⟨(hmod hX).symm.trans (h ▸ hmod hX'), (hdiv hX).symm.trans (h ▸ hdiv hX')⟩

/-- Half a turn of a `w × h` image sends position `y · w + x` to `(h - 1 - y) · w + (w - 1 - x)`,
    which counts the pixels from the other end. -/
theorem index_rotate {w h X Y : Nat} (hX : X < w) (hY : Y < h) :
    w * h - 1 - (Y * w + X) = (h - 1 - Y) * w + (w - 1 - X) := by
  obtain ⟨a, rfl⟩ := Nat.exists_eq_add_of_lt hY
  have hrows : w * (Y + a + 1) = Y * w + a * w + w := by
    rw [Nat.mul_add, Nat.mul_add, Nat.mul_one, Nat.mul_comm w Y, Nat.mul_comm w a]
  have ha : Y + a + 1 - 1 - Y = a := by omega
  rw [hrows, ha]
  omega

/-- Pixel `(x, y)` is byte `y · w + x`, zero past the end. -/
theorem get_eq (img : GrayImage) (X Y : Nat) :
    img.get X Y = (img.pixels.data[Y * img.width + X]?).getD 0 := by
  rw [get, get!_eq_getD, Array.getElem?_toList]

/-! ## Filling, writing and turning -/

theorem sized_filled (w h : Nat) (v : UInt8) : (filled w h v).Sized := by
  show (Array.replicate (w * h) v).size = w * h
  exact Array.size_replicate

/-- A filled image has its shade at every pixel. -/
theorem get_filled {w h X Y : Nat} (v : UInt8) (hX : X < w) (hY : Y < h) :
    (filled w h v).get X Y = v := by
  rw [get_eq]
  simp [filled, index_lt hX hY]

@[simp] theorem width_set (img : GrayImage) (x y : Nat) (v : UInt8) :
    (img.set x y v).width = img.width := by
  unfold set
  split <;> rfl

@[simp] theorem height_set (img : GrayImage) (x y : Nat) (v : UInt8) :
    (img.set x y v).height = img.height := by
  unfold set
  split <;> rfl

theorem size_set (img : GrayImage) (x y : Nat) (v : UInt8) :
    (img.set x y v).pixels.size = img.pixels.size := by
  unfold set
  split
  · exact ByteArray.size_set! _ _ _
  · rfl

/-- A write changes its own pixel, when it lies inside the image, and no other. -/
theorem get_set {img : GrayImage} (hs : img.Sized) (x y : Nat) (v : UInt8) {X Y : Nat}
    (hX : X < img.width) (hY : Y < img.height) :
    (img.set x y v).get X Y = if X = x ∧ Y = y then v else img.get X Y := by
  unfold set
  split
  · rename_i hin
    simp only [Bool.and_eq_true, decide_eq_true_eq] at hin
    have hlt : y * img.width + x < img.pixels.data.size := by
      have := index_lt hin.1 hin.2
      unfold Sized at hs
      rw [← hs] at this
      exact this
    rw [get_eq, get_eq]
    show ((img.pixels.data.setIfInBounds (y * img.width + x) v)[Y * img.width + X]?).getD 0 = _
    rw [Array.getElem?_setIfInBounds]
    by_cases hpix : X = x ∧ Y = y
    · obtain ⟨rfl, rfl⟩ := hpix
      have hlt' : Y * img.width + X < img.pixels.size := hlt
      simp [hlt']
    · have hne : y * img.width + x ≠ Y * img.width + X := fun heq =>
        hpix (by obtain ⟨h1, h2⟩ := index_inj hin.1 hX heq; exact ⟨h1.symm, h2.symm⟩)
      simp [hne, hpix]
  · -- a write outside the image is dropped, and no pixel inside it is that one
    rename_i hout
    have hpix : ¬(X = x ∧ Y = y) := by
      rintro ⟨rfl, rfl⟩
      simp [hX, hY] at hout
    rw [if_neg hpix]

/-- Half a turn moves pixel `(x, y)` of a `w × h` image to `(w - 1 - x, h - 1 - y)`. -/
theorem get_rotate180 {img : GrayImage} (hs : img.Sized) {X Y : Nat} (hX : X < img.width)
    (hY : Y < img.height) :
    img.rotate180.get X Y = img.get (img.width - 1 - X) (img.height - 1 - Y) := by
  have hlt : Y * img.width + X < img.pixels.data.size := by
    have := index_lt hX hY
    unfold Sized at hs
    rw [← hs] at this
    exact this
  rw [get_eq, get_eq]
  show (img.pixels.data.reverse[Y * img.width + X]?).getD 0 = _
  rw [Array.getElem?_reverse hlt]
  have hsize : img.pixels.data.size = img.width * img.height := hs
  rw [hsize, index_rotate hX hY]

/-! ## Paintings in one shade -/

/-- `img'` is `img` with the pixels where `P` holds painted `v`: the same size, those pixels of
    shade `v`, every other pixel kept. -/
structure Painted (img img' : GrayImage) (P : Nat → Nat → Prop) (v : UInt8) : Prop where
  width : img'.width = img.width
  height : img'.height = img.height
  size : img'.pixels.size = img.pixels.size
  painted : ∀ X Y, X < img.width → Y < img.height → P X Y → img'.get X Y = v
  kept : ∀ X Y, X < img.width → Y < img.height → ¬P X Y → img'.get X Y = img.get X Y

variable {img img₁ img₂ : GrayImage} {P Q : Nat → Nat → Prop} {v : UInt8}

/-- A painting keeps an image sized. -/
theorem Painted.sized (h : img.Painted img₁ P v) (hs : img.Sized) : img₁.Sized := by
  unfold Sized at hs ⊢
  rw [h.size, h.width, h.height, hs]

/-- Painting nothing. -/
theorem Painted.rfl : img.Painted img (fun _ _ => False) v :=
  ⟨Eq.refl _, Eq.refl _, Eq.refl _, fun _ _ _ _ h => h.elim, fun _ _ _ _ _ => Eq.refl _⟩

/-- A painting may be described by any condition that agrees inside the image. -/
theorem Painted.congr (h : img.Painted img₁ P v)
    (hPQ : ∀ X Y, X < img.width → Y < img.height → (P X Y ↔ Q X Y)) : img.Painted img₁ Q v :=
  ⟨h.width, h.height, h.size, fun X Y hX hY hQ => h.painted X Y hX hY ((hPQ X Y hX hY).2 hQ),
    fun X Y hX hY hQ => h.kept X Y hX hY fun hP => hQ ((hPQ X Y hX hY).1 hP)⟩

/-- Two paintings in one shade paint the pixels that either paints: a pixel the first paints
    is kept or painted again by the second, and has the shade either way. -/
theorem Painted.trans (h₁ : img.Painted img₁ P v) (h₂ : img₁.Painted img₂ Q v) :
    img.Painted img₂ (fun X Y => P X Y ∨ Q X Y) v := by
  refine ⟨h₂.width.trans h₁.width, h₂.height.trans h₁.height, h₂.size.trans h₁.size,
    fun X Y hX hY hPQ => ?_, fun X Y hX hY hPQ => ?_⟩
  · have hX₁ : X < img₁.width := h₁.width ▸ hX
    have hY₁ : Y < img₁.height := h₁.height ▸ hY
    by_cases hQ : Q X Y
    · exact h₂.painted X Y hX₁ hY₁ hQ
    · rw [h₂.kept X Y hX₁ hY₁ hQ]
      exact h₁.painted X Y hX hY (hPQ.resolve_right hQ)
  · rw [h₂.kept X Y (h₁.width ▸ hX) (h₁.height ▸ hY) fun hQ => hPQ (.inr hQ),
      h₁.kept X Y hX hY fun hP => hPQ (.inl hP)]

/-- A write paints its pixel; one outside the image paints nothing inside it. -/
theorem painted_set (hs : img.Sized) (x y : Nat) :
    img.Painted (img.set x y v) (fun X Y => X = x ∧ Y = y) v := by
  refine ⟨width_set img x y v, height_set img x y v, size_set img x y v,
    fun X Y hX hY hP => ?_, fun X Y hX hY hP => ?_⟩
  · rw [get_set hs x y v hX hY, if_pos hP]
  · rw [get_set hs x y v hX hY, if_neg hP]

/-- A loop whose every round paints in one shade paints what any round paints. -/
theorem Painted.foldl {α : Type} (step : GrayImage → α → GrayImage)
    (R : α → Nat → Nat → Prop)
    (hstep : ∀ (img : GrayImage) (a : α), img.Sized → img.Painted (step img a) (R a) v) :
    ∀ (l : List α) (img : GrayImage), img.Sized →
      img.Painted (l.foldl step img) (fun X Y => ∃ a ∈ l, R a X Y) v
  | [], img, _ =>
    Painted.rfl.congr fun _ _ _ _ => ⟨False.elim, fun ⟨_, ha, _⟩ => absurd ha List.not_mem_nil⟩
  | a :: l, img, hs => by
    have h₁ := hstep img a hs
    have h₂ := Painted.foldl step R hstep l (step img a) (h₁.sized hs)
    refine (h₁.trans h₂).congr fun X Y _ _ => ?_
    simp only [List.mem_cons, exists_eq_or_imp]

/-- A loop that may fault, whose every round over the list gives a result painting in one
    shade, gives a result and paints what any round paints. -/
theorem Painted.foldlM {α ε : Type} (step : GrayImage → α → Except ε GrayImage)
    (R : α → Nat → Nat → Prop) :
    ∀ (l : List α), (∀ a ∈ l, ∀ img : GrayImage, img.Sized →
        ∃ img', step img a = .ok img' ∧ img.Painted img' (R a) v) →
      ∀ img : GrayImage, img.Sized →
        ∃ img', l.foldlM step img = .ok img' ∧
          img.Painted img' (fun X Y => ∃ a ∈ l, R a X Y) v
  | [], _, img, _ =>
    ⟨img, Eq.refl _, Painted.rfl.congr fun _ _ _ _ =>
      ⟨False.elim, fun ⟨_, ha, _⟩ => absurd ha List.not_mem_nil⟩⟩
  | a :: l, hstep, img, hs => by
    obtain ⟨img₁, hrun₁, h₁⟩ := hstep a List.mem_cons_self img hs
    obtain ⟨img₂, hrun₂, h₂⟩ := Painted.foldlM step R l
      (fun b hb => hstep b (List.mem_cons_of_mem a hb)) img₁ (h₁.sized hs)
    refine ⟨img₂, ?_, (h₁.trans h₂).congr fun X Y _ _ => ?_⟩
    · rw [List.foldlM_cons, hrun₁]
      exact hrun₂
    · simp only [List.mem_cons, exists_eq_or_imp]

end GrayImage

end CardOcr
