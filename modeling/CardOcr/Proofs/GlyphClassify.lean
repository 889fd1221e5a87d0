import Mathlib
import CardOcr.Proofs.Detection
import CardOcr.Proofs.FloatOrder

/-!
# Reading one glyph

The classifier reads every glyph of a candidate (`readCandidate`, one `readGlyph` per offset):
it takes the glyph's patch at each pair of shifts, keeps each digit's best correlation, and
turns the ten scores into probabilities and a label (`ClassifierConfig.decide`).

The label is decided by `ClassifierConfig.labelOf`: the first digit of highest probability
(`firstArgmax`), when that probability reaches the confidence floor and exceeds the reject
probability.  The probabilities are floats and may be NaN, so "highest" is read as IEEE does:
no digit is more probable and every earlier digit is less probable (`IsFirstArgmax`).  With the
order laws of `Float32` the label is exactly that digit, when it is confident enough
(`ClassifierConfig.labelOf_eq_some_iff`).

A patch clamps its coordinates into the image, so a glyph's reading depends on the pixels inside
the image only (`readGlyph_congr`), and in an image with pixels it is read without a fault
(`readGlyph_ok`).  The templates of a cell are those rasterised for its size, which succeeds
when the cell's scaled coordinates fit 32 bits (`digitTemplates_ok`).

## Key results

- `ArgmaxSoFar.step`, `argmaxSoFar_firstArgmax`: the search's invariant, round by round
- `ClassifierConfig.labelOf_eq_some_iff`: the label is the first most probable, confident digit
- `readGlyph_ok`, `readGlyph_congr`: a glyph is read without a fault, from inside the image
- `GlyphReader.ofLayout_ok`: the reader of a layout whose cells scale within 32 bits is built
- `GlyphReader.read_classifies`: what the classifier gives for a candidate
-/

namespace CardOcr

open Except

/-! ## The first largest value -/

section Argmax

variable {f : Nat → Float32} {n k d : Nat}

/-- `d` is the first of `0 .. n - 1` where `f` is largest: no value is above `f d`, and every
    value before `d` is below it.  On numbers this is the first index of the maximum. -/
def IsFirstArgmax (f : Nat → Float32) (n d : Nat) : Prop :=
  d < n ∧ (∀ e < n, ¬f d < f e) ∧ ∀ e < d, ¬f d ≤ f e

/-- What the search holds after the indices below `k`: nothing seen is above its value, and it
    either has found nothing above negative infinity or holds an index seen, with that index's
    value, above negative infinity and above every value before it. -/
def ArgmaxSoFar (f : Nat → Float32) (k : Nat) (best : Nat × Float32) : Prop :=
  (∀ e < k, ¬best.2 < f e) ∧
    (best = (0, -(1.0 / 0.0)) ∨
      best.1 < k ∧ best.2 = f best.1 ∧ -(1.0 / 0.0) < best.2 ∧
        ∀ e < best.1, ¬best.2 ≤ f e)

/-- One round of the search keeps its invariant. -/
theorem ArgmaxSoFar.step {best : Nat × Float32} (h : ArgmaxSoFar f k best) :
    ArgmaxSoFar f (k + 1) (if f k > best.2 then (k, f k) else best) := by
  obtain ⟨hmax, hbest⟩ := h
  split
  · -- `f k` is above the incumbent, hence above whatever the incumbent was above
    rename_i hup
    have habove : -(1.0 / 0.0) < f k := by
      rcases hbest with rfl | ⟨-, -, hpos, -⟩
      · exact hup
      · exact Float32.lt_trans hpos hup
    refine ⟨fun e he hlt => ?_, .inr ⟨Nat.lt_succ_self k, rfl, habove, fun e he hle => ?_⟩⟩
    · rcases Nat.lt_succ_iff_lt_or_eq.1 he with he | rfl
      · exact hmax e he (Float32.lt_trans hup hlt)
      · exact Float32.lt_irrefl _ hlt
    · exact hmax e he (Float32.lt_of_lt_of_le hup hle)
  · rename_i hkeep
    refine ⟨fun e he => ?_, ?_⟩
    · rcases Nat.lt_succ_iff_lt_or_eq.1 he with he | rfl
      · exact hmax e he
      · exact hkeep
    · rcases hbest with hbest | ⟨hlt, hval, hpos, hfirst⟩
      · exact .inl hbest
      · exact .inr ⟨Nat.lt_succ_of_lt hlt, hval, hpos, hfirst⟩

/-- The search over `0 .. n - 1` ends with its invariant. -/
theorem argmaxSoFar_firstArgmax (f : Nat → Float32) (n : Nat) :
    ArgmaxSoFar f n (firstArgmax f n) := by
  induction n with
  | zero => exact ⟨fun e he => absurd he (Nat.not_lt_zero e), .inl rfl⟩
  | succ n ih =>
    rw [firstArgmax, List.range_succ, List.foldl_append, List.foldl_cons, List.foldl_nil]
    exact ih.step

/-- Two first largest values that are numbers are at the same index. -/
theorem IsFirstArgmax.unique {d' : Nat} (h : IsFirstArgmax f n d) (h' : IsFirstArgmax f n d')
    (hnum : Float32.IsNum (f d)) (hnum' : Float32.IsNum (f d')) : d = d' := by
  -- the earlier one would be below the later one, which is not above it
  rcases Nat.lt_trichotomy d d' with hlt | heq | hgt
  · exact absurd (Float32.le_of_not_lt hnum hnum' (h.2.1 d' h'.1)) (h'.2.2 d hlt)
  · exact heq
  · exact absurd (Float32.le_of_not_lt hnum' hnum (h'.2.1 d h.1)) (h.2.2 d' hgt)

end Argmax

/-! ## The label -/

namespace ClassifierConfig

/-- **The label rule.**  A glyph is labelled `d` exactly when `d` is the first digit of highest
    probability, that probability reaches the confidence floor, and it exceeds the reject
    probability. -/
theorem labelOf_eq_some_iff (cfg : ClassifierConfig) (probs : Array Float32) (d : Nat) :
    cfg.labelOf probs = some d ↔
      IsFirstArgmax (probs.getD · 0) GlyphReading.reject d ∧
        cfg.confidenceFloor ≤ probs.getD d 0 ∧
        probs.getD GlyphReading.reject 0 < probs.getD d 0 := by
  have hinv := argmaxSoFar_firstArgmax (probs.getD · 0) GlyphReading.reject
  rcases hbest : firstArgmax (probs.getD · 0) GlyphReading.reject with ⟨digit, p⟩
  rw [hbest] at hinv
  obtain ⟨hmax, hfound⟩ := hinv
  dsimp only at hmax hfound
  simp only [labelOf, hbest, Bool.and_eq_true, decide_eq_true_eq]
  rcases hfound with hnone | ⟨hlt, hval, hpos, hfirst⟩
  · -- nothing is above negative infinity, so no digit beats the reject class
    simp only [Prod.mk.injEq] at hnone
    obtain ⟨rfl, rfl⟩ := hnone
    rw [if_neg fun hconf => Float32.not_lt_negInf _ hconf.2]
    refine iff_of_false (fun h => by cases h) ?_
    rintro ⟨hd, -, hrej⟩
    have hnum := Float32.isNum_of_lt hrej
    exact hmax d hd.1 (Float32.lt_of_le_of_lt (Float32.negInf_le hnum.1) hrej)
  · -- the search holds the first largest digit, which is a number
    subst hval
    have hdigit : IsFirstArgmax (probs.getD · 0) GlyphReading.reject digit :=
      ⟨hlt, hmax, hfirst⟩
    have hnum : Float32.IsNum (probs.getD digit 0) := (Float32.isNum_of_lt hpos).2
    constructor
    · intro h
      split at h
      · rename_i hconf
        cases h
        exact ⟨hdigit, hconf.1, hconf.2⟩
      · cases h
    · rintro ⟨hd, hfloor, hrej⟩
      obtain rfl := hdigit.unique hd hnum (Float32.isNum_of_lt hrej).2
      rw [if_pos ⟨hfloor, hrej⟩]

/-- A reading has a probability for each score and one for the reject class. -/
theorem decide_probabilities_size (cfg : ClassifierConfig) (scores : Array Float32) :
    (cfg.decide scores).probabilities.size = scores.size + 1 := by
  simp [decide]

/-- A reading is labelled by the label rule on its probabilities. -/
theorem decide_label (cfg : ClassifierConfig) (scores : Array Float32) :
    (cfg.decide scores).label = cfg.labelOf (cfg.decide scores).probabilities := rfl

end ClassifierConfig

/-! ## Reading a glyph -/

section Patch

variable {img img' : GrayImage}

/-- A computation that fails goes no further. -/
theorem throw_bind_except {ε α β : Type} (e : ε) (k : α → Except ε β) :
    (throw e >>= k : Except ε β) = throw e := rfl

/-- A coordinate clamped into `[0, m]` lies below a size above `m`. -/
theorem clamp_toNat_lt {v m : Int} {size : Nat} (hm : 0 ≤ m) (hsize : m < size) :
    (max 0 (min v m)).toNat < size := by
  omega

/-- The pixels of a patch clamped into an image are read inside it. -/
theorem patchPixels_congr {x y maxX maxY : Int} {w : Nat} {darkInk : Bool}
    (hx : 0 ≤ maxX) (hxw : maxX < img.width) (hy : 0 ≤ maxY) (hyh : maxY < img.height)
    (hpix : ∀ px < img.width, ∀ py < img.height, img'.get px py = img.get px py)
    (n i : Nat) (out : Array Float32) :
    patchPixels img' x y maxX maxY w darkInk n i out =
      patchPixels img x y maxX maxY w darkInk n i out := by
  induction n generalizing i out with
  | zero => rfl
  | succ n ih =>
    simp only [patchPixels]
    rw [hpix _ (clamp_toNat_lt hx hxw) _ (clamp_toNat_lt hy hyh), ih]

/-- A glyph's patch depends only on the pixels inside the image. -/
theorem glyphPatch_congr (hw : img'.width = img.width) (hh : img'.height = img.height)
    (hpix : ∀ px < img.width, ∀ py < img.height, img'.get px py = img.get px py)
    (x y : Int) (w h : Nat) (darkInk : Bool) :
    glyphPatch img' x y w h darkInk = glyphPatch img x y w h darkInk := by
  unfold glyphPatch
  rw [hw, hh]
  dsimp only
  by_cases hn : w * h = 0
  · -- an empty patch reads nothing
    rw [hn]
    rfl
  by_cases hsize : 0 < img.width ∧ 0 < img.height
  · rw [patchPixels_congr (by omega) (by omega) (by omega) (by omega) hpix]
  -- an image without pixels fails before any read
  have hpos : 0 < w * h := Nat.pos_of_ne_zero hn
  by_cases hx : (img.width : Int) - 1 < 0
  · have hfail : (decide (w * h > 0) && decide ((img.width : Int) - 1 < 0)) = true := by
      simp [hpos, hx]
    rw [if_pos hfail, if_pos hfail, throw_bind_except, throw_bind_except]
  · have hpass : ¬(decide (w * h > 0) && decide ((img.width : Int) - 1 < 0)) = true := by
      simp [hx]
    have hfail : (decide (w * h > 0) && decide ((img.height : Int) - 1 < 0)) = true := by
      simp only [Bool.and_eq_true, decide_eq_true_eq]
      omega
    rw [if_neg hpass, if_neg hpass, if_pos hfail, if_pos hfail, throw_bind_except,
      throw_bind_except]

/-- In an image with pixels every patch is taken without a fault. -/
theorem glyphPatch_ok (hw : 0 < img.width) (hh : 0 < img.height) (x y : Int) (w h : Nat)
    (darkInk : Bool) : ∃ p, glyphPatch img x y w h darkInk = .ok p := by
  have hx : ¬(img.width : Int) - 1 < 0 := by omega
  have hy : ¬(img.height : Int) - 1 < 0 := by omega
  simp only [glyphPatch, hx, hy, decide_false, Bool.and_false, Bool.false_eq_true, if_false]
  exact ⟨_, rfl⟩

end Patch

section Glyph

variable {cfg : ClassifierConfig} {templates : Array (Array Float32)} {img img' : GrayImage}
  {c : DigitCandidate}

/-- A glyph's reading depends only on the pixels inside the image. -/
theorem readGlyph_congr (hw : img'.width = img.width) (hh : img'.height = img.height)
    (hpix : ∀ px < img.width, ∀ py < img.height, img'.get px py = img.get px py) (x : Nat) :
    readGlyph cfg templates img' c x = readGlyph cfg templates img c x := by
  unfold readGlyph
  simp only [glyphPatch_congr hw hh hpix]

/-- In an image with pixels a glyph is read without a fault, from ten scores when there are ten
    templates. -/
theorem readGlyph_ok (hw : 0 < img.width) (hh : 0 < img.height) (hsize : templates.size = 10)
    (x : Nat) : ∃ scores, readGlyph cfg templates img c x = .ok (cfg.decide scores) ∧
      scores.size = 10 := by
  unfold readGlyph
  dsimp only
  -- both shift loops keep ten scores
  apply exists_bind_pure_ok
  apply forIn_ok_of_step
  · intro best hbest dy _
    apply exists_bind_pure_ok
    apply forIn_ok_of_step
    · intro best' hbest' dx _
      obtain ⟨p, hp⟩ := glyphPatch_ok hw hh (x + dx) (c.yOffset + dy) c.glyphWidth c.glyphHeight
        c.darkInk
      rw [hp]
      cases p with
      | none => exact ⟨best', rfl, hbest'⟩
      | some patch => exact ⟨_, rfl, by simp [hbest', hsize]⟩
    · exact hbest
  · simp

/-- A candidate's reading depends only on the pixels inside the image. -/
theorem readCandidate_congr (hw : img'.width = img.width) (hh : img'.height = img.height)
    (hpix : ∀ px < img.width, ∀ py < img.height, img'.get px py = img.get px py) :
    readCandidate cfg templates img' c = readCandidate cfg templates img c := by
  unfold readCandidate
  rw [funext (readGlyph_congr hw hh hpix)]

/-- A candidate's glyphs are read in order, one per offset, each where its offset says. -/
theorem readCandidate_eq_ok_iff {gs : List GlyphReading} :
    readCandidate cfg templates img c = .ok gs ↔
      List.Forall₂ (fun x g => readGlyph cfg templates img c x = .ok g) c.xOffsets gs :=
  mapM_eq_ok_iff

end Glyph

/-! ## The templates -/

/-- A digit's template is rasterised when the cell's scaled coordinates fit 32 bits. -/
theorem template_ok {w h : Nat} (hw : w * 5 < 2 ^ 32) (hh : h * 7 < 2 ^ 32) (d : Nat) :
    ∃ t, Glyph.template d w h = .ok t := by
  have hfit : Glyph.scaleOverflows w h = false := by
    simp only [Glyph.scaleOverflows, Bool.and_eq_false_imp, Bool.or_eq_false_iff,
      decide_eq_false_iff_not, Nat.not_lt]
    omega
  simp [Glyph.template, hfit, Std.Legacy.Range.forIn_eq_forIn_range',
    List.forIn_pure_yield_eq_foldl]
  exact ⟨_, rfl⟩

/-- The ten templates of a cell are rasterised when its scaled coordinates fit 32 bits. -/
theorem digitTemplates_ok {w h : Nat} (hw : w * 5 < 2 ^ 32) (hh : h * 7 < 2 ^ 32) :
    ∃ templates, digitTemplates w h = .ok templates ∧ templates.size = 10 := by
  unfold digitTemplates
  rw [Array.mapM_eq_mapM_toList, Array.toList_range]
  obtain ⟨ts, hts⟩ := mapM_ok_of_forall fun d (_ : d ∈ List.range 10) => template_ok hw hh d
  refine ⟨ts.toArray, by rw [hts]; rfl, ?_⟩
  have hlen := (mapM_eq_ok_iff.1 hts).length_eq
  simpa using hlen.symm

/-! ## The reader of a layout -/

namespace GlyphReader

/-- The templates a reader keeps are those rasterised for their cell sizes. -/
def Rasterised (r : GlyphReader) : Prop :=
  ∀ w h t, ((w, h), t) ∈ r.templates → digitTemplates w h = .ok t

/-- The reader of a layout has the classifier's settings and keeps rasterised templates. -/
theorem ofLayout_okIn (l : CardLayout) (cfg : ClassifierConfig) :
    (ofLayout l cfg).OkIn fun r => r.config = cfg ∧ r.Rasterised := by
  unfold ofLayout
  apply okIn_foldlM
    (I := fun (_ : List SlotLayout) (r : GlyphReader) => r.config = cfg ∧ r.Rasterised)
  · rintro - s r ⟨hcfg, hras⟩
    -- a slot adds the templates of its cell size, unless the reader has them
    simp only [okIn_bind, okIn_pure, okIn_ite]
    refine ⟨fun _ => ⟨hcfg, hras⟩, fun _ t ht => ⟨hcfg, fun w h t' hmem => ?_⟩⟩
    rcases List.mem_append.1 hmem with hmem | hmem
    · exact hras w h t' hmem
    · simp only [List.mem_singleton, Prod.mk.injEq] at hmem
      obtain ⟨⟨rfl, rfl⟩, rfl⟩ := hmem
      exact ht
  · exact ⟨rfl, fun w h t ht => by cases ht⟩

/-- The reader of a layout is built without a fault when the cell of every slot, number slots
    and expiry slot alike, scales within 32 bits. -/
theorem ofLayout_ok (l : CardLayout) (cfg : ClassifierConfig)
    (hcells : ∀ s ∈ l.numberSlots ++ [l.expirySlot],
      s.glyphWidth * 5 < 2 ^ 32 ∧ s.glyphHeight * 7 < 2 ^ 32) :
    ∃ r, ofLayout l cfg = .ok r := by
  unfold ofLayout
  refine (foldlM_ok_of_step (I := fun _ => True) _ _ ?_ trivial).elim fun r h => ⟨r, h.1⟩
  intro r _ s hs
  -- a slot finds the templates of its cell size, or rasterises them
  obtain ⟨t, ht, -⟩ := digitTemplates_ok (hcells s hs).1 (hcells s hs).2
  by_cases hlk : (r.templates.lookup (s.glyphWidth, s.glyphHeight)).isSome
  · exact ⟨r, by simp [hlk]; rfl, trivial⟩
  · exact ⟨{ r with templates := r.templates ++ [((s.glyphWidth, s.glyphHeight), t)] },
      by simp [hlk, ht], trivial⟩

/-- A reader with rasterised templates reads a cell with the templates of its size. -/
theorem Rasterised.templatesFor {r : GlyphReader} (hr : r.Rasterised) (w h : Nat) :
    r.templatesFor w h = digitTemplates w h := by
  unfold GlyphReader.templatesFor
  split
  · rename_i t ht
    obtain ⟨pre, post, hsplit, -⟩ := List.lookup_eq_some_iff.1 ht
    exact (hr w h t (by rw [hsplit]; simp)).symm
  · rfl

/-- **Reading the glyphs of a candidate.**  The reader of a layout reads the glyphs of every
    candidate whose cell can be rasterised, in every image with pixels: without a fault, one
    reading per offset and in their order, from the pixels inside the image only.  Each reading
    has a probability for every digit and the reject class, and is labelled with a digit exactly
    when that digit is the first most probable one, reaches the confidence floor and is more
    probable than the reject class. -/
theorem read_classifies (l : CardLayout) (cfg : ClassifierConfig) (r : GlyphReader)
    (hr : ofLayout l cfg = .ok r) (img : GrayImage) (hw : 0 < img.width) (hh : 0 < img.height)
    (c : DigitCandidate) (hcell : c.glyphWidth * 5 < 2 ^ 32 ∧ c.glyphHeight * 7 < 2 ^ 32) :
    ∃ templates gs, digitTemplates c.glyphWidth c.glyphHeight = .ok templates ∧
      r.read img c = .ok gs ∧
      List.Forall₂ (fun x g => readGlyph cfg templates img c x = .ok g) c.xOffsets gs ∧
      (∀ img' : GrayImage, img'.width = img.width → img'.height = img.height →
        (∀ x < img.width, ∀ y < img.height, img'.get x y = img.get x y) →
          r.read img' c = .ok gs) ∧
      ∀ g ∈ gs, g.probabilities.size = 11 ∧ ∀ d, g.label = some d ↔
        IsFirstArgmax (g.probabilities.getD · 0) GlyphReading.reject d ∧
          cfg.confidenceFloor ≤ g.probabilities.getD d 0 ∧
          g.probabilities.getD GlyphReading.reject 0 < g.probabilities.getD d 0 := by
  obtain ⟨hcfg, hras⟩ := ofLayout_okIn l cfg r hr
  obtain ⟨templates, htemplates, hsize⟩ := digitTemplates_ok hcell.1 hcell.2
  -- the reader reads with the rasterised templates of the candidate's cell
  have hread : ∀ img' : GrayImage, r.read img' c = readCandidate cfg templates img' c := by
    intro img'
    rw [read, hras.templatesFor, htemplates, hcfg]
    rfl
  have hglyph : ∀ x, ∃ scores, readGlyph cfg templates img c x = .ok (cfg.decide scores) ∧
      scores.size = 10 :=
    readGlyph_ok hw hh hsize
  obtain ⟨gs, hgs⟩ : ∃ gs, readCandidate cfg templates img c = .ok gs := by
    refine mapM_ok_of_forall fun x _ => ?_
    obtain ⟨scores, hs, -⟩ := hglyph x
    exact ⟨_, hs⟩
  have hpairs := readCandidate_eq_ok_iff.1 hgs
  refine ⟨templates, gs, htemplates, (hread img).trans hgs, hpairs, ?_, ?_⟩
  · intro img' hw' hh' hpix
    rw [hread, readCandidate_congr hw' hh' hpix, hgs]
  · -- every reading is the decision on ten scores
    intro g hg
    obtain ⟨x, -, hx⟩ := exists_mem_of_forall₂ hpairs hg
    obtain ⟨scores, hs, hscores⟩ := hglyph x
    rw [hs] at hx
    cases hx
    refine ⟨by rw [ClassifierConfig.decide_probabilities_size, hscores], fun d => ?_⟩
    rw [ClassifierConfig.decide_label]
    exact ClassifierConfig.labelOf_eq_some_iff cfg _ d

/-- The reader of a layout with a group of four digits in `19 × 27` cells reads a candidate
    for that group on a blank card, one reading per digit. -/
theorem read_classifies_number_group :
    ∃ r gs, ofLayout ⟨⟨428, 270⟩, [⟨.numberGroup 0, [25, 46, 67, 88], [0, 1, 2, 3], 140, 19, 27, 0⟩],
        ⟨.expiry, [200, 216, 232, 248, 264], [0, 1, 3, 4], 190, 14, 21, 0⟩⟩ {} = .ok r ∧
      r.read (GrayImage.filled 428 270 255)
        { xOffsets := [25, 46, 67, 88], yOffset := 140 } = .ok gs ∧ gs.length = 4 := by
  obtain ⟨r, hr⟩ := ofLayout_ok ⟨⟨428, 270⟩,
    [⟨.numberGroup 0, [25, 46, 67, 88], [0, 1, 2, 3], 140, 19, 27, 0⟩],
    ⟨.expiry, [200, 216, 232, 248, 264], [0, 1, 3, 4], 190, 14, 21, 0⟩⟩ {} (by decide)
  obtain ⟨_, gs, -, hgs, hpairs, -⟩ := read_classifies _ {} r hr (GrayImage.filled 428 270 255)
    (by decide) (by decide) { xOffsets := [25, 46, 67, 88], yOffset := 140 } (by decide)
  exact ⟨r, gs, hr, hgs, hpairs.length_eq.symm⟩

end GlyphReader

end CardOcr
