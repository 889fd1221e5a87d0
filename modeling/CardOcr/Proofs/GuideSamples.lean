import Mathlib
import CardOcr.Locator.Guided
import CardOcr.Proofs.Detection

/-!
# Where the guided locator reads

The guided locator samples each side of the guide on lines across it
(`GuideLocator.edgePoints`): at the positions `first, first + step, …` up to `last` along the
side, it reads the Sobel response at every position `lo .. hi` across the side, then at the two
neighbours of the strongest one (`GuideLocator.samplePoint`).  A response is read at a pixel of
the image, and a read outside it is a fault (`GuideLocator.response_ok_iff`).

When the image is at least three pixels across the side, the band is cut to end at
`acrossMax - 2`, so a position of the band and both its neighbours are inside; the positions
along the side are cut to end at `alongMax - 1`.  That cut stops at zero when the image has no
pixel along the side, and the position zero is then still read: an image of width zero and
height at least three is read outside on its top side.  Every other image is read inside only
(`GuideLocator.edgePoints_ok`), so the search ends with four corners, or with a side or a corner
that is not found (`GuideLocator.locate_ok_or_not_found`).

## Key results

- `GuideLocator.response_ok_iff`: a response is read exactly inside the image
- `GuideLocator.peak_ok`: the strongest response of a band inside the image lies in the band
- `GuideLocator.edgePoints_ok`: the samples of a side are read inside the image
- `GuideLocator.locate_ok_or_not_found`: the guided search ends without reading outside
-/

open Except

namespace CardOcr

namespace GuideLocator

/-- The size of an image along a side of the guide, and across it. -/
def extents (img : GrayImage) (side : Side) : Nat × Nat :=
  if side.isHorizontal then (img.width, img.height) else (img.height, img.width)

/-- A response is read without a fault exactly at a position inside the image. -/
theorem response_ok_iff (img : GrayImage) (side : Side) (along across : Nat) :
    (∃ s, response img side along across = .ok s) ↔
      along < (extents img side).1 ∧ across < (extents img side).2 := by
  cases side <;>
    · simp only [response, extents, Side.isHorizontal, ite_true, ite_false, Bool.false_eq_true]
      split
      · exact iff_of_true ⟨_, rfl⟩ (by omega)
      · exact iff_of_false (by rintro ⟨_, ⟨⟩⟩) (by omega)

/-- The strongest response of a band of a sample line inside the image is found without a
    fault, at a position of the band. -/
theorem peak_ok {img : GrayImage} {side : Side} {along hi : Nat} (lo : Nat)
    (halong : along < (extents img side).1) (hhi : hi < (extents img side).2) :
    ∃ r, peak img side along lo hi = .ok r ∧
      ∀ top s, r = some (top, s) → lo ≤ top ∧ top ≤ hi := by
  unfold peak
  -- the fold keeps its incumbent or takes the position it reads, which lies in the band
  apply foldlM_ok_of_step (I := fun r => ∀ top s, r = some (top, s) → lo ≤ top ∧ top ≤ hi)
  · intro best hbest i hi'
    have hband : lo + i ≤ hi := by
      have := List.mem_range.1 hi'
      omega
    obtain ⟨s, hs⟩ := (response_ok_iff img side along (lo + i)).2 ⟨halong, by omega⟩
    refine ⟨_, by dsimp only; rw [hs]; rfl, fun top s' htop => ?_⟩
    cases best with
    | none =>
      simp only [Option.some.injEq, Prod.mk.injEq] at htop
      omega
    | some b =>
      dsimp only at htop
      split at htop
      · simp only [Option.some.injEq, Prod.mk.injEq] at htop
        omega
      · exact hbest top s' htop
  · intro top s h
    cases h

/-- A sample line inside the image, with a band that ends a pixel before the far edge, is read
    without a fault. -/
theorem samplePoint_ok {img : GrayImage} {side : Side} {minStrength : Float} {lo hi along : Nat}
    (halong : along < (extents img side).1) (hhi : hi + 1 < (extents img side).2) :
    ∃ p, samplePoint img side minStrength lo hi along = .ok p := by
  unfold samplePoint
  split
  · exact ⟨_, rfl⟩
  · obtain ⟨r, hr, hband⟩ := peak_ok lo halong (Nat.lt_of_succ_lt hhi)
    rw [hr]
    cases r with
    | none => exact ⟨_, rfl⟩
    | some b =>
      obtain ⟨top, strength⟩ := b
      obtain ⟨-, htop⟩ := hband top strength rfl
      simp only [bind, Except.bind]
      split
      · exact ⟨_, rfl⟩
      · -- the neighbours of the peak are inside the image too
        obtain ⟨a, ha⟩ := (response_ok_iff img side along (top - 1)).2 ⟨halong, by omega⟩
        obtain ⟨c, hc⟩ := (response_ok_iff img side along (top + 1)).2 ⟨halong, by omega⟩
        rw [ha, hc]
        exact ⟨_, rfl⟩

/-- Positions `first, first + step, …` that stop at `last` are at most `last`. -/
theorem le_of_mem_samplePositions {first last step a : Nat}
    (h : a ∈ (List.range (if first ≤ last then (last - first) / step + 1 else 0)).map
      fun k => first + k * step) : a ≤ last := by
  obtain ⟨k, hk, rfl⟩ := List.mem_map.1 h
  split at hk
  · rename_i hfirst
    have hk' : k ≤ (last - first) / step := Nat.lt_succ_iff.1 (List.mem_range.1 hk)
    -- `k` steps stay within the `last - first` pixels between the ends
    have hsteps : k * step ≤ last - first :=
      calc k * step ≤ (last - first) / step * step := Nat.mul_le_mul_right step hk'
        _ ≤ last - first := Nat.div_mul_le_self _ _
    omega
  · exact absurd (List.mem_range.1 hk) (Nat.not_lt_zero k)

/-- The samples of a side are all read inside the image, unless the image has no pixel along
    the side but three or more across it. -/
theorem edgePoints_ok (l : GuideLocator) (img : GrayImage) (g : GuideRect) (side : Side)
    (h : 0 < (extents img side).1 ∨ (extents img side).2 < 3) :
    ∃ pts, l.edgePoints img g side = .ok pts := by
  unfold edgePoints
  split
  split
  rename_i alongMax acrossMax hext
  have hsize : extents img side = (alongMax, acrossMax) := hext
  rw [hsize] at h
  split
  · exact ⟨_, rfl⟩
  · rename_i hwide
    extract_lets halfBand lo hi first last step count alongs
    -- the band ends a pixel before the far edge, the positions at the last pixel along
    have hhi : hi + 1 < acrossMax := by
      have : hi ≤ acrossMax - 2 := Nat.min_le_right _ _
      omega
    have hlast : last < alongMax := by
      have : last ≤ alongMax - 1 := Nat.min_le_right _ _
      omega
    have hsamples : ∃ pts, alongs.filterMapM
        (samplePoint img side l.config.minEdgeStrength.toFloat lo hi) = .ok pts := by
      refine filterMapM_ok_of_forall fun a ha => samplePoint_ok ?_ ?_
      · rw [hsize]
        exact Nat.lt_of_le_of_lt (le_of_mem_samplePositions ha) hlast
      · rw [hsize]
        exact hhi
    obtain ⟨pts, hpts⟩ := hsamples
    rw [hpts]
    exact ⟨_, rfl⟩

/-- A side of the card or a corner was not found. -/
def NotFound (e : FrameFailure) : Prop := ∃ side n, e = .error (.cardNotFound side n)

/-- With its samples read, a side's line is fitted or the side is not found. -/
theorem sideLine_errorsIn {l : GuideLocator} {img : GrayImage} {g : GuideRect} {side : Side}
    (h : ∃ pts, l.edgePoints img g side = .ok pts) :
    (l.sideLine img g side).ErrorsIn NotFound := by
  obtain ⟨pts, hpts⟩ := h
  unfold sideLine
  simp only [Except.liftFault, hpts, errorsIn_bind]
  refine ⟨trivial, fun pts' hpts' => ?_⟩
  split <;> simp [NotFound]

/-- No line fits a side with no samples. -/
theorem fitRobust_empty (minPoints : Nat) : ∃ n, EdgeLine.fitRobust minPoints #[] = .error n := by
  rw [EdgeLine.fitRobust]
  split
  · exact ⟨_, rfl⟩
  · simp [EdgeLine.fit]

/-- A side fewer than three pixels across is not found. -/
theorem sideLine_narrow (l : GuideLocator) (img : GrayImage) (g : GuideRect) (side : Side)
    (h : (extents img side).2 < 3) : ∃ e, l.sideLine img g side = .error e ∧ NotFound e := by
  have hpts : l.edgePoints img g side = .ok #[] := by
    unfold edgePoints
    split
    split
    rename_i alongMax acrossMax hext
    have hsize : extents img side = (alongMax, acrossMax) := hext
    rw [hsize] at h
    rw [if_pos h]
    rfl
  obtain ⟨n, hn⟩ := fitRobust_empty l.config.minPoints
  refine ⟨_, ?_, side.name, n, rfl⟩
  simp [sideLine, Except.liftFault, hpts, hn, bind, Except.bind, throw, throwThe,
    MonadExceptOf.throw, Except.mapError]

/-- The guided search faults only by reading outside the image, which an image of some width,
    or of height below three, never makes it do. -/
theorem locate_errorsIn (l : GuideLocator) (img : GrayImage)
    (h : img.width = 0 → img.height < 3) : (l.locate img).ErrorsIn NotFound := by
  by_cases hshort : img.height < 3
  · -- the top side is too short across to be sampled, and the search stops there
    obtain ⟨e, he, hnf⟩ := sideLine_narrow l img (l.guide img.width img.height) .top
      (by simpa [extents, Side.isHorizontal] using hshort)
    unfold locate
    simp only [he, errorsIn_bind]
    exact ⟨hnf, fun _ h' => by cases h'⟩
  · -- every side has pixels along it and enough across it
    have hwide : 0 < img.width := by omega
    have hsides : ∀ side, 0 < (extents img side).1 := by
      intro side
      cases side <;> simp [extents, Side.isHorizontal] <;> omega
    unfold locate
    simp only [errorsIn_bind]
    have hside : ∀ side, (l.sideLine img (l.guide img.width img.height) side).ErrorsIn NotFound :=
      fun side => sideLine_errorsIn (edgePoints_ok _ _ _ _ (.inl (hsides side)))
    refine ⟨hside _, fun top _ => ⟨hside _, fun right _ => ⟨hside _, fun bottom _ =>
      ⟨hside _, fun left _ => ?_⟩⟩⟩⟩
    -- a corner is found, or not found
    simp only [errorsIn_pure, implies_true, and_true]
    refine ⟨?_, fun _ _ => ⟨?_, fun _ _ => ⟨?_, fun _ _ => ?_⟩⟩⟩ <;>
      · split <;> simp [NotFound]

/-- **The guided search reads inside the image.**  On every image but one of width zero and
    height three or more, the guided locator finds the card's four corners, or reports a side or
    a corner not found; it never reads outside the image. -/
theorem locate_ok_or_not_found (l : GuideLocator) (img : GrayImage)
    (h : img.width = 0 → img.height < 3) :
    (∃ q, l.locate img = .ok q) ∨
      ∃ side n, l.locate img = .error (.error (.cardNotFound side n)) := by
  have hin := locate_errorsIn l img h
  cases hloc : l.locate img with
  | ok q => exact .inl ⟨q, rfl⟩
  | error e =>
    rw [hloc] at hin
    obtain ⟨side, n, rfl⟩ := hin
    exact .inr ⟨side, n, rfl⟩

/-- The guided locator of the default settings on a `64 × 48` frame showing a bright card on a
    dark background, which it samples along every guide edge. -/
theorem locate_ok_or_not_found_card :
    let img := GrayImage.ofFn 64 48 fun x y =>
      if 6 ≤ x ∧ x < 58 ∧ 5 ≤ y ∧ y < 43 then 220 else 30
    (img.width = 0 → img.height < 3) ∧
      ((∃ q, (ofConfig {}).locate img = .ok q) ∨
        ∃ side n, (ofConfig {}).locate img = .error (.error (.cardNotFound side n))) :=
  ⟨by decide, locate_ok_or_not_found _ _ (by decide)⟩

end GuideLocator

end CardOcr
