import Mathlib
import CardOcr.Filter.Blur

/-!
# The radius of the Gaussian kernel

`gaussianKernel σ` builds the taps of offsets `-r .. r` for the radius `r = ⌈3σ⌉`, taken as a
32-bit signed word that saturates (`kernelRadius`), and squares each offset in 32-bit signed
arithmetic.  The first offset is `-r`, whose square `r²` is the largest: the kernel is built,
with `2r + 1` taps, exactly when `r² < 2³¹`, and otherwise the very first square overflows.

A configuration is accepted for every finite σ that is not negative, and nothing else bounds
σ on its way to the blur stage.  A σ whose radius is at least 46341 (σ above 15446.67)
therefore passes validation and makes configuring the blur stage fault, before any texture
is borrowed.

## Key results

- `forIn_taps_ok`: a tap loop whose every square fits pushes one tap per offset
- `forIn_taps_overflow`: a tap loop whose first square does not fit overflows
- `gaussianKernel_overflow`, `gaussianKernel_built`: the kernel overflows, or is built with
  `2r + 1` taps, as `r²` does or does not fit
- `BlurStage.configure_radius`: the blur stage's radius, or the overflow that stops it
-/

namespace CardOcr

/-- A checked product that fits its word is the product. -/
theorem checkedMul_of_lt {bits a b : Nat} (h : a * b < 2 ^ bits) :
    checkedMul bits a b = .ok (a * b) := by
  unfold checkedMul
  rw [if_pos (by simpa [Nat.pow_eq] using h)]

/-- A checked product that does not fit its word overflows. -/
theorem checkedMul_of_le {bits a b : Nat} (h : 2 ^ bits ≤ a * b) :
    checkedMul bits a b = .error .mulOverflow := by
  unfold checkedMul
  rw [if_neg (by simpa [Nat.pow_eq] using h)]

/-! ## The tap loop -/

section TapLoop

variable (r : Nat) (g : Nat → Float32)

/-- The square of the offset of tap `k` from the centre `r`, as `gaussianKernel` takes it. -/
def tapOffsetSq (k : Nat) : Nat := ((k : Int) - r).natAbs * ((k : Int) - r).natAbs

/-- The loop pushes one tap per offset when every square fits 32-bit signed words. -/
theorem forIn_taps_ok :
    ∀ (l : List Nat) (acc : Array Float32), (∀ k ∈ l, tapOffsetSq r k < 2 ^ 31) →
    ∃ out, forIn l acc (fun (k : Nat) taps => do
        let sq ← checkedMul 31 ((k : Int) - r).natAbs ((k : Int) - r).natAbs
        pure (ForInStep.yield (taps.push (g sq)))) = (.ok out : Except Fault _) ∧
      out.size = acc.size + l.length
  | [], acc, _ => ⟨acc, rfl, rfl⟩
  | k :: l, acc, h => by
    have hk : tapOffsetSq r k < 2 ^ 31 := h k List.mem_cons_self
    obtain ⟨out, hout, hsize⟩ :=
      forIn_taps_ok l (acc.push (g (tapOffsetSq r k))) fun k' hk' => h k' (List.mem_cons_of_mem k hk')
    refine ⟨out, ?_, by rw [hsize, Array.size_push, List.length_cons]; omega⟩
    rw [List.forIn_cons, checkedMul_of_lt hk]
    exact hout

/-- The loop overflows at once when the square of its first offset does not fit. -/
theorem forIn_taps_overflow (k : Nat) (l : List Nat) (acc : Array Float32)
    (hk : 2 ^ 31 ≤ tapOffsetSq r k) :
    forIn (k :: l) acc (fun (k : Nat) taps => do
        let sq ← checkedMul 31 ((k : Int) - r).natAbs ((k : Int) - r).natAbs
        pure (ForInStep.yield (taps.push (g sq)))) = (.error .mulOverflow : Except Fault _) := by
  rw [List.forIn_cons, checkedMul_of_le hk]
  rfl

end TapLoop

/-- Every tap `k ≤ 2r` lies at most `r` from the centre, so its square is at most `r²`. -/
theorem tapOffsetSq_le {r k : Nat} (hk : k ≤ 2 * r) : tapOffsetSq r k ≤ r * r := by
  unfold tapOffsetSq
  have h : ((k : Int) - r).natAbs ≤ r := by omega
  exact Nat.mul_le_mul h h

/-- The first tap lies `r` from the centre. -/
@[simp] theorem tapOffsetSq_zero (r : Nat) : tapOffsetSq r 0 = r * r := by
  simp [tapOffsetSq]

/-! ## The kernel -/

/-- A σ that is not positive gives the one-tap identity kernel. -/
theorem gaussianKernel_of_not_pos {sigma : Float32} (h : ¬sigma > 0.0) :
    gaussianKernel sigma = .ok #[1.0] := by
  unfold gaussianKernel
  simp only [h, decide_false, Bool.not_false, ↓reduceIte]
  rfl

/-- A positive σ runs the tap loop over the offsets `0 .. 2r` and normalises the taps. -/
theorem gaussianKernel_of_pos {sigma : Float32} (h : sigma > 0.0) :
    gaussianKernel sigma = (do
      let taps ← forIn (List.range' 0 (2 * kernelRadius sigma + 1))
        (Array.mkEmpty (2 * kernelRadius sigma + 1)) fun (k : Nat) taps => do
          let sq ← checkedMul 31 ((k : Int) - kernelRadius sigma).natAbs
            ((k : Int) - kernelRadius sigma).natAbs
          pure (ForInStep.yield
            (taps.push (Float32.exp (-(sq.toUInt64.toFloat32) / (2.0 * sigma * sigma)))))
      pure (taps.map (· / taps.foldl (· + ·) (-0.0)))) := by
  unfold gaussianKernel kernelRadius
  simp only [h, decide_true, Bool.not_true, Bool.false_eq_true, ↓reduceIte,
    Std.Legacy.Range.forIn_eq_forIn_range', Std.Legacy.Range.size]
  simp

/-- A radius whose square does not fit 32-bit signed words overflows on the first tap. -/
theorem gaussianKernel_overflow {sigma : Float32}
    (hr : 2 ^ 31 ≤ kernelRadius sigma * kernelRadius sigma) :
    gaussianKernel sigma = .error .mulOverflow := by
  have hpos : sigma > 0.0 := by
    by_contra hpos
    simp [kernelRadius, hpos] at hr
  rw [gaussianKernel_of_pos hpos, List.range'_succ,
    forIn_taps_overflow _ _ 0 _ _ (by rw [tapOffsetSq_zero]; exact hr)]
  rfl

/-- A radius whose square fits 32-bit signed words builds the kernel, with `2r + 1` taps. -/
theorem gaussianKernel_built {sigma : Float32}
    (hr : kernelRadius sigma * kernelRadius sigma < 2 ^ 31) :
    ∃ k, gaussianKernel sigma = .ok k ∧ k.size = 2 * kernelRadius sigma + 1 := by
  by_cases hpos : sigma > 0.0
  · rw [gaussianKernel_of_pos hpos]
    -- every offset lies at most `r` from the centre, so no square exceeds `r²`
    have hall : ∀ k ∈ List.range' 0 (2 * kernelRadius sigma + 1),
        tapOffsetSq (kernelRadius sigma) k < 2 ^ 31 := by
      intro k hk
      rw [List.mem_range'_1] at hk
      exact lt_of_le_of_lt (tapOffsetSq_le (by omega)) hr
    obtain ⟨out, hout, hsize⟩ := forIn_taps_ok _ _ _ _ hall
    refine ⟨_, by rw [hout]; rfl, ?_⟩
    rw [Array.size_map, hsize, List.length_range']
    simp
  · have h0 : kernelRadius sigma = 0 := by simp [kernelRadius, hpos]
    rw [gaussianKernel_of_not_pos hpos, h0]
    exact ⟨_, rfl, rfl⟩

/-- Every built kernel has `2r + 1` taps. -/
theorem gaussianKernel_size {sigma : Float32} {k : Array Float32}
    (h : gaussianKernel sigma = .ok k) : k.size = 2 * kernelRadius sigma + 1 := by
  by_cases hr : kernelRadius sigma * kernelRadius sigma < 2 ^ 31
  · obtain ⟨k', hk', hsize⟩ := gaussianKernel_built hr
    rw [hk', Except.ok.injEq] at h
    rw [← h, hsize]
  · rw [gaussianKernel_overflow (Nat.le_of_not_lt hr)] at h
    cases h

/-- The kernel is built exactly when the square of its radius fits 32-bit signed words. -/
theorem gaussianKernel_eq_ok_iff (sigma : Float32) :
    (∃ k, gaussianKernel sigma = .ok k) ↔ kernelRadius sigma * kernelRadius sigma < 2 ^ 31 := by
  constructor
  · rintro ⟨k, hk⟩
    by_contra hr
    rw [gaussianKernel_overflow (Nat.le_of_not_lt hr)] at hk
    cases hk
  · intro hr
    obtain ⟨k, hk, -⟩ := gaussianKernel_built hr
    exact ⟨k, hk⟩

/-! ## The blur stage -/

namespace BlurStage

/-- Configuring the stage builds the kernel, then borrows the output texture. -/
theorem configure_eq (arena : TextureArena) (size : Size) (sigma : Float32) :
    configure arena size sigma =
      match gaussianKernel sigma with
      | .error e => .error (.fault e)
      | .ok k => (arena.allocate .u8 size.pixels).map fun p => (⟨size, k, p.1⟩, p.2) := by
  unfold configure
  cases gaussianKernel sigma with
  | error e => rfl
  | ok k =>
    simp only [Except.liftFault, Except.mapError, bind, Except.bind, pure, Except.pure,
      Except.map]

/-- The blur stage's kernel and radius for `σ`, with `r` its radius `⌈3σ⌉`: the kernel is
    built exactly when `r²` fits 32-bit signed words, with `2r + 1` taps (the single tap of
    the identity when `σ` is not positive), and a configured stage has radius `r`.  When `r²`
    does not fit, configuring the stage faults with an overflow before it borrows a texture. -/
theorem configure_radius (arena : TextureArena) (size : Size) (sigma : Float32) :
    ((∃ k, gaussianKernel sigma = .ok k) ↔ kernelRadius sigma * kernelRadius sigma < 2 ^ 31) ∧
    (∀ k, gaussianKernel sigma = .ok k → k.size = 2 * kernelRadius sigma + 1) ∧
    (¬sigma > 0.0 → gaussianKernel sigma = .ok #[1.0]) ∧
    (2 ^ 31 ≤ kernelRadius sigma * kernelRadius sigma →
      configure arena size sigma = .error (.fault .mulOverflow)) ∧
    (∀ b arena', configure arena size sigma = .ok (b, arena') →
      b.kernel.size = 2 * kernelRadius sigma + 1 ∧ b.radius = kernelRadius sigma) := by
  refine ⟨gaussianKernel_eq_ok_iff sigma, fun k hk => gaussianKernel_size hk,
    gaussianKernel_of_not_pos, fun hr => ?_, fun b arena' hb => ?_⟩
  · rw [configure_eq, gaussianKernel_overflow hr]
  · rw [configure_eq] at hb
    -- the stage holds the kernel that was built
    cases hk : gaussianKernel sigma with
    | error e =>
      rw [hk] at hb
      cases hb
    | ok k =>
      rw [hk] at hb
      cases ha : arena.allocate .u8 size.pixels with
      | error e =>
        rw [ha] at hb
        cases hb
      | ok p =>
        rw [ha] at hb
        cases hb
        have hsize := gaussianKernel_size hk
        refine ⟨hsize, ?_⟩
        show k.size / 2 = _
        omega

end BlurStage

end CardOcr
