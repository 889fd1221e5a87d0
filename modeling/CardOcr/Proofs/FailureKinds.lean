import CardOcr.Pipeline

/-!
# Which failures each frame operation can report

`Except.ErrorsIn P x` says that every error `x` can end with satisfies `P`, and its dual
`Except.OkIn P x` that every result does.  Their simp lemmas push them through `pure`,
`throw`, `bind`, `if` and `mapError`, so that what a `do` block can end with is read off its
text by `simp`.  With them, each frame operation is given the
kinds of failure it can report: an outline is refused only for its geometry, a frame only
for its pixel format, a stage's input only for its size or geometry, and no operation but a
texture allocation reports exhausted memory (`FrameFailure.Exhausts`).

## Key results

- `Quad.validate_errorsIn`, `Homography.estimate_errorsIn`: outline failures are geometric
- `TransformStage.apply_errorsIn`, `BlurStage.apply_errorsIn`: stage failures
- `Frame.toGray_errorsIn`: the only frame failure is its pixel format
-/

namespace Except

/-- Every error `x` can end with satisfies `P`. -/
def ErrorsIn {ε α : Type} (P : ε → Prop) : Except ε α → Prop
  | .error e => P e
  | .ok _ => True

section ErrorsIn

variable {ε ε' α β : Type} {P Q : ε → Prop}

@[simp] theorem errorsIn_ok (a : α) : ErrorsIn P (.ok a : Except ε α) := trivial

@[simp] theorem errorsIn_error (e : ε) : ErrorsIn P (.error e : Except ε α) ↔ P e := Iff.rfl

@[simp] theorem errorsIn_pure (a : α) : ErrorsIn P (pure a : Except ε α) := trivial

@[simp] theorem errorsIn_throw (e : ε) : ErrorsIn P (throw e : Except ε α) ↔ P e := Iff.rfl

/-- A sequence fails as its first step does, or as the rest does after the first succeeds. -/
@[simp] theorem errorsIn_bind (x : Except ε α) (f : α → Except ε β) :
    ErrorsIn P (x >>= f) ↔ ErrorsIn P x ∧ ∀ a, x = .ok a → ErrorsIn P (f a) := by
  cases x <;> simp [ErrorsIn, bind, Except.bind]

@[simp] theorem errorsIn_ite (c : Prop) [Decidable c] (x y : Except ε α) :
    ErrorsIn P (if c then x else y) ↔ (c → ErrorsIn P x) ∧ (¬c → ErrorsIn P y) := by
  split <;> simp_all

@[simp] theorem errorsIn_mapError (f : ε' → ε) (x : Except ε' α) :
    ErrorsIn P (x.mapError f) ↔ ErrorsIn (fun e => P (f e)) x := by
  cases x <;> rfl

@[simp] theorem errorsIn_map (f : α → β) (x : Except ε α) :
    ErrorsIn P (f <$> x) ↔ ErrorsIn P x := by
  cases x <;> rfl

theorem ErrorsIn.of_forall (x : Except ε α) (h : ∀ e, P e) : ErrorsIn P x := by
  cases x
  · exact h _
  · trivial

@[simp] theorem errorsIn_true (x : Except ε α) : ErrorsIn (fun _ => True) x :=
  .of_forall x fun _ => trivial

theorem ErrorsIn.mono {x : Except ε α} (h : ErrorsIn P x) (hPQ : ∀ e, P e → Q e) :
    ErrorsIn Q x := by
  cases x
  · exact hPQ _ h
  · trivial

theorem ErrorsIn.of_eq_error {x : Except ε α} {e : ε} (h : ErrorsIn P x) (he : x = .error e) :
    P e := by
  subst he
  exact h

end ErrorsIn

/-- Every result `x` can end with satisfies `P`. -/
def OkIn {ε α : Type} (P : α → Prop) (x : Except ε α) : Prop := ∀ a, x = .ok a → P a

section OkIn

variable {ε α β : Type} {P Q : α → Prop}

@[simp] theorem okIn_error (e : ε) : OkIn P (.error e : Except ε α) := fun _ h => nomatch h

@[simp] theorem okIn_ok (a : α) : OkIn P (.ok a : Except ε α) ↔ P a :=
  ⟨fun h => h a rfl, fun h b hb => by cases hb; exact h⟩

@[simp] theorem okIn_pure (a : α) : OkIn P (pure a : Except ε α) ↔ P a := okIn_ok a

@[simp] theorem okIn_throw (e : ε) : OkIn P (throw e : Except ε α) := okIn_error e

/-- A sequence ends as its rest does, after whatever result its first step gave. -/
@[simp] theorem okIn_bind {P : β → Prop} (x : Except ε α) (f : α → Except ε β) :
    OkIn P (x >>= f) ↔ ∀ a, x = .ok a → OkIn P (f a) := by
  cases x with
  | error e => exact ⟨fun _ a h => (nomatch h), fun _ b hb => (nomatch hb)⟩
  | ok a => exact ⟨fun h a' ha' => by cases ha'; exact h, fun h => h a rfl⟩

@[simp] theorem okIn_ite (c : Prop) [Decidable c] (x y : Except ε α) :
    OkIn P (if c then x else y) ↔ (c → OkIn P x) ∧ (¬c → OkIn P y) := by
  split <;> simp_all

@[simp] theorem okIn_map {P : β → Prop} (f : α → β) (x : Except ε α) :
    OkIn P (f <$> x) ↔ OkIn (fun a => P (f a)) x := by
  cases x with
  | error e => exact ⟨fun _ => okIn_error e, fun _ => okIn_error e⟩
  | ok a => exact ⟨fun h => (okIn_ok a).2 (h _ rfl), fun h b hb => by cases hb; exact h a rfl⟩

/-- A result is kept as it is by renaming the errors. -/
theorem okIn_mapError {ε' : Type} (f : ε → ε') (x : Except ε α) :
    OkIn P (x.mapError f) ↔ OkIn P x := by
  cases x with
  | error e => exact ⟨fun _ => okIn_error e, fun _ => okIn_error (f e)⟩
  | ok a => exact ⟨fun h => (okIn_ok a).2 (h a rfl), fun h => (okIn_ok a).2 ((okIn_ok a).1 h)⟩

theorem OkIn.mono {x : Except ε α} (h : OkIn P x) (hPQ : ∀ a, P a → Q a) : OkIn Q x :=
  fun a ha => hPQ a (h a ha)

theorem OkIn.of_forall (x : Except ε α) (h : ∀ a, P a) : OkIn P x := fun a _ => h a

@[simp] theorem okIn_true (x : Except ε α) : OkIn (fun _ => True) x := .of_forall x fun _ => trivial

end OkIn

end Except

namespace CardOcr

open Except

/-- A texture allocation ran out of memory. -/
def FrameFailure.Exhausts (e : FrameFailure) : Prop :=
  ∃ requested inUse budget, e = .error (.resourceExhausted requested inUse budget)

/-! ## Outlines -/

theorem Quad.checkTurn_errorsIn (a b c : Point) (corner : Nat) :
    (Quad.checkTurn a b c corner).ErrorsIn fun e => ∃ s, e = .invalidGeometry s := by
  simp [Quad.checkTurn]

/-- An outline is refused only for its geometry. -/
theorem Quad.validate_errorsIn (q : Quad) (minArea : Float) :
    (q.validate minArea).ErrorsIn fun e => ∃ s, e = .invalidGeometry s := by
  simp [Quad.validate, Quad.checkTurn_errorsIn]

/-- A homography is refused for a degenerate outline, or the eigensolver faults. -/
theorem Homography.estimate_errorsIn (src dst : List Point) :
    (Homography.estimate src dst).ErrorsIn
      fun e => (∃ s, e = .error (.invalidGeometry s)) ∨ ∃ f, e = .fault f := by
  simp only [Homography.estimate, Except.liftFault, errorsIn_bind, errorsIn_mapError]
  refine ⟨.of_forall _ fun _ => .inr ⟨_, rfl⟩, fun eig _ => ?_⟩
  -- the normalizing transform of the outline has an inverse or not
  split
  · simp
  · simp

/-! ## Frames and stages -/

/-- The only frame that cannot be read is one of another pixel format than luma. -/
theorem Frame.toGray_errorsIn (f : Frame) :
    f.toGray.ErrorsIn fun e => e = .unsupportedPixelFormat f.format := by
  simp [Frame.toGray, Std.Legacy.Range.forIn_eq_forIn_range', List.forIn_pure_yield_eq_foldl]

/-- The perspective stage refuses an input of the wrong size or a missing outline, or the
    warp faults. -/
theorem TransformStage.apply_errorsIn (t : TransformStage) (img : GrayImage) :
    (t.apply img).ErrorsIn fun e =>
      (∃ w h aw ah, e = .error (.dimensionMismatch w h aw ah)) ∨
        (∃ s, e = .error (.invalidGeometry s)) ∨ ∃ f, e = .fault f := by
  simp only [TransformStage.apply, Except.liftFault, errorsIn_bind]
  refine ⟨by simp [Size.check, Size.mismatch], fun _ _ => ?_⟩
  -- with an outline set the warp can only fault; without one the stage refuses
  split
  · simp
  · simp

/-- The blur refuses only an input of the wrong size. -/
theorem BlurStage.apply_errorsIn (b : BlurStage) (img : GrayImage) :
    (b.apply img).ErrorsIn fun e => ∃ w h aw ah, e = .dimensionMismatch w h aw ah := by
  simp [BlurStage.apply, Size.check, Size.mismatch]

/-- Setting an outline fails only for its geometry, or the eigensolver faults. -/
theorem TransformStage.setQuad_errorsIn (t : TransformStage) (q : Quad) :
    (t.setQuad q).1.ErrorsIn fun e => (∃ s, e = .error (.invalidGeometry s)) ∨ ∃ f, e = .fault f := by
  unfold TransformStage.setQuad
  split
  · -- the outline was refused
    rename_i e he
    have hv : ((q.validate t.minArea).mapError FrameFailure.error).ErrorsIn
        fun e => ∃ s, e = .error (.invalidGeometry s) :=
      (errorsIn_mapError _ _).2 ((Quad.validate_errorsIn q t.minArea).mono fun _ ⟨s, hs⟩ => ⟨s, by rw [hs]⟩)
    exact .inl (hv.of_eq_error he)
  · split
    · -- no homography onto the outline
      rename_i e he
      exact (Homography.estimate_errorsIn _ _).of_eq_error he
    · trivial

end CardOcr
