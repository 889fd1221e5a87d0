import Mathlib
import CardOcr.Proofs.FailureKinds

/-!
# The pipeline's gate, stages and textures

A pipeline is *consistent* (`Pipeline.Consistent`) when its `configured` flag says whether
stages are kept, the arena's live textures are exactly the two output textures of the kept
stages (both of the canonical size, under different ids) and nothing when none are kept, the
bytes in use are within the budget, and the kept stages map frames of their size onto the
canonical size.  Every operation keeps a pipeline consistent, whatever the frame, its pixel
format and the outline: staging for a new frame size gives the old textures back before it
borrows new ones, and a blur that cannot be configured leaves no texture of the perspective
stage behind.

Clients hold reservations (`PipelineWorld`): reserving adds one, dropping one releases the
pipeline, a frame is processed under a held reservation, a submission reserves, processes and
releases in one step, and a teardown drops the stages.  Over every sequence of these steps at
most one reservation is held, the pipeline is `processing` exactly while one is, and otherwise
it is `ready` exactly when stages are kept (`PipelineWorld.Inv`).

## Key results

- `allocate_eq_ok`, `configureChain_eq_ok`: what a granted texture and a staging leave
- `stagesFor_run`, `processReserved_run`, `submit_run`: the operations as state transitions
- `consistent_processReserved`: processing keeps a pipeline consistent and its gate
- `inv_step`, `inv_run`: the gate and texture invariant over every run
-/

namespace CardOcr

/-! ## The texture arena -/

namespace TextureArena

/-- A granted loan appends one live texture of its bytes under the next id, within the
    budget. -/
theorem allocate_eq_ok {a a' : TextureArena} {kind : TexelKind} {len id : Nat}
    (h : a.allocate kind len = .ok (id, a')) :
    id = a.nextId ∧ a'.live = a.live ++ [(a.nextId, len * kind.size)] ∧ a'.budget = a.budget ∧
      a'.nextId = a.nextId + 1 ∧ a.bytesInUse + len * kind.size ≤ a.budget := by
  unfold allocate at h
  -- the byte count fits a word, or the loan faults before anything else
  have hmul : len * kind.size < Nat.pow 2 64 := by
    apply Classical.byContradiction
    intro hc
    simp [checkedMul, hc, Except.liftFault, Except.mapError, bind, Except.bind] at h
  simp only [Except.liftFault, checkedMul, hmul, ↓reduceIte, Except.mapError, bind, Except.bind,
    pure, Except.pure] at h
  split at h
  · rename_i hfit
    split at h
    · cases h  -- more than a signed word: capacity fault
    · simp only [Except.ok.injEq, Prod.mk.injEq] at h
      obtain ⟨rfl, rfl⟩ := h
      simp only [Bool.and_eq_true, decide_eq_true_eq] at hfit
      exact ⟨rfl, rfl, rfl, rfl, hfit.2⟩
  · cases h  -- over the budget: resource exhaustion

/-- Giving a texture back removes every live texture of its id. -/
theorem release_live (a : TextureArena) (id : Nat) :
    (a.release id).2.live = a.live.filter (·.1 != id) := by
  unfold release
  split
  · rfl
  · rename_i hany
    simp only [List.any_eq_true, beq_iff_eq, not_exists, not_and] at hany
    exact (List.filter_eq_self.2 fun e he => by simpa using hany e he).symm

@[simp] theorem release_budget (a : TextureArena) (id : Nat) :
    (a.release id).2.budget = a.budget := by
  unfold release
  split <;> rfl

theorem bytesInUse_eq_sum (a : TextureArena) : a.bytesInUse = (a.live.map Prod.snd).sum := rfl

end TextureArena

/-! ## Stages -/

/-- A configured perspective stage maps frames of the given size onto the given output and
    borrows one texture of the output size under the arena's next id. -/
theorem TransformStage.configure_eq_ok {arena arena' : TextureArena} {input output : Size}
    {border : UInt8} {minArea : Float} {t : TransformStage}
    (h : TransformStage.configure arena input output border minArea = .ok (t, arena')) :
    t.input = input ∧ t.output = output ∧ t.texture = arena.nextId ∧
      arena'.live = arena.live ++ [(arena.nextId, output.pixels)] ∧
      arena'.budget = arena.budget ∧ arena'.nextId = arena.nextId + 1 ∧
      arena.bytesInUse + output.pixels ≤ arena.budget := by
  unfold TransformStage.configure at h
  simp only [bind, Except.bind, pure, Except.pure] at h
  split at h
  · cases h
  · rename_i r halloc
    obtain ⟨id, a1⟩ := r
    simp only [Except.ok.injEq, Prod.mk.injEq] at h
    obtain ⟨rfl, rfl⟩ := h
    obtain ⟨rfl, hlive, hbudget, hnext, hfit⟩ := TextureArena.allocate_eq_ok halloc
    simp only [TexelKind.size, Nat.mul_one] at hlive hfit
    exact ⟨rfl, rfl, rfl, hlive, hbudget, hnext, hfit⟩

/-- A configured blur smooths images of the given size and borrows one texture of that size
    under the arena's next id. -/
theorem BlurStage.configure_eq_ok {arena arena' : TextureArena} {size : Size} {sigma : Float32}
    {b : BlurStage} (h : BlurStage.configure arena size sigma = .ok (b, arena')) :
    b.size = size ∧ b.texture = arena.nextId ∧
      arena'.live = arena.live ++ [(arena.nextId, size.pixels)] ∧
      arena'.budget = arena.budget ∧ arena'.nextId = arena.nextId + 1 ∧
      arena.bytesInUse + size.pixels ≤ arena.budget := by
  unfold BlurStage.configure at h
  simp only [Except.liftFault, Except.mapError, bind, Except.bind, pure, Except.pure] at h
  split at h
  · cases h  -- the kernel faulted
  · split at h
    · cases h
    · rename_i r halloc
      obtain ⟨id, a1⟩ := r
      simp only [Except.ok.injEq, Prod.mk.injEq] at h
      obtain ⟨rfl, rfl⟩ := h
      obtain ⟨rfl, hlive, hbudget, hnext, hfit⟩ := TextureArena.allocate_eq_ok halloc
      simp only [TexelKind.size, Nat.mul_one] at hlive hfit
      exact ⟨rfl, rfl, hlive, hbudget, hnext, hfit⟩

/-- Setting an outline changes only the stage's mapping. -/
theorem TransformStage.setQuad_snd (t : TransformStage) (q : Quad) :
    ∃ m, (t.setQuad q).2 = { t with mapping := m } := by
  unfold TransformStage.setQuad
  split
  · exact ⟨none, rfl⟩
  · split
    · exact ⟨none, rfl⟩
    · exact ⟨_, rfl⟩

/-- A frame is read at its own size. -/
theorem Frame.toGray_size {f : Frame} {img : GrayImage} (h : f.toGray = .ok img) :
    img.width = f.width ∧ img.height = f.height := by
  unfold Frame.toGray at h
  simp only [Std.Legacy.Range.forIn_eq_forIn_range', List.forIn_pure_yield_eq_foldl] at h
  simp only [bind, Except.bind, pure, Except.pure] at h
  split at h
  · cases h
  · split at h <;> (cases h; exact ⟨rfl, rfl⟩)

/-- A staging builds the perspective stage for frames of `size` and the blur on its output,
    both onto the canonical size, under the arena's next two ids. -/
theorem Pipeline.configureChain_eq_ok {s : StageSettings} {arena arena' : TextureArena}
    {size : Size} {c : StageChain}
    (h : Pipeline.configureChain s arena size = .ok (c, arena')) :
    c.frameSize = size ∧ c.transform.input = size ∧ c.transform.output = s.output ∧
      c.blur.size = s.output ∧ c.transform.texture = arena.nextId ∧
      c.blur.texture = arena.nextId + 1 ∧
      arena'.live = arena.live ++ [(arena.nextId, s.output.pixels),
        (arena.nextId + 1, s.output.pixels)] ∧
      arena'.budget = arena.budget ∧ arena'.bytesInUse ≤ arena'.budget := by
  unfold Pipeline.configureChain at h
  simp only [bind, Except.bind, pure, Except.pure] at h
  split at h
  · cases h
  · rename_i r ht
    obtain ⟨t, a1⟩ := r
    split at h
    · rename_i b a2 hb
      simp only [Except.ok.injEq, Prod.mk.injEq] at h
      obtain ⟨rfl, rfl⟩ := h
      obtain ⟨hin, hout, htex, hlive1, hbudget1, hnext1, -⟩ := TransformStage.configure_eq_ok ht
      obtain ⟨hsize, hbtex, hlive2, hbudget2, -, hfit⟩ := BlurStage.configure_eq_ok hb
      refine ⟨rfl, hin, hout, hsize, htex, by rw [hbtex, hnext1], ?_, by rw [hbudget2, hbudget1], ?_⟩
      · rw [hlive2, hlive1, hnext1, List.append_assoc]
        rfl
      · rw [TextureArena.bytesInUse_eq_sum, hlive2, List.map_append, List.sum_append,
          ← TextureArena.bytesInUse_eq_sum, hbudget2]
        simpa using hfit
    · cases h

/-! ## Consistent pipelines -/

/-- The textures a chain holds: the outputs of its two stages, of the canonical size. -/
def StageChain.textures (c : StageChain) (output : Size) : List (Nat × Nat) :=
  [(c.transform.texture, output.pixels), (c.blur.texture, output.pixels)]

/-- A chain maps frames of its size onto the canonical size, through two textures. -/
structure StageChain.Fits (s : StageSettings) (c : StageChain) : Prop where
  input : c.transform.input = c.frameSize
  output : c.transform.output = s.output
  blur : c.blur.size = s.output
  distinct : c.transform.texture ≠ c.blur.texture

/-- The flag, the kept stages and the arena agree. -/
structure Pipeline.Consistent (p : Pipeline) : Prop where
  configured : p.configured = p.chain.isSome
  live : p.arena.live = (p.chain.map (·.textures p.settings.output)).getD []
  fits : ∀ c, p.chain = some c → c.Fits p.settings
  budget : p.arena.bytesInUse ≤ p.arena.budget

namespace Pipeline

theorem consistent_ofConfig (c : ScanConfig) : (ofConfig c).Consistent :=
  ⟨rfl, rfl, fun _ h => (nomatch h), Nat.zero_le _⟩

/-- A consistent pipeline holds two canonical textures while it keeps stages, and none
    otherwise. -/
theorem Consistent.bytesInUse {p : Pipeline} (hp : p.Consistent) :
    p.bytesInUse = if p.chain.isSome then 2 * p.settings.output.pixels else 0 := by
  unfold Pipeline.bytesInUse
  rw [TextureArena.bytesInUse_eq_sum, hp.live]
  cases p.chain with
  | none => rfl
  | some c => simp [StageChain.textures]; omega

@[simp] theorem dropChain_chain (p : Pipeline) : p.dropChain.chain = none := by
  unfold Pipeline.dropChain
  split
  · assumption
  · rfl

@[simp] theorem dropChain_settings (p : Pipeline) : p.dropChain.settings = p.settings := by
  unfold Pipeline.dropChain
  split <;> rfl

@[simp] theorem dropChain_state (p : Pipeline) : p.dropChain.state = p.state := by
  unfold Pipeline.dropChain
  split <;> rfl

@[simp] theorem dropChain_budget (p : Pipeline) : p.dropChain.arena.budget = p.arena.budget := by
  unfold Pipeline.dropChain
  split <;> simp

/-- Dropping the stages of a consistent pipeline gives every texture back. -/
theorem Consistent.dropChain_live {p : Pipeline} (hp : p.Consistent) :
    p.dropChain.arena.live = [] := by
  unfold Pipeline.dropChain
  cases hc : p.chain with
  | none =>
    have := hp.live
    simpa only [hc, Option.map_none, Option.getD_none] using this
  | some c =>
    have hlive := hp.live
    have hd := (hp.fits c hc).distinct
    simp only [hc, Option.map_some, Option.getD_some, StageChain.textures] at hlive
    rw [TextureArena.release_live, TextureArena.release_live, hlive]
    simp [Ne.symm hd]

/-! ## Staging -/

/-- `p'` is consistent and has the gate state, settings and budget of `p`. -/
structure Keeps (p p' : Pipeline) : Prop where
  consistent : p'.Consistent
  state : p'.state = p.state
  settings : p'.settings = p.settings
  budget : p'.arena.budget = p.arena.budget

theorem Keeps.refl {p : Pipeline} (hp : p.Consistent) : Keeps p p := ⟨hp, rfl, rfl, rfl⟩

/-- Drops the stages and configures new ones for frames of `size`: what `stagesFor` does
    when the kept stages do not fit. -/
def restage (size : Size) (p : Pipeline) : Except FrameFailure StageChain × Pipeline :=
  let p1 := { p.dropChain with configured := false }
  match configureChain p1.settings p1.arena size with
  | .error e => (.error e, p1)
  | .ok (c, arena) => (.ok c, { p1 with arena := arena, chain := some c, configured := true })

/-- Restaging a consistent pipeline gives the old textures back before it borrows new ones,
    so it stays within the budget whatever the frame size. -/
theorem Consistent.keeps_restage {p : Pipeline} (hp : p.Consistent) (size : Size) :
    Keeps p (restage size p).2 := by
  have hlive := hp.dropChain_live
  unfold restage
  dsimp only
  split
  · -- the staging failed: no stages and no textures are left
    refine ⟨⟨by simp, by simp [hlive], by simp, ?_⟩, by simp, by simp, by simp⟩
    simp [TextureArena.bytesInUse_eq_sum, hlive]
  · rename_i c arena hcfg
    obtain ⟨hsize, hin, hout, hblur, htex, hbtex, hlive', hbudget, hfit⟩ :=
      configureChain_eq_ok hcfg
    refine ⟨⟨rfl, ?_, ?_, hfit⟩, by simp, by simp, by simp [hbudget]⟩
    · simp only [hlive', hlive, Option.map_some, Option.getD_some, StageChain.textures, htex,
        hbtex, List.nil_append]
    · intro c' hc'
      cases hc'
      exact ⟨hin.trans hsize.symm, hout, hblur, by rw [htex, hbtex]; omega⟩

theorem restage_ok {size : Size} {p p' : Pipeline} {c : StageChain}
    (h : restage size p = (.ok c, p')) : p'.chain = some c ∧ c.frameSize = size := by
  unfold restage at h
  dsimp only at h
  split at h
  · cases h
  · rename_i c' arena hcfg
    cases h
    exact ⟨rfl, (configureChain_eq_ok hcfg).1⟩

theorem restage_error {size : Size} {p p' : Pipeline} {e : FrameFailure}
    (h : restage size p = (.error e, p')) : p'.chain = none := by
  unfold restage at h
  dsimp only at h
  split at h
  · cases h
    simp
  · cases h

/-- The stages for a frame size: the kept ones when they fit, else a restaging. -/
theorem stagesFor_run (size : Size) (p : Pipeline) :
    (stagesFor size).run.run p =
      match p.chain with
      | some c => if c.frameSize = size then (.ok c, p) else restage size p
      | none => restage size p := by
  unfold stagesFor restage
  -- the match on the kept stages only reduces once the monad is unfolded around it
  cases hc : p.chain with
  | none =>
    simp only [ExceptT.run, StateT.run, bind, ExceptT.bind, ExceptT.mk, get, getThe,
      MonadStateOf.get, set, StateT.bind, pure, ExceptT.pure, ExceptT.bindCont, liftM, monadLift,
      MonadLift.monadLift, ExceptT.lift, StateT.get, StateT.set, Functor.map, StateT.map, hc]
    cases configureChain p.dropChain.settings p.dropChain.arena size <;> rfl
  | some c =>
    simp only [ExceptT.run, StateT.run, bind, ExceptT.bind, ExceptT.mk, get, getThe,
      MonadStateOf.get, set, StateT.bind, pure, ExceptT.pure, ExceptT.bindCont, liftM, monadLift,
      MonadLift.monadLift, ExceptT.lift, StateT.get, Functor.map, StateT.map, hc]
    split
    · rfl
    · simp only [bind, pure, StateT.map, StateT.bind, StateT.set, StateT.get, ExceptT.bindCont]
      cases configureChain p.dropChain.settings p.dropChain.arena size <;> rfl

theorem Consistent.keeps_stagesFor {p : Pipeline} (hp : p.Consistent) (size : Size) :
    Keeps p ((stagesFor size).run.run p).2 := by
  rw [stagesFor_run]
  split
  · split
    · exact Keeps.refl hp
    · exact hp.keeps_restage size
  · exact hp.keeps_restage size

/-- Stages handed out fit the frame size and are the ones kept. -/
theorem stagesFor_ok {size : Size} {p p' : Pipeline} {c : StageChain}
    (h : (stagesFor size).run.run p = (.ok c, p')) : p'.chain = some c ∧ c.frameSize = size := by
  rw [stagesFor_run] at h
  split at h
  · rename_i c' hc
    split at h
    · rename_i hsize
      cases h
      exact ⟨hc, hsize⟩
    · exact restage_ok h
  · exact restage_ok h

/-- A staging that fails leaves no stages. -/
theorem stagesFor_error {size : Size} {p p' : Pipeline} {e : FrameFailure}
    (h : (stagesFor size).run.run p = (.error e, p')) : p'.chain = none := by
  rw [stagesFor_run] at h
  split at h
  · split at h
    · cases h
    · exact restage_error h
  · exact restage_error h

/-! ## Processing -/

theorem Keeps.trans {p p1 p2 : Pipeline} (h1 : Keeps p p1) (h2 : Keeps p1 p2) : Keeps p p2 :=
  ⟨h2.consistent, h2.state.trans h1.state, h2.settings.trans h1.settings,
    h2.budget.trans h1.budget⟩

/-- Setting the perspective stage's mapping keeps a pipeline consistent. -/
theorem Consistent.keeps_withMapping {p : Pipeline} {c : StageChain} (hp : p.Consistent)
    (hc : p.chain = some c) (m : Option Homography) :
    Keeps p { p with chain := some { c with transform := { c.transform with mapping := m } } } := by
  have hfits := hp.fits c hc
  refine ⟨⟨by simp [hp.configured, hc], ?_, ?_, hp.budget⟩, rfl, rfl, rfl⟩
  · simpa [hc, StageChain.textures] using hp.live
  · intro c' hc'
    cases hc'
    exact ⟨hfits.input, hfits.output, hfits.blur, hfits.distinct⟩

/-- The tail of `processReserved` once the stages are at hand: the outline's outcome, the
    warp and the blur. -/
def correct (f : Frame) (q : Quad) (input : GrayImage) (c : StageChain)
    (rt : Except FrameFailure Unit × TransformStage) : Except FrameFailure CorrectedImage := do
  rt.1
  let warped ← rt.2.apply input
  let image ← (c.blur.apply warped).mapError .error
  return ⟨f.sequence, q, image⟩

/-- Processing reads the frame, takes the stages for its size, keeps the outline's mapping
    in them, and corrects the frame. -/
theorem processReserved_run (f : Frame) (q : Quad) (p : Pipeline) :
    (processReserved f q).run.run p =
      match f.toGray with
      | .error e => (.error (.error e), p)
      | .ok input =>
        match (stagesFor ⟨input.width, input.height⟩).run.run p with
        | (.error e, p1) => (.error e, p1)
        | (.ok c, p1) =>
          (correct f q input c (c.transform.setQuad q),
            { p1 with chain := some { c with transform := (c.transform.setQuad q).2 } }) := by
  unfold processReserved
  cases f.toGray with
  | error e => rfl
  | ok input =>
    simp only [ExceptT.run, StateT.run, bind, ExceptT.bind, ExceptT.mk, StateT.bind, pure,
      ExceptT.pure, ExceptT.bindCont, monadLift, MonadLift.monadLift, ExceptT.lift, StateT.pure,
      Functor.map, modify, modifyGet, MonadStateOf.modifyGet]
    generalize stagesFor { width := input.width, height := input.height } p = res
    obtain ⟨r, p1⟩ := res
    cases r with
    | error e => rfl
    | ok c =>
      simp only [correct]
      generalize c.transform.setQuad q = rt
      obtain ⟨r1, t⟩ := rt
      cases r1 with
      | error e => rfl
      | ok u =>
        simp only [StateT.map, StateT.modifyGet, StateT.bind, ExceptT.bindCont, bind,
          Except.bind, pure, Except.pure]
        cases t.apply input with
        | error e => rfl
        | ok warped =>
          simp only [bind, pure, StateT.bind, ExceptT.bindCont, StateT.pure]
          cases c.blur.apply warped <;> rfl

/-- Processing keeps a pipeline consistent and leaves its gate as it was, whatever the frame
    and the outline. -/
theorem Consistent.keeps_processReserved {p : Pipeline} (hp : p.Consistent) (f : Frame)
    (q : Quad) : Keeps p ((processReserved f q).run.run p).2 := by
  rw [processReserved_run]
  split
  · exact Keeps.refl hp
  · rename_i input _
    have hk := hp.keeps_stagesFor ⟨input.width, input.height⟩
    split
    · rename_i e p1 h
      rw [h] at hk
      exact hk
    · rename_i c p1 h
      rw [h] at hk
      obtain ⟨m, hm⟩ := TransformStage.setQuad_snd c.transform q
      rw [hm]
      exact hk.trans (hk.consistent.keeps_withMapping (stagesFor_ok h).1 m)

/-- The tail of processing reports no exhausted memory: only a staging allocates. -/
theorem correct_errorsIn (f : Frame) (q : Quad) (input : GrayImage) (c : StageChain) :
    (correct f q input c (c.transform.setQuad q)).ErrorsIn fun e => ¬ e.Exhausts := by
  simp only [correct, Except.errorsIn_bind, Except.errorsIn_mapError, Except.errorsIn_pure,
    implies_true, and_true]
  refine ⟨(TransformStage.setQuad_errorsIn _ _).mono ?_, fun _ _ =>
    ⟨(TransformStage.apply_errorsIn _ _).mono ?_, fun _ _ => (BlurStage.apply_errorsIn _ _).mono ?_⟩⟩
  · rintro e (⟨s, rfl⟩ | ⟨f, rfl⟩) ⟨r, u, b, h⟩ <;> cases h
  · rintro e (⟨w, h, aw, ah, rfl⟩ | ⟨s, rfl⟩ | ⟨f, rfl⟩) ⟨r, u, b, h⟩ <;> cases h
  · rintro e ⟨w, h, aw, ah, rfl⟩ ⟨r, u, b, h⟩
    cases h

/-- A frame that fails for exhausted texture memory leaves the pipeline without stages. -/
theorem processReserved_exhausts {f : Frame} {q : Quad} {p p' : Pipeline} {e : FrameFailure}
    (h : (processReserved f q).run.run p = (.error e, p')) (he : e.Exhausts) : p'.chain = none := by
  rw [processReserved_run] at h
  split at h
  · -- a frame that cannot be read fails for its pixel format
    rename_i err herr
    cases h
    obtain ⟨r, u, b, hx⟩ := he
    cases hx
    exact absurd ((Frame.toGray_errorsIn f).of_eq_error herr) (by simp)
  · split at h
    · cases h
      exact stagesFor_error ‹_›
    · -- the outline, the warp or the blur failed, none of which allocates
      rename_i c p1 _
      have h1 : correct f q _ c (c.transform.setQuad q) = .error e := congrArg Prod.fst h
      exact absurd he ((correct_errorsIn f q _ c).of_eq_error h1)

/-- Submitting reserves the pipeline, processes the frame and releases the reservation, or
    skips the frame while the pipeline is reserved. -/
theorem submit_run (f : Frame) (q : Quad) (p : Pipeline) :
    (submit f q).run.run p =
      match p.tryReserve with
      | none => (.ok .skipped, p)
      | some p1 =>
        match (processReserved f q).run.run p1 with
        | (.ok c, p2) => (.ok (.corrected c), p2.release)
        | (.error e, p2) => (.error e, p2.release) := by
  unfold submit
  simp only [ExceptT.run, StateT.run, bind, ExceptT.bind, ExceptT.mk, get, getThe,
    MonadStateOf.get, set, StateT.bind, pure, ExceptT.pure, ExceptT.bindCont, liftM, monadLift,
    MonadLift.monadLift, ExceptT.lift, StateT.get, Functor.map, StateT.map, tryCatch,
    tryCatchThe, MonadExceptOf.tryCatch, ExceptT.tryCatch, ExceptT.map, modify, modifyGet,
    MonadStateOf.modifyGet]
  cases p.tryReserve with
  | none => rfl
  | some p1 =>
    simp only [StateT.map, StateT.bind, StateT.set, ExceptT.bindCont, bind, pure]
    generalize processReserved f q p1 = res
    obtain ⟨r, p2⟩ := res
    cases r <;> rfl

/-- Submitting changes the pipeline as a reservation, a processing and a release would. -/
theorem submit_state (f : Frame) (q : Quad) (p : Pipeline) :
    ((submit f q).run.run p).2 =
      match p.tryReserve with
      | none => p
      | some p1 => ((processReserved f q).run.run p1).2.release := by
  rw [submit_run]
  split
  · rfl
  · split <;> simp_all

/-- A frame that is corrected leaves stages for its size. -/
theorem processReserved_ok {f : Frame} {q : Quad} {p p' : Pipeline} {img : CorrectedImage}
    (h : (processReserved f q).run.run p = (.ok img, p')) :
    ∃ c, p'.chain = some c ∧ c.frameSize = ⟨f.width, f.height⟩ := by
  rw [processReserved_run] at h
  split at h
  · cases h
  · rename_i input hgray
    have hsize := Frame.toGray_size hgray
    split at h
    · cases h
    · rename_i c p1 hst
      have hp' := congrArg Prod.snd h
      subst hp'
      refine ⟨_, rfl, ?_⟩
      rw [(stagesFor_ok hst).2, hsize.1, hsize.2]

/-! ## The gate -/

theorem tryReserve_eq_some {p p' : Pipeline} :
    p.tryReserve = some p' ↔ p.state ≠ .processing ∧ { p with state := .processing } = p' := by
  unfold tryReserve
  split <;> simp_all

theorem tryReserve_isSome (p : Pipeline) : p.tryReserve.isSome ↔ p.state ≠ .processing := by
  unfold tryReserve
  split <;> simp_all

/-- The gate state is no part of consistency. -/
theorem Consistent.withState {p : Pipeline} (hp : p.Consistent) (s : PipelineState) :
    ({ p with state := s } : Pipeline).Consistent :=
  ⟨hp.configured, hp.live, hp.fits, hp.budget⟩

@[simp] theorem teardown_chain (p : Pipeline) : p.teardown.chain = none := by
  unfold teardown
  dsimp only
  split <;> simp

@[simp] theorem teardown_settings (p : Pipeline) : p.teardown.settings = p.settings := by
  unfold teardown
  dsimp only
  split <;> simp

@[simp] theorem teardown_budget (p : Pipeline) : p.teardown.arena.budget = p.arena.budget := by
  unfold teardown
  dsimp only
  split <;> simp

/-- A teardown leaves a reserved pipeline reserved and makes any other idle. -/
theorem teardown_state (p : Pipeline) :
    p.teardown.state = if p.state = .processing then .processing else .idle := by
  unfold teardown
  dsimp only
  split
  · rename_i h
    simp only [dropChain_state] at h
    simp [h]
  · rename_i h
    simp only [dropChain_state] at h ⊢
    cases hs : p.state <;> simp_all

/-- A released pipeline is ready exactly when it keeps stages. -/
theorem Consistent.release_state {p : Pipeline} (hp : p.Consistent) :
    p.release.state = if p.chain.isSome then .ready else .idle := by
  unfold Pipeline.release
  dsimp only
  rw [hp.configured]

theorem Consistent.teardown {p : Pipeline} (hp : p.Consistent) : p.teardown.Consistent := by
  have hlive : p.teardown.arena.live = [] := by
    unfold Pipeline.teardown
    dsimp only
    split
    · exact hp.dropChain_live
    · exact hp.dropChain_live
  refine ⟨?_, by simp [hlive], by simp, by simp [TextureArena.bytesInUse_eq_sum, hlive]⟩
  unfold Pipeline.teardown
  dsimp only
  split <;> simp

/-! ## The gate and the reservations held -/

/-- The gate follows the reservations held: at most one is out, the pipeline is processing
    exactly while one is, and otherwise it is ready exactly when it keeps stages. -/
structure Gate (p : Pipeline) (permits : Nat) : Prop where
  consistent : p.Consistent
  atMostOne : permits ≤ 1
  processing : p.state = .processing ↔ permits = 1
  released : permits = 0 → p.state = if p.chain.isSome then .ready else .idle

theorem gate_ofConfig (c : ScanConfig) : (ofConfig c).Gate 0 :=
  ⟨consistent_ofConfig c, Nat.zero_le _, by simp [ofConfig], fun _ => rfl⟩

theorem Gate.permits_eq_one {p : Pipeline} {n : Nat} (hg : p.Gate n) (h : n ≠ 0) : n = 1 := by
  have := hg.atMostOne
  omega

/-- A pipeline that is not processing has no reservation out. -/
theorem Gate.permits_eq_zero {p : Pipeline} {n : Nat} (hg : p.Gate n)
    (h : p.state ≠ .processing) : n = 0 := by
  rcases Nat.le_one_iff_eq_zero_or_eq_one.1 hg.atMostOne with h0 | h1
  · exact h0
  · exact absurd (hg.processing.2 h1) h

theorem ready_or_idle_ne_processing (b : Bool) :
    (if b then PipelineState.ready else .idle) ≠ .processing := by
  cases b <;> simp

/-- Once released, a consistent pipeline has no reservation out. -/
theorem gate_release {p : Pipeline} (hp : p.Consistent) : p.release.Gate 0 := by
  have hs := hp.release_state
  refine ⟨hp.withState _, Nat.zero_le _, ?_, fun _ => hs⟩
  rw [hs]
  exact ⟨fun h => absurd h (ready_or_idle_ne_processing _), fun h => nomatch h⟩

/-- A reservation is granted only while none is out, and then it is the one out. -/
theorem Gate.tryReserve {p p' : Pipeline} {n : Nat} (hg : p.Gate n)
    (hr : p.tryReserve = some p') : n = 0 ∧ p'.Gate 1 := by
  obtain ⟨hfree, rfl⟩ := tryReserve_eq_some.1 hr
  exact ⟨hg.permits_eq_zero hfree, hg.consistent.withState _, Nat.le_refl _, by simp,
    fun h => nomatch h⟩

/-- What a processing keeps leaves the reservation out as it was. -/
theorem Gate.keeps {p p' : Pipeline} (hg : p.Gate 1) (hk : Keeps p p') : p'.Gate 1 :=
  ⟨hk.consistent, hg.atMostOne, by rw [hk.state]; exact hg.processing, fun h => nomatch h⟩

theorem Gate.teardown {p : Pipeline} {n : Nat} (hg : p.Gate n) : p.teardown.Gate n := by
  refine ⟨hg.consistent.teardown, hg.atMostOne, ?_, ?_⟩
  · rw [teardown_state, ← hg.processing]
    split <;> simp_all
  · -- with no reservation out the pipeline was not processing, and ends idle
    intro h0
    have hs : p.state ≠ .processing := fun h => by
      have := hg.processing.1 h
      omega
    rw [teardown_state, if_neg hs, teardown_chain]
    rfl

end Pipeline

/-! ## Clients and their reservations -/

/-- What a client does with the pipeline. -/
inductive PipelineOp where
  /-- asks for a reservation -/
  | reserve
  /-- drops the reservation it holds -/
  | release
  /-- processes a frame under the reservation it holds -/
  | process (f : Frame) (q : Quad)
  | submit (f : Frame) (q : Quad)
  | teardown

/-- The pipeline and the number of reservations its clients hold. -/
structure PipelineWorld where
  pipeline : Pipeline
  permits : Nat

namespace PipelineWorld

/-- A fresh pipeline for a configuration, with no reservation held. -/
def init (c : ScanConfig) : PipelineWorld := ⟨Pipeline.ofConfig c, 0⟩

/-- One operation.  Dropping or using a reservation needs one to be held. -/
def step (w : PipelineWorld) : PipelineOp → PipelineWorld
  | .reserve =>
    match w.pipeline.tryReserve with
    | some p => ⟨p, w.permits + 1⟩
    | none => w
  | .release => if w.permits = 0 then w else ⟨w.pipeline.release, w.permits - 1⟩
  | .process f q =>
    if w.permits = 0 then w
    else ⟨((Pipeline.processReserved f q).run.run w.pipeline).2, w.permits⟩
  | .submit f q => ⟨((Pipeline.submit f q).run.run w.pipeline).2, w.permits⟩
  | .teardown => ⟨w.pipeline.teardown, w.permits⟩

/-- The world after a sequence of operations on a fresh pipeline. -/
def run (c : ScanConfig) (ops : List PipelineOp) : PipelineWorld := ops.foldl step (init c)

/-- The gate follows the reservations, and the pipeline keeps the configuration's settings
    and budget. -/
structure Inv (c : ScanConfig) (w : PipelineWorld) : Prop where
  gate : w.pipeline.Gate w.permits
  settings : w.pipeline.settings = (Pipeline.ofConfig c).settings
  budget : w.pipeline.arena.budget = c.device.memoryBudgetBytes

theorem inv_init (c : ScanConfig) : Inv c (init c) := ⟨Pipeline.gate_ofConfig c, rfl, rfl⟩

theorem inv_reserve {c : ScanConfig} {w : PipelineWorld} (hw : Inv c w) :
    Inv c (w.step .reserve) := by
  simp only [step]
  cases hr : w.pipeline.tryReserve with
  | none => exact hw
  | some p =>
    obtain ⟨h0, hg⟩ := hw.gate.tryReserve hr
    obtain ⟨hfree, rfl⟩ := Pipeline.tryReserve_eq_some.1 hr
    rw [h0]
    exact ⟨hg, hw.settings, hw.budget⟩

theorem inv_release {c : ScanConfig} {w : PipelineWorld} (hw : Inv c w) :
    Inv c (w.step .release) := by
  simp only [step]
  split
  · exact hw
  · rename_i hne
    rw [hw.gate.permits_eq_one hne]
    exact ⟨Pipeline.gate_release hw.gate.consistent, hw.settings, hw.budget⟩

theorem inv_process {c : ScanConfig} {w : PipelineWorld} (hw : Inv c w) (f : Frame) (q : Quad) :
    Inv c (w.step (.process f q)) := by
  simp only [step]
  split
  · exact hw
  · rename_i hne
    have hk := hw.gate.consistent.keeps_processReserved f q
    have h1 := hw.gate.permits_eq_one hne
    have hg : w.pipeline.Gate 1 := h1 ▸ hw.gate
    refine ⟨?_, hk.settings.trans hw.settings, hk.budget.trans hw.budget⟩
    dsimp only
    rw [h1]
    exact hg.keeps hk

theorem inv_submit {c : ScanConfig} {w : PipelineWorld} (hw : Inv c w) (f : Frame) (q : Quad) :
    Inv c (w.step (.submit f q)) := by
  simp only [step, Pipeline.submit_state]
  cases hr : w.pipeline.tryReserve with
  | none => exact hw
  | some p1 =>
    -- reserved, processed and released within the one step
    obtain ⟨h0, hg⟩ := hw.gate.tryReserve hr
    obtain ⟨-, rfl⟩ := Pipeline.tryReserve_eq_some.1 hr
    have hk := hg.consistent.keeps_processReserved f q
    rw [h0]
    exact ⟨Pipeline.gate_release hk.consistent, hk.settings.trans hw.settings,
      hk.budget.trans hw.budget⟩

theorem inv_teardown {c : ScanConfig} {w : PipelineWorld} (hw : Inv c w) :
    Inv c (w.step .teardown) := by
  simp only [step]
  exact ⟨hw.gate.teardown, by simp [hw.settings], by simp [hw.budget]⟩

/-- Every operation keeps the invariant. -/
theorem inv_step {c : ScanConfig} {w : PipelineWorld} (hw : Inv c w) (op : PipelineOp) :
    Inv c (w.step op) := by
  cases op with
  | reserve => exact inv_reserve hw
  | release => exact inv_release hw
  | process f q => exact inv_process hw f q
  | submit f q => exact inv_submit hw f q
  | teardown => exact inv_teardown hw

theorem inv_foldl {c : ScanConfig} {w : PipelineWorld} (hw : Inv c w) (ops : List PipelineOp) :
    Inv c (ops.foldl step w) := by
  induction ops generalizing w with
  | nil => exact hw
  | cons op ops ih => exact ih (inv_step hw op)

theorem inv_run (c : ScanConfig) (ops : List PipelineOp) : Inv c (run c ops) :=
  inv_foldl (inv_init c) ops

/-- Over every sequence of operations on a fresh pipeline: at most one reservation is out, a
    reservation is granted exactly when none is, the pipeline is processing exactly while one
    is out and otherwise ready exactly when it keeps stages; the arena holds the two canonical
    textures while stages are kept and nothing otherwise, within the budget; kept stages map
    frames of their size onto the canonical size; and a frame processed under the reservation
    leaves stages for its size when corrected, and none when it fails for exhausted texture
    memory. -/
theorem run_gate_and_textures (c : ScanConfig) (ops : List PipelineOp) :
    let w := run c ops
    let canonical : Size := ⟨c.canonical.width, c.canonical.height⟩
    w.permits ≤ 1 ∧ (w.pipeline.tryReserve.isSome ↔ w.permits = 0) ∧
      (w.pipeline.state = .processing ↔ w.permits = 1) ∧
      (w.permits = 0 →
        w.pipeline.state = if w.pipeline.chain.isSome then .ready else .idle) ∧
      w.pipeline.bytesInUse = (if w.pipeline.chain.isSome then 2 * canonical.pixels else 0) ∧
      w.pipeline.bytesInUse ≤ c.device.memoryBudgetBytes ∧
      (∀ ch, w.pipeline.chain = some ch → ch.transform.input = ch.frameSize ∧
        ch.transform.output = canonical ∧ ch.blur.size = canonical) ∧
      (∀ f q img, w.permits = 1 →
        ((Pipeline.processReserved f q).run.run w.pipeline).1 = .ok img →
        ∃ ch, (w.step (.process f q)).pipeline.chain = some ch ∧
          ch.frameSize = ⟨f.width, f.height⟩) ∧
      (∀ f q e, w.permits = 1 →
        ((Pipeline.processReserved f q).run.run w.pipeline).1 = .error e → e.Exhausts →
        (w.step (.process f q)).pipeline.chain = none) := by
  intro w canonical
  have hw : Inv c w := inv_run c ops
  have hg := hw.gate
  have hset : w.pipeline.settings.output = canonical := by rw [hw.settings]; rfl
  refine ⟨hg.atMostOne, ?_, hg.processing, hg.released, ?_, ?_, ?_, ?_, ?_⟩
  · -- a reservation is granted exactly when the pipeline is not processing
    rw [Pipeline.tryReserve_isSome, Ne, hg.processing]
    have := hg.atMostOne
    omega
  · rw [hg.consistent.bytesInUse, hset]
  · rw [← hw.budget]
    exact hg.consistent.budget
  · intro ch hch
    have hfits := hg.consistent.fits ch hch
    exact ⟨hfits.input, hfits.output.trans hset, hfits.blur.trans hset⟩
  · intro f q img h1 hok
    simp only [step, h1, Nat.one_ne_zero, ↓reduceIte]
    exact Pipeline.processReserved_ok (Prod.ext hok rfl)
  · intro f q e h1 herr he
    simp only [step, h1, Nat.one_ne_zero, ↓reduceIte]
    exact Pipeline.processReserved_exhausts (Prod.ext herr rfl) he

end PipelineWorld

end CardOcr
