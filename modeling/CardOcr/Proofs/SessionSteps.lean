import CardOcr.Proofs.PipelineInvariant
import CardOcr.Session.Basic

/-!
# Session operations as transitions

Each session operation runs in `SessionM`; here each is given as a plain function of the
session: what it answers and the session it leaves, or the fault that ends it.  The lemmas
`SessionM.run_*` push `ExceptT.run`/`StateT.run` through the monad's operations, and each
operation then has one equation: `poll_run`, `admitReserved_run`, `checkFrameLimit_run`,
`takeReading_run`, `dropFrame_run`, `runFrame_eq`, `processReserved_run` and
`processFrame_run`.  Later proofs cite these equations and never unfold the operations.

What each phase can leave is then read off once, as a disjunction of its outcomes
(`admission_ok`, `tallyOutcome_eq_ok`, `readingOutcome_eq_ok`, `conclude_eq_ok`,
`processReserved_eq_ok`), so that an invariant is carried through a frame phase by phase.

A client of a session holds reservations of its pipeline (`SessionWorld`); `SessionWorld.step`
is one operation of the client, and `SessionWorld.runFrom` a sequence of them, which stops at
the first fault.  `SessionWorld.StepsTo` lists the ways one operation can answer, so that a
property of every step is proved one case per way (`stepsTo_of_step`).

## Key results

- `processReserved_run`: a reserved frame is admitted, run, and concluded (`Session.conclude`),
  after the flag rose if another thread cancelled while it ran
- `processFrame_run`: a frame is processed under a fresh reservation, or skipped
- `processReserved_eq_ok`: a reserved frame is refused, or runs in an active session and is
  concluded
- `stepsTo_of_step`: every answer of an operation is one of the cases of `StepsTo`
- `start_started`: a started session is active, with the empty tally of its configuration's
  layout and a pipeline without stages (`Session.Started`)
-/

namespace CardOcr

/-! ## Running session operations -/

namespace SessionM

variable {α β : Type} (s : Session)

/-- The rest `f` of a computation after a step that answered and left `p`. -/
def andThen (f : α → SessionM β) (p : Except ScanError α × Session) :
    Except Fault (Except ScanError β × Session) :=
  match p.1 with
  | .ok a => (f a).run.run p.2
  | .error e => .ok (.error e, p.2)

@[simp] theorem andThen_ok (f : α → SessionM β) (a : α) :
    andThen f (.ok a, s) = (f a).run.run s := rfl

@[simp] theorem andThen_error (f : α → SessionM β) (e : ScanError) :
    andThen f (.error e, s) = .ok (.error e, s) := rfl

@[simp] theorem run_pure (a : α) : (pure a : SessionM α).run.run s = .ok (.ok a, s) := rfl

@[simp] theorem run_throw (e : ScanError) : (throw e : SessionM α).run.run s = .ok (.error e, s) :=
  rfl

@[simp] theorem run_get : (get : SessionM Session).run.run s = .ok (.ok s, s) := rfl

@[simp] theorem run_modify (f : Session → Session) :
    (modify f : SessionM PUnit).run.run s = .ok (.ok ⟨⟩, f s) := rfl

@[simp] theorem run_bind (x : SessionM α) (f : α → SessionM β) :
    (x >>= f).run.run s = (x.run.run s).bind (andThen f) := by
  simp only [bind, ExceptT.bind, ExceptT.run, ExceptT.mk, StateT.bind, StateT.run,
    ExceptT.bindCont]
  congr
  funext p
  obtain ⟨r, s'⟩ := p
  cases r <;> rfl

/-- A handler runs on the session that the failed computation left. -/
@[simp] theorem run_tryCatch (x : SessionM α) (h : ScanError → SessionM α) :
    (tryCatch x h).run.run s = (x.run.run s).bind fun p =>
      match p.1 with
      | .ok a => .ok (.ok a, p.2)
      | .error e => (h e).run.run p.2 := by
  simp only [tryCatch, tryCatchThe, MonadExceptOf.tryCatch, ExceptT.tryCatch, ExceptT.run,
    ExceptT.mk, bind, StateT.bind, StateT.run]
  congr
  funext p
  obtain ⟨r, s'⟩ := p
  cases r <;> rfl

@[simp] theorem run_lift (x : StateT Session (Except Fault) α) :
    (liftM x : SessionM α).run.run s = (x s).bind fun p => .ok (.ok p.1, p.2) := rfl

@[simp] theorem run_ite (c : Prop) [Decidable c] (x y : SessionM α) :
    (if c then x else y).run.run s = if c then x.run.run s else y.run.run s := by
  split <;> rfl

@[simp] theorem run_liftFault (x : Except Fault α) :
    (Session.liftFault x).run.run s = x.bind fun a => .ok (.ok a, s) := by
  cases x <;> rfl

end SessionM

@[simp] theorem Except.ok_bind {ε α β : Type} (a : α) (f : α → Except ε β) :
    (Except.ok a : Except ε α).bind f = f a := rfl

namespace Session

@[simp] theorem finish_state (s : Session) (st : SessionState) : (s.finish st).state = st := rfl

@[simp] theorem finish_tally (s : Session) (st : SessionState) : (s.finish st).tally = none := rfl

@[simp] theorem finish_stats (s : Session) (st : SessionState) : (s.finish st).stats = s.stats :=
  rfl

@[simp] theorem finish_pipeline (s : Session) (st : SessionState) :
    (s.finish st).pipeline = s.pipeline.teardown := rfl

@[simp] theorem finish_cancelRequested (s : Session) (st : SessionState) :
    (s.finish st).cancelRequested = s.cancelRequested := rfl

@[simp] theorem finish_config (s : Session) (st : SessionState) :
    (s.finish st).config = s.config := rfl

/-! ## Polling -/

theorem ensureActive_run (s : Session) :
    ensureActive.run.run s =
      if s.state = .active then .ok (.ok (), s) else .ok (.error .sessionEnded, s) := by
  unfold ensureActive
  by_cases h : s.state = .active <;>
    simp only [h, SessionM.run_bind, SessionM.run_get, Except.ok_bind, SessionM.andThen_ok,
      SessionM.run_throw, SessionM.run_pure, ne_eq, not_true_eq_false, not_false_eq_true,
      ↓reduceIte]

/-- What a poll answers and leaves: an ended session refuses it; a cancellation, then the time
    limit, end an active one. -/
def pollOutcome (s : Session) : Except ScanError Unit × Session :=
  if s.state ≠ .active then (.error .sessionEnded, s)
  else if s.cancelRequested then (.error .cancelled, s.finish .cancelled)
  else if s.timeLimitReached then (.error (.timedOut s.stats.framesReceived), s.finish .timedOut)
  else (.ok (), s)

theorem poll_run (s : Session) : poll.run.run s = .ok s.pollOutcome := by
  unfold poll pollOutcome timeOut
  by_cases h : s.state = .active
  · by_cases hc : s.cancelRequested
    · simp only [h, hc, ensureActive_run, SessionM.run_bind, Except.ok_bind,
        SessionM.andThen_ok, SessionM.run_get, SessionM.run_throw, SessionM.run_modify,
        SessionM.andThen_error, ne_eq, not_true_eq_false, ↓reduceIte]
    · by_cases ht : s.timeLimitReached
      · simp only [h, hc, ht, ensureActive_run, SessionM.run_bind, Except.ok_bind,
          SessionM.andThen_ok, SessionM.run_get, SessionM.run_pure, SessionM.run_throw,
          SessionM.run_modify, ne_eq, not_true_eq_false, ↓reduceIte, finish_stats,
          Bool.false_eq_true]
      · simp only [h, hc, ht, ensureActive_run, SessionM.run_bind, Except.ok_bind,
          SessionM.andThen_ok, SessionM.run_get, SessionM.run_pure, ne_eq, not_true_eq_false,
          ↓reduceIte, Bool.false_eq_true]
  · simp only [h, ensureActive_run, SessionM.run_bind, Except.ok_bind, SessionM.andThen_error,
      ne_eq, not_false_eq_true, ↓reduceIte]

/-! ## Admitting a reserved frame -/

/-- The session with its reservation of the pipeline ended. -/
def released (s : Session) : Session := { s with pipeline := s.pipeline.release }

/-- The session with one more frame received. -/
def received (s : Session) : Session :=
  { s with stats := { s.stats with framesReceived := s.stats.framesReceived + 1 } }

/-- What admitting a reserved frame answers and leaves: the frame is counted and the session
    polled; a refused frame ends the reservation. -/
def admission (s : Session) : Except ScanError Unit × Session :=
  if s.state = .active then
    match s.received.pollOutcome with
    | (.ok (), s1) => (.ok (), s1)
    | (.error e, s1) => (.error e, s1.released)
  else (.error .sessionEnded, s.released)

theorem admitReserved_run (s : Session) : admitReserved.run.run s = .ok s.admission := by
  unfold admitReserved admission received
  by_cases h : s.state = .active
  · rw [if_pos h]
    simp only [SessionM.run_tryCatch, SessionM.run_bind, ensureActive_run, if_pos h,
      Except.ok_bind, SessionM.andThen_ok, SessionM.run_modify, poll_run]
    generalize pollOutcome { s with stats := { s.stats with framesReceived := s.stats.framesReceived + 1 } } = po
    obtain ⟨r1, s1⟩ := po
    cases r1 <;> rfl
  · simp only [h, ↓reduceIte, SessionM.run_tryCatch, SessionM.run_bind, ensureActive_run,
      Except.ok_bind, SessionM.andThen_error]
    rfl

/-! ## Concluding a frame -/

/-- The frame limit, checked after a frame that did not complete the scan. -/
def limitOutcome (f : Frame) (slots : Nat) (preview : Option GrayImage) (s : Session) :
    Except ScanError ScanStatus × Session :=
  match s.config.session.maxFrames with
  | some limit =>
    if s.stats.framesReceived ≥ limit then
      (.error (.timedOut s.stats.framesReceived), s.finish .timedOut)
    else (.ok (.scanning (s.progress f.sequence slots preview)), s)
  | none => (.ok (.scanning (s.progress f.sequence slots preview)), s)

theorem checkFrameLimit_run (f : Frame) (slots : Nat) (preview : Option GrayImage) (s : Session) :
    (checkFrameLimit f slots preview).run.run s = .ok (limitOutcome f slots preview s) := by
  unfold checkFrameLimit limitOutcome
  simp only [SessionM.run_bind, SessionM.run_get, Except.ok_bind, SessionM.andThen_ok]
  cases s.config.session.maxFrames with
  | none => rfl
  | some limit =>
    by_cases hl : s.stats.framesReceived ≥ limit
    · simp only [hl, ↓reduceIte, timeOut, SessionM.run_bind, SessionM.run_modify,
        Except.ok_bind, SessionM.andThen_ok, SessionM.run_get, SessionM.run_pure,
        SessionM.run_throw, finish_stats, SessionM.andThen_error]
    · simp only [hl, ↓reduceIte, SessionM.run_pure]

/-- What tallying a reading gives: the card once the assembler settles, and the new tally.  An
    ended session has no tally and reads nothing. -/
def tallyOutcome (r : FrameReading) (s : Session) : Except Fault (Option CardInfo × Session) :=
  match s.tally with
  | none => .ok (none, s)
  | some t => (VoteTally.update s.config.aggregator t r).map fun p =>
    match p.2 with
    | .ready card => (some card, { s with tally := some p.1 })
    | .notYet st => (none, { s with tally := some p.1, stability := st })

theorem tallyReading_run (r : FrameReading) (s : Session) :
    (tallyReading r).run.run s = (s.tallyOutcome r).map fun p => (.ok p.1, p.2) := by
  unfold tallyReading tallyOutcome
  simp only [SessionM.run_bind, SessionM.run_get, Except.ok_bind, SessionM.andThen_ok]
  cases s.tally with
  | none => rfl
  | some t =>
    simp only [SessionM.run_bind, SessionM.run_liftFault]
    cases VoteTally.update s.config.aggregator t r with
    | error e => rfl
    | ok p =>
      obtain ⟨t', a⟩ := p
      cases a <;> rfl

/-- The session after a frame was read: one more frame processed, no texture failure in a row. -/
def processedOne (s : Session) : Session :=
  { s with exhaustedRun := 0, stats := { s.stats with framesProcessed := s.stats.framesProcessed + 1 } }

/-- What a read frame answers: the report, when its reading completes the card, else the
    progress under the frame limit. -/
def readingOutcome (f : Frame) (reading : FrameReading) (slots : Nat) (preview : Option GrayImage)
    (s : Session) : Except Fault (Except ScanError ScanStatus × Session) :=
  (tallyOutcome reading s.processedOne).map fun p =>
    match p.1 with
    | some card => (.ok (.complete ⟨card, p.2.stats.framesProcessed⟩), p.2.finish .complete)
    | none => limitOutcome f slots preview p.2

theorem takeReading_run (f : Frame) (reading : FrameReading) (slots : Nat)
    (preview : Option GrayImage) (s : Session) :
    (takeReading f reading slots preview).run.run s = readingOutcome f reading slots preview s := by
  unfold takeReading readingOutcome processedOne
  simp only [SessionM.run_bind, SessionM.run_modify, Except.ok_bind, SessionM.andThen_ok,
    tallyReading_run]
  generalize tallyOutcome reading _ = o
  cases o with
  | error e => rfl
  | ok p =>
    obtain ⟨card?, s1⟩ := p
    cases card? with
    | some card => rfl
    | none =>
      simp only [Except.map, Except.ok_bind, SessionM.andThen_ok, checkFrameLimit_run]

/-- What a dropped frame answers: texture failures in a row beyond the retry budget fail the
    session, else the frame limit is checked. -/
def dropOutcome (f : Frame) (e : FrameError) (s : Session) : Except ScanError ScanStatus × Session :=
  let s := { s with stats := s.stats.count e }
  match e with
  | .resourceExhausted _ _ _ =>
    let s := { s with exhaustedRun := s.exhaustedRun + 1 }
    if s.exhaustedRun > s.config.session.resourceRetryBudget then
      (.error (.resourceExhausted s.exhaustedRun), s.finish .failed)
    else limitOutcome f 0 none s
  | _ => limitOutcome f 0 none { s with exhaustedRun := 0 }

theorem dropFrame_run (f : Frame) (e : FrameError) (s : Session) :
    (dropFrame f e).run.run s = .ok (dropOutcome f e s) := by
  unfold dropFrame dropOutcome
  simp only [SessionM.run_bind, SessionM.run_modify, Except.ok_bind, SessionM.andThen_ok]
  cases e
  case resourceExhausted requested inUse budget =>
    simp only [SessionM.run_bind, SessionM.run_modify, SessionM.run_get, Except.ok_bind,
      SessionM.andThen_ok]
    split
    · simp only [SessionM.run_bind, SessionM.run_modify, SessionM.run_throw, Except.ok_bind,
        SessionM.andThen_ok, SessionM.andThen_error]
    · simp only [checkFrameLimit_run]
  all_goals simp only [SessionM.run_bind, SessionM.run_modify, Except.ok_bind,
    SessionM.andThen_ok, checkFrameLimit_run]

/-- How a reserved frame ends once it has run: a cancellation drops its result; otherwise a
    reading is tallied and an error drops the frame. -/
def conclude (f : Frame) (result : Except FrameError (FrameReading × Nat × Option GrayImage))
    (s : Session) : Except Fault (Except ScanError ScanStatus × Session) :=
  if s.cancelRequested then .ok (.error .cancelled, s.finish .cancelled)
  else
    match result with
    | .ok (reading, slots, preview) => readingOutcome f reading slots preview s
    | .error e => .ok (dropOutcome f e s)

/-! ## Processing a frame -/

/-- Reads a corrected card: the reading of every glyph group, the number of slots found and
    the preview. -/
def readCorrected (s : Session) (c : CorrectedImage) :
    Except Fault (FrameReading × Nat × Option GrayImage) := do
  let d ← s.layout.detect s.config.detector c.image
  let reading ← s.readDetection d
  return (reading, d.slotsFound, if s.config.session.emitPreview then some d.image else none)

theorem runFrame_eq (f : Frame) (s : Session) :
    runFrame f s =
      match s.locator.locate f with
      | .error (.error e) => .ok (.error e, s)
      | .error (.fault e) => .error e
      | .ok q =>
        match (Pipeline.processReserved f q).run.run s.pipeline with
        | (.ok c, p) => (s.readCorrected c).map fun x => (.ok x, { s with pipeline := p })
        | (.error (.error e), p) => .ok (.error e, { s with pipeline := p })
        | (.error (.fault e), _) => .error e := by
  unfold runFrame readCorrected
  simp only [bind, StateT.bind, get, getThe, MonadStateOf.get, StateT.get, pure, Except.bind,
    Except.pure]
  -- the outline is found or not, then the pipeline corrects the frame or not
  cases s.locator.locate f with
  | error e => cases e <;> rfl
  | ok q =>
    simp only [StateT.run, StateT.bind, StateT.pure, bind, pure, Except.bind, Except.pure]
    cases ExceptT.run (Pipeline.processReserved f q) s.pipeline with
    | mk r p =>
      cases r with
      | error e => cases e <;> rfl
      | ok c =>
        simp only [set, StateT.set, liftM, monadLift, MonadLift.monadLift, StateT.lift,
          StateT.bind, StateT.pure, bind, pure, Except.bind, Except.pure, Except.map]
        cases s.layout.detect s.config.detector c.image with
        | error e => rfl
        | ok d =>
          dsimp only
          cases s.readDetection d <;> rfl

/-- A reserved frame is admitted and run, and the reservation ended. -/
theorem runReserved_run (f : Frame) (s : Session) :
    (runReserved f).run.run s =
      match s.admission with
      | (.error e, s1) => .ok (.error e, s1)
      | (.ok (), s1) => (runFrame f s1).map fun p => (.ok p.1, p.2.released) := by
  unfold runReserved
  simp only [SessionM.run_bind, admitReserved_run, Except.ok_bind]
  obtain ⟨r1, s1⟩ := s.admission
  cases r1 with
  | error e => rfl
  | ok u =>
    simp only [SessionM.andThen_ok, SessionM.run_bind, SessionM.run_lift]
    cases runFrame f s1 with
    | error e => rfl
    | ok p => rfl

/-- A frame that has run is concluded as `conclude` says. -/
theorem concludeReserved_run (f : Frame)
    (result : Except FrameError (FrameReading × Nat × Option GrayImage)) (s : Session) :
    (concludeReserved f result).run.run s = conclude f result s := by
  unfold concludeReserved conclude
  by_cases hc : s.cancelRequested
  · simp only [hc, ↓reduceIte, SessionM.run_bind, SessionM.run_get, SessionM.run_modify,
      SessionM.run_throw, Except.ok_bind, SessionM.andThen_ok, SessionM.andThen_error]
  · simp only [hc, ↓reduceIte, Bool.false_eq_true, SessionM.run_bind, SessionM.run_get,
      Except.ok_bind, SessionM.andThen_ok]
    cases result with
    | ok x =>
      obtain ⟨reading, slots, preview⟩ := x
      exact takeReading_run f reading slots preview s
    | error e => exact dropFrame_run f e s

/-- The session with its cancellation flag raised when another thread cancelled. -/
def raisedIf (c : Bool) (s : Session) : Session :=
  { s with cancelRequested := s.cancelRequested || c }

/-- A frame admitted with the flag down is concluded with the flag up exactly when another
    thread cancelled while it ran: running it changes only the pipeline. -/
theorem cancelRequested_concluding {s : Session} (hc : s.cancelRequested = false)
    (q : Pipeline) (c : Bool) :
    ({ s.received with pipeline := q }.released.raisedIf c).cancelRequested = c := by
  show (s.cancelRequested || c) = c
  rw [hc, Bool.false_or]

/-- A reserved frame is admitted, run, and concluded with the reservation ended, after the flag
    rose if another thread cancelled meanwhile. -/
theorem processReserved_run (f : Frame) (c : Bool) (s : Session) :
    (processReserved f c).run.run s =
      match s.admission with
      | (.error e, s1) => .ok (.error e, s1)
      | (.ok (), s1) => (runFrame f s1).bind fun p => conclude f p.1 (p.2.released.raisedIf c) := by
  unfold processReserved
  simp only [SessionM.run_bind, runReserved_run]
  obtain ⟨r1, s1⟩ := s.admission
  cases r1 with
  | error e => rfl
  | ok u =>
    dsimp only
    cases runFrame f s1 with
    | error e => rfl
    | ok p =>
      simp only [Except.map, Except.ok_bind, SessionM.andThen_ok, SessionM.run_bind,
        SessionM.run_modify]
      exact concludeReserved_run f p.1 _

/-- The session after a frame skipped for a busy pipeline. -/
def skipped (s : Session) : Session :=
  { s with stats := { s.stats with framesReceived := s.stats.framesReceived + 1,
                                   framesSkipped := s.stats.framesSkipped + 1 } }

/-- A frame is processed under a reservation of its own, or skipped when the pipeline is
    busy. -/
theorem processFrame_run (f : Frame) (c : Bool) (s : Session) :
    (processFrame f c).run.run s =
      if s.state = .active then
        match s.pipeline.tryReserve with
        | some p => (processReserved f c).run.run { s with pipeline := p }
        | none => .ok (.ok (.scanning (s.skipped.progress f.sequence 0 none)), s.skipped)
      else .ok (.error .sessionEnded, s) := by
  unfold processFrame
  by_cases h : s.state = .active
  · rw [if_pos h]
    simp only [SessionM.run_bind, ensureActive_run, if_pos h, Except.ok_bind,
      SessionM.andThen_ok, SessionM.run_get]
    cases s.pipeline.tryReserve with
    | some p =>
      simp only [SessionM.run_bind, SessionM.run_modify, Except.ok_bind, SessionM.andThen_ok]
    | none =>
      simp only [SessionM.run_bind, SessionM.run_modify, Except.ok_bind, SessionM.andThen_ok,
        SessionM.run_get, SessionM.run_pure, skipped]
  · simp only [h, ↓reduceIte, SessionM.run_bind, ensureActive_run, Except.ok_bind,
      SessionM.andThen_error]

/-! ## What each phase can leave

Each phase's outcome as the cases it can end in, so that proofs about a phase go through the
cases instead of unfolding it. -/

/-- A frame is admitted only by an active session whose cancellation flag is clear and whose
    time is not up; it is then counted as received. -/
theorem admission_ok {s s1 : Session} (h : s.admission = (.ok (), s1)) :
    s.state = .active ∧ s.cancelRequested = false ∧ s1 = s.received := by
  unfold admission at h
  split at h
  · rename_i hs
    -- the poll of the counted session let the frame through
    split at h
    · rename_i s2 hp
      cases h
      unfold Session.pollOutcome at hp
      have hna : ¬s.received.state ≠ .active := fun h' => h' hs
      rw [if_neg hna] at hp
      split at hp
      · cases hp
      · split at hp
        · cases hp
        · rename_i hc _
          cases hp
          exact ⟨hs, Bool.eq_false_iff.mpr hc, rfl⟩
    · cases h
  · cases h

theorem admission_of_ended {s : Session} (hs : s.state ≠ .active) :
    s.admission = (.error .sessionEnded, s.released) := by
  unfold admission
  rw [if_neg hs]

/-- Running a frame changes only the pipeline: not at all when no outline is found, else as
    the pipeline processes the frame. -/
theorem runFrame_eq_ok {f : Frame} {s s' : Session}
    {r : Except FrameError (FrameReading × Nat × Option GrayImage)}
    (h : runFrame f s = .ok (r, s')) :
    ∃ p, s' = { s with pipeline := p } ∧
      (p = s.pipeline ∨ ∃ q, p = ((Pipeline.processReserved f q).run.run s.pipeline).2) := by
  rw [runFrame_eq] at h
  split at h
  · cases h
    exact ⟨_, rfl, .inl rfl⟩
  · cases h
  · rename_i q _
    split at h
    · rename_i c p hp
      cases hrc : s.readCorrected c with
      | error e => rw [hrc] at h; cases h
      | ok x =>
        rw [hrc] at h
        cases h
        exact ⟨p, rfl, .inr ⟨q, by rw [hp]⟩⟩
    · rename_i e p hp
      cases h
      exact ⟨p, rfl, .inr ⟨q, by rw [hp]⟩⟩
    · cases h

/-- A reading is tallied into the session's tally, if it still has one; the tally's
    assessment decides whether the card is complete. -/
theorem tallyOutcome_eq_ok {r : FrameReading} {s s' : Session} {card? : Option CardInfo}
    (ht : tallyOutcome r s = .ok (card?, s')) :
    (s.tally = none ∧ card? = none ∧ s' = s) ∨
      ∃ t t' a st, s.tally = some t ∧ VoteTally.update s.config.aggregator t r = .ok (t', a) ∧
        s' = { s with tally := some t', stability := st } ∧
        ∀ card, card? = some card → a = .ready card := by
  unfold tallyOutcome at ht
  split at ht
  · rename_i htally
    cases ht
    exact .inl ⟨htally, rfl, rfl⟩
  · rename_i t htally
    cases hu : VoteTally.update s.config.aggregator t r with
    | error e => rw [hu] at ht; cases ht
    | ok p =>
      rw [hu] at ht
      obtain ⟨t', a⟩ := p
      refine .inr ⟨t, t', a, ?_⟩
      cases a with
      | ready card =>
        cases ht
        exact ⟨_, htally, hu, rfl, fun _ h => by cases h; rfl⟩
      | notYet st =>
        cases ht
        exact ⟨st, htally, hu, rfl, fun _ h => by cases h⟩

/-- A read frame completes the card, or goes on under the frame limit. -/
theorem readingOutcome_eq_ok {f : Frame} {reading : FrameReading} {slots : Nat}
    {preview : Option GrayImage} {s s' : Session} {r : Except ScanError ScanStatus}
    (hr : readingOutcome f reading slots preview s = .ok (r, s')) :
    ∃ card? s2, tallyOutcome reading s.processedOne = .ok (card?, s2) ∧
      ((∃ card, card? = some card ∧ r = .ok (.complete ⟨card, s2.stats.framesProcessed⟩) ∧
          s' = s2.finish .complete) ∨
        (card? = none ∧ (r, s') = limitOutcome f slots preview s2)) := by
  unfold readingOutcome at hr
  cases ht : tallyOutcome reading s.processedOne with
  | error e => rw [ht] at hr; cases hr
  | ok p =>
    rw [ht] at hr
    obtain ⟨card?, s2⟩ := p
    refine ⟨card?, s2, rfl, ?_⟩
    cases card? with
    | some card =>
      cases hr
      exact .inl ⟨card, rfl, rfl, rfl⟩
    | none => exact .inr ⟨rfl, (Except.ok.inj hr).symm⟩

/-- A frame that ran ends cancelled if the flag is up, else with its reading or its error. -/
theorem conclude_eq_ok {f : Frame}
    {result : Except FrameError (FrameReading × Nat × Option GrayImage)} {s s' : Session}
    {r : Except ScanError ScanStatus} (hc : conclude f result s = .ok (r, s')) :
    (s.cancelRequested = true ∧ r = .error .cancelled ∧ s' = s.finish .cancelled) ∨
      (s.cancelRequested = false ∧
        ((∃ reading slots preview, result = .ok (reading, slots, preview) ∧
            readingOutcome f reading slots preview s = .ok (r, s')) ∨
          ∃ e, result = .error e ∧ (r, s') = dropOutcome f e s)) := by
  unfold conclude at hc
  split at hc
  · rename_i hcancel
    cases hc
    exact .inl ⟨hcancel, rfl, rfl⟩
  · rename_i hcancel
    refine .inr ⟨Bool.eq_false_iff.mpr hcancel, ?_⟩
    split at hc
    · exact .inl ⟨_, _, _, rfl, hc⟩
    · exact .inr ⟨_, rfl, (Except.ok.inj hc).symm⟩

/-- A reserved frame is refused on admission, or it is admitted by an active session whose
    flag is clear, runs, and is concluded with the reservation ended. -/
theorem processReserved_eq_ok {f : Frame} {c : Bool} {s s' : Session}
    {r : Except ScanError ScanStatus} (hr : (processReserved f c).run.run s = .ok (r, s')) :
    (∃ e, s.admission = (.error e, s') ∧ r = .error e) ∨
      (s.state = .active ∧ s.cancelRequested = false ∧
        ∃ result s2, runFrame f s.received = .ok (result, s2) ∧
          conclude f result (s2.released.raisedIf c) = .ok (r, s')) := by
  rw [processReserved_run] at hr
  split at hr
  · rename_i e s1 ha
    cases hr
    exact .inl ⟨e, ha, rfl⟩
  · rename_i s1 ha
    obtain ⟨hact, hcancel, rfl⟩ := admission_ok ha
    cases hf : runFrame f s.received with
    | error e => rw [hf] at hr; cases hr
    | ok p =>
      obtain ⟨result, s2⟩ := p
      rw [hf, Except.ok_bind] at hr
      exact .inr ⟨hact, hcancel, result, s2, rfl, hr⟩

/-- A frame is refused by an ended session, skipped while the pipeline is reserved, or
    processed under a reservation of its own. -/
theorem processFrame_eq_ok {f : Frame} {c : Bool} {s s' : Session}
    {r : Except ScanError ScanStatus} (hr : (processFrame f c).run.run s = .ok (r, s')) :
    (s.state ≠ .active ∧ r = .error .sessionEnded ∧ s' = s) ∨
      (s.state = .active ∧ s.pipeline.tryReserve = none ∧
        r = .ok (.scanning (s.skipped.progress f.sequence 0 none)) ∧ s' = s.skipped) ∨
      (s.state = .active ∧ ∃ p, s.pipeline.tryReserve = some p ∧
        (processReserved f c).run.run { s with pipeline := p } = .ok (r, s')) := by
  rw [processFrame_run] at hr
  split at hr
  · rename_i hact
    split at hr
    · rename_i p hp
      exact .inr (.inr ⟨hact, p, hp, hr⟩)
    · rename_i hp
      cases hr
      exact .inr (.inl ⟨hact, hp, rfl, rfl⟩)
  · rename_i hact
    cases hr
    exact .inl ⟨hact, rfl, rfl⟩

/-! ## Starting -/

/-- A session as it starts: active, holding a tally, with a pipeline of its own that holds no
    stages and no reservation. -/
structure Fresh (s : Session) : Prop where
  active : s.state = .active
  tally : s.tally.isSome
  pipeline : s.pipeline = Pipeline.ofConfig s.config

/-- A session as `start` makes it: fresh, with the layout of its configuration and the empty
    tally of that layout. -/
structure Started (s : Session) : Prop where
  fresh : s.Fresh
  layout : CardLayout.ofConfig s.config = .ok s.layout
  tally : s.tally = some (VoteTally.empty s.layout.digitCount s.layout.numberSlots.length)

theorem start_started {c : ScanConfig} {loc : CardLocator} {s : Session}
    (h : start c (Pipeline.ofConfig c) loc = .ok (.ok s)) : s.Started := by
  unfold start at h
  split at h
  · cases h
  · -- building the layout and the reader may fault; otherwise `s` is the new session
    simp only [bind, Except.bind, pure, Except.pure] at h
    split at h
    · cases h
    · rename_i l hl
      split at h
      · cases h
      · cases h
        exact ⟨⟨rfl, rfl, rfl⟩, hl, rfl⟩

theorem start_fresh {c : ScanConfig} {loc : CardLocator} {s : Session}
    (h : start c (Pipeline.ofConfig c) loc = .ok (.ok s)) : s.Fresh :=
  (start_started h).fresh

/-- A session on the default settings without a time limit, as `start` makes it. -/
def sample : Session :=
  let c : ScanConfig := { session := { timeoutSecs := none } }
  let l : CardLayout := match CardLayout.ofConfig c with
    | .ok l => l
    | .error _ => default
  { config := c, pipeline := Pipeline.ofConfig c, locator := default, layout := l,
    reader := default, tally := some (VoteTally.empty l.digitCount l.numberSlots.length) }

theorem sample_started : sample.Started := ⟨⟨rfl, rfl, rfl⟩, rfl, rfl⟩

end Session

/-! ## Clients of a session -/

/-- What a client does with a session: process a frame on its own or under a reservation it
    holds, poll, cancel (directly or through the shared cancellation flag), reserve the
    pipeline or give a reservation up unused, or read the clock.  A frame carries whether
    another thread cancels through the shared flag while it runs. -/
inductive SessionOp where
  | frame (f : Frame) (cancelDuring : Bool)
  | reserved (f : Frame) (cancelDuring : Bool)
  | poll
  | cancel
  | signalCancel
  | reserve
  | drop
  | clock (nanos : Nat)

/-- Whether another thread cancels while the operation's frame runs. -/
def SessionOp.cancelDuring : SessionOp → Bool
  | .frame _ c => c
  | .reserved _ c => c
  | _ => false

/-- What an operation answers.  A client holding no reservation is refused a reserved frame
    and a drop. -/
inductive SessionReply where
  | status (r : Except ScanError ScanStatus)
  | polled (r : Except ScanError Unit)
  | reserved (granted : Bool)
  | done
  | refused

/-- The answer carries a finished scan. -/
def SessionReply.isComplete : SessionReply → Bool
  | .status (.ok (.complete _)) => true
  | _ => false

/-- A session and the number of reservations of its pipeline that its clients hold. -/
structure SessionWorld where
  session : Session
  permits : Nat

namespace SessionWorld

/-- One operation of a client; a fault ends the computation. -/
def step (w : SessionWorld) : SessionOp → Except Fault (SessionReply × SessionWorld)
  | .frame f c => ((Session.processFrame f c).run.run w.session).map fun p =>
      (.status p.1, { w with session := p.2 })
  | .reserved f c =>
    if w.permits = 0 then .ok (.refused, w)
    else ((Session.processReserved f c).run.run w.session).map fun p =>
      (.status p.1, ⟨p.2, w.permits - 1⟩)
  | .poll => (Session.poll.run.run w.session).map fun p => (.polled p.1, { w with session := p.2 })
  | .cancel => .ok (.done, { w with session := w.session.cancel })
  | .signalCancel => .ok (.done, { w with session := { w.session with cancelRequested := true } })
  | .reserve =>
    match w.session.pipeline.tryReserve with
    | some p => .ok (.reserved true, ⟨{ w.session with pipeline := p }, w.permits + 1⟩)
    | none => .ok (.reserved false, w)
  | .drop =>
    if w.permits = 0 then .ok (.refused, w) else .ok (.done, ⟨w.session.released, w.permits - 1⟩)
  | .clock nanos => .ok (.done, { w with session := { w.session with elapsedNanos := nanos } })

/-- Operations one after another, with their answers; the first fault ends the run. -/
def runFrom (w : SessionWorld) : List SessionOp → Except Fault (List SessionReply × SessionWorld)
  | [] => .ok ([], w)
  | op :: ops =>
    match w.step op with
    | .error e => .error e
    | .ok (r, w1) => (runFrom w1 ops).map fun p => (r :: p.1, p.2)

theorem runFrom_cons_eq_ok {w w' : SessionWorld} {op : SessionOp} {ops : List SessionOp}
    {rs : List SessionReply} (h : runFrom w (op :: ops) = .ok (rs, w')) :
    ∃ r w1 rs1, w.step op = .ok (r, w1) ∧ runFrom w1 ops = .ok (rs1, w') ∧ rs = r :: rs1 := by
  unfold runFrom at h
  split at h
  · cases h
  · rename_i r w1 hs
    cases hr : runFrom w1 ops with
    | error e => rw [hr] at h; cases h
    | ok p =>
      rw [hr] at h
      cases h
      exact ⟨r, w1, p.1, hs, hr, rfl⟩

/-- What one operation does, as one case per way `step` answers: the operation `op` takes `w`
    to `w'` with the answer `r`. -/
inductive StepsTo (w : SessionWorld) : SessionOp → SessionReply → SessionWorld → Prop where
  | frame (f : Frame) (c : Bool) {res : Except ScanError ScanStatus} {s' : Session}
      (h : (Session.processFrame f c).run.run w.session = .ok (res, s')) :
      StepsTo w (.frame f c) (.status res) { w with session := s' }
  | refusedFrame (f : Frame) (c : Bool) (h0 : w.permits = 0) : StepsTo w (.reserved f c) .refused w
  | reserved (f : Frame) (c : Bool) {res : Except ScanError ScanStatus} {s' : Session}
      (h0 : w.permits ≠ 0) (h : (Session.processReserved f c).run.run w.session = .ok (res, s')) :
      StepsTo w (.reserved f c) (.status res) ⟨s', w.permits - 1⟩
  | poll : StepsTo w .poll (.polled w.session.pollOutcome.1)
      { w with session := w.session.pollOutcome.2 }
  | cancel : StepsTo w .cancel .done { w with session := w.session.cancel }
  | signalCancel : StepsTo w .signalCancel .done
      { w with session := { w.session with cancelRequested := true } }
  | granted {p : Pipeline} (hp : w.session.pipeline.tryReserve = some p) :
      StepsTo w .reserve (.reserved true) ⟨{ w.session with pipeline := p }, w.permits + 1⟩
  | busy (hp : w.session.pipeline.tryReserve = none) : StepsTo w .reserve (.reserved false) w
  | refusedDrop (h0 : w.permits = 0) : StepsTo w .drop .refused w
  | drop (h0 : w.permits ≠ 0) : StepsTo w .drop .done ⟨w.session.released, w.permits - 1⟩
  | clock (nanos : Nat) : StepsTo w (.clock nanos) .done
      { w with session := { w.session with elapsedNanos := nanos } }

theorem stepsTo_of_step {w w' : SessionWorld} {op : SessionOp} {r : SessionReply}
    (hs : w.step op = .ok (r, w')) : w.StepsTo op r w' := by
  cases op with
  | frame f c =>
    simp only [step, Except.map] at hs
    split at hs
    · cases hs
    · rename_i p hp
      cases hs
      exact .frame f c hp
  | reserved f c =>
    simp only [step] at hs
    split at hs
    · rename_i h0
      cases hs
      exact .refusedFrame f c h0
    · rename_i h0
      simp only [Except.map] at hs
      split at hs
      · cases hs
      · rename_i p hp
        cases hs
        exact .reserved f c h0 hp
  | poll =>
    simp only [step, Session.poll_run, Except.map] at hs
    cases hs
    exact .poll
  | cancel =>
    cases hs
    exact .cancel
  | signalCancel =>
    cases hs
    exact .signalCancel
  | reserve =>
    simp only [step] at hs
    split at hs
    · rename_i p hp
      cases hs
      exact .granted hp
    · rename_i hp
      cases hs
      exact .busy hp
  | drop =>
    simp only [step] at hs
    split at hs
    · rename_i h0
      cases hs
      exact .refusedDrop h0
    · rename_i h0
      cases hs
      exact .drop h0
  | clock nanos =>
    cases hs
    exact .clock nanos

end SessionWorld

end CardOcr
