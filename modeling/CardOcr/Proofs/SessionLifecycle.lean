import CardOcr.Proofs.SessionSteps

/-!
# The lifecycle of a session

A session is active until it completes a scan, fails, times out or is cancelled; then it has
ended for good.  This module follows a session through every sequence of client operations
(`SessionWorld.runFrom`).

`Session.Lifecycle s n` is what holds between operations while the clients hold `n`
reservations of the pipeline: the pipeline's gate counts them, the session holds a tally
exactly while it is active, and the pipeline of an ended session has no stages.  Each phase of
a frame keeps it, hence every operation (`lifecycle_step`) and every run.

An ended session answers every frame and poll with `sessionEnded` and no operation changes its
state or its counts (`step_of_ended`).  A scan is completed only by an active session whose
cancellation flag is clear, which then ends as complete (`step_complete`), and no operation
clears the flag; so a run completes at most one scan, and none once cancellation is asked for.

## Key results

- `lifecycle_runFrom`: the lifecycle invariant over every run
- `step_of_ended`, `runFrom_of_ended`: ended sessions refuse frames and polls and never change
- `runFrom_countP_complete`: a run from an active session completes at most one scan
- `runFrom_fresh_lifecycle`: all of it for every run from a fresh session
-/

namespace CardOcr

namespace Session

/-- What holds of a session between operations while its clients hold `permits` reservations
    of its pipeline. -/
structure Lifecycle (s : Session) (permits : Nat) : Prop where
  gate : s.pipeline.Gate permits
  tally : s.tally = none ↔ s.state ≠ .active
  ended : s.state ≠ .active → s.pipeline.chain = none

/-- The parts and settings of a session and its cancellation flag: what processing a frame
    never changes. -/
def parts (s : Session) : ScanConfig × CardLocator × CardLayout × GlyphReader × Bool :=
  (s.config, s.locator, s.layout, s.reader, s.cancelRequested)

theorem Fresh.lifecycle {s : Session} (h : s.Fresh) : s.Lifecycle 0 where
  gate := h.pipeline ▸ Pipeline.gate_ofConfig s.config
  tally := by
    have ht := h.tally
    simp only [h.active, ne_eq, not_true_eq_false, iff_false]
    exact Option.isSome_iff_ne_none.mp ht
  ended := fun hs => absurd h.active hs

section Phases

variable {s s' s1 : Session} {n : Nat}

/-! ## The invariant through the phases of a frame -/

theorem Lifecycle.of_eq (h : s.Lifecycle n) (hp : s'.pipeline = s.pipeline)
    (ht : s'.tally = none ↔ s.tally = none) (hs : s'.state = s.state) : s'.Lifecycle n where
  gate := hp ▸ h.gate
  tally := by rw [ht, hs]; exact h.tally
  ended := by rw [hp, hs]; exact h.ended

/-- Ending a session keeps the invariant: the tally goes and the stages are torn down. -/
theorem Lifecycle.finish (h : s.Lifecycle n) {st : SessionState} (hst : st ≠ .active) :
    (s.finish st).Lifecycle n where
  gate := h.gate.teardown
  tally := by simp only [finish_tally, finish_state, ne_eq, hst, not_false_eq_true]
  ended := fun _ => Pipeline.teardown_chain _

theorem Lifecycle.released (h : s.Lifecycle 1) : s.released.Lifecycle 0 where
  gate := Pipeline.gate_release h.gate.consistent
  tally := h.tally
  ended := h.ended

theorem Lifecycle.pollOutcome (h : s.Lifecycle n) : s.pollOutcome.2.Lifecycle n := by
  unfold Session.pollOutcome
  split
  · exact h
  · split
    · exact h.finish (by decide)
    · split
      · exact h.finish (by decide)
      · exact h

theorem Lifecycle.received (h : s.Lifecycle n) : s.received.Lifecycle n :=
  h.of_eq rfl Iff.rfl rfl

theorem Lifecycle.processedOne (h : s.Lifecycle n) : s.processedOne.Lifecycle n :=
  h.of_eq rfl Iff.rfl rfl

/-- A refused frame gives its reservation back; the invariant holds with none held. -/
theorem Lifecycle.admission_error {e : ScanError} (h : s.Lifecycle 1)
    (ha : s.admission = (.error e, s1)) : s1.Lifecycle 0 := by
  unfold admission at ha
  split at ha
  · split at ha
    · cases ha
    · rename_i s2 hp
      cases ha
      have h2 := h.received.pollOutcome
      rw [hp] at h2
      exact h2.released
  · cases ha
    exact h.released

theorem runFrame_keeps {f : Frame} {r : Except FrameError (FrameReading × Nat × Option GrayImage)}
    (hc : s.pipeline.Consistent) (h : runFrame f s = .ok (r, s')) :
    ∃ p, Pipeline.Keeps s.pipeline p ∧ s' = { s with pipeline := p } := by
  obtain ⟨p, rfl, hp⟩ := runFrame_eq_ok h
  refine ⟨p, ?_, rfl⟩
  rcases hp with rfl | ⟨q, rfl⟩
  · exact .refl hc
  · exact hc.keeps_processReserved f q

theorem Lifecycle.limitOutcome (h : s.Lifecycle n) (f : Frame) (slots : Nat)
    (preview : Option GrayImage) : (limitOutcome f slots preview s).2.Lifecycle n := by
  unfold Session.limitOutcome
  split
  · split
    · exact h.finish (by decide)
    · exact h
  · exact h

theorem Lifecycle.tallyOutcome {r : FrameReading} {card? : Option CardInfo} (h : s.Lifecycle n)
    (ht : tallyOutcome r s = .ok (card?, s')) : s'.Lifecycle n := by
  rcases tallyOutcome_eq_ok ht with ⟨-, -, rfl⟩ | ⟨t, t', a, st, htally, -, rfl, -⟩
  · exact h
  · -- the session holds the new tally in place of the old
    exact h.of_eq rfl (by simp only [htally, reduceCtorEq]) rfl

theorem Lifecycle.readingOutcome {f : Frame} {reading : FrameReading} {slots : Nat}
    {preview : Option GrayImage} {r : Except ScanError ScanStatus} (h : s.Lifecycle n)
    (hr : readingOutcome f reading slots preview s = .ok (r, s')) : s'.Lifecycle n := by
  obtain ⟨card?, s2, ht, ⟨card, -, -, rfl⟩ | ⟨-, hl⟩⟩ := readingOutcome_eq_ok hr
  · exact (h.processedOne.tallyOutcome ht).finish (by decide)
  · rw [show s' = (Session.limitOutcome f slots preview s2).2 by rw [← hl]]
    exact (h.processedOne.tallyOutcome ht).limitOutcome f slots preview

theorem Lifecycle.dropOutcome (h : s.Lifecycle n) (f : Frame) (e : FrameError) :
    (dropOutcome f e s).2.Lifecycle n := by
  unfold Session.dropOutcome
  -- counting the error and the failures in a row touches neither tally, state nor pipeline
  cases e
  case resourceExhausted =>
    dsimp only
    split
    · refine Lifecycle.finish ?_ (by decide)
      exact h.of_eq rfl Iff.rfl rfl
    · refine Lifecycle.limitOutcome ?_ f 0 none
      exact h.of_eq rfl Iff.rfl rfl
  all_goals
    refine Lifecycle.limitOutcome ?_ f 0 none
    exact h.of_eq rfl Iff.rfl rfl

theorem Lifecycle.conclude {f : Frame} {result : Except FrameError (FrameReading × Nat × Option GrayImage)}
    {r : Except ScanError ScanStatus} (h : s.Lifecycle n) (hc : conclude f result s = .ok (r, s')) :
    s'.Lifecycle n := by
  rcases conclude_eq_ok hc with ⟨-, -, rfl⟩ | ⟨-, ⟨_, _, _, -, hr⟩ | ⟨e, -, hd⟩⟩
  · exact h.finish (by decide)
  · exact h.readingOutcome hr
  · rw [show s' = (Session.dropOutcome f e s).2 by rw [← hd]]
    exact h.dropOutcome f e

/-- A reserved frame leaves the invariant with its reservation given back. -/
theorem Lifecycle.processReserved {f : Frame} {c : Bool} {r : Except ScanError ScanStatus}
    (h : s.Lifecycle 1) (hr : (processReserved f c).run.run s = .ok (r, s')) :
    s'.Lifecycle 0 := by
  rcases processReserved_eq_ok hr with ⟨e, ha, -⟩ | ⟨hact, -, result, s2, hf, hc⟩
  · exact h.admission_error ha
  · obtain ⟨p, hk, rfl⟩ := runFrame_keeps h.received.gate.consistent hf
    -- the session is active while the frame runs, so its pipeline may hold stages
    have h2 : ({ s.received with pipeline := p }).Lifecycle 1 :=
      ⟨h.gate.keeps hk, h.tally, fun hs => absurd hact hs⟩
    have h3 : (({ s.received with pipeline := p }).released.raisedIf c).Lifecycle 0 :=
      h2.released.of_eq rfl Iff.rfl rfl
    exact h3.conclude hc

/-- A reservation is granted only while none is held, and then the invariant counts it. -/
theorem Lifecycle.tryReserve {p : Pipeline} (h : s.Lifecycle n)
    (hp : s.pipeline.tryReserve = some p) : n = 0 ∧ ({ s with pipeline := p }).Lifecycle 1 := by
  obtain ⟨h0, hg⟩ := h.gate.tryReserve hp
  have hchain : p.chain = s.pipeline.chain := by
    rw [← (Pipeline.tryReserve_eq_some.1 hp).2]
  exact ⟨h0, hg, h.tally, hchain ▸ h.ended⟩

/-- A frame keeps the invariant: it runs under a reservation of its own, or is skipped while
    another is held. -/
theorem Lifecycle.processFrame {f : Frame} {c : Bool} {r : Except ScanError ScanStatus}
    (h : s.Lifecycle n) (hr : (processFrame f c).run.run s = .ok (r, s')) : s'.Lifecycle n := by
  rcases processFrame_eq_ok hr with ⟨-, -, rfl⟩ | ⟨-, -, -, rfl⟩ | ⟨-, p, hp, hr'⟩
  · exact h
  · exact h.of_eq rfl Iff.rfl rfl
  · obtain ⟨rfl, h1⟩ := h.tryReserve hp
    exact h1.processReserved hr'

theorem Lifecycle.cancel (h : s.Lifecycle n) : s.cancel.Lifecycle n := by
  unfold Session.cancel
  dsimp only
  split
  · refine Lifecycle.finish ?_ (by decide)
    exact h.of_eq rfl Iff.rfl rfl
  · exact h.of_eq rfl Iff.rfl rfl

/-! ## What a frame leaves unchanged -/

theorem parts_pollOutcome (s : Session) : s.pollOutcome.2.parts = s.parts := by
  unfold pollOutcome
  split
  · rfl
  · split
    · rfl
    · split <;> rfl

theorem parts_admission (s : Session) : s.admission.2.parts = s.parts := by
  unfold admission
  split
  · have hp := parts_pollOutcome s.received
    split
    · rename_i s1 h1
      rw [h1] at hp
      exact hp
    · rename_i s1 h1
      rw [h1] at hp
      exact hp
  · rfl

theorem parts_limitOutcome (f : Frame) (slots : Nat) (preview : Option GrayImage) (s : Session) :
    (limitOutcome f slots preview s).2.parts = s.parts := by
  unfold limitOutcome
  split
  · split <;> rfl
  · rfl

theorem parts_tallyOutcome {r : FrameReading} {card? : Option CardInfo}
    (ht : tallyOutcome r s = .ok (card?, s')) : s'.parts = s.parts := by
  rcases tallyOutcome_eq_ok ht with ⟨-, -, rfl⟩ | ⟨-, -, -, -, -, -, rfl, -⟩ <;> rfl

theorem parts_readingOutcome {f : Frame} {reading : FrameReading} {slots : Nat}
    {preview : Option GrayImage} {r : Except ScanError ScanStatus}
    (hr : readingOutcome f reading slots preview s = .ok (r, s')) : s'.parts = s.parts := by
  obtain ⟨card?, s2, ht, ⟨card, -, -, rfl⟩ | ⟨-, hl⟩⟩ := readingOutcome_eq_ok hr
  all_goals have h1 := parts_tallyOutcome ht
  · exact h1
  · rw [show s' = (limitOutcome f slots preview s2).2 by rw [← hl], parts_limitOutcome]
    exact h1

theorem parts_dropOutcome (f : Frame) (e : FrameError) (s : Session) :
    (dropOutcome f e s).2.parts = s.parts := by
  unfold dropOutcome
  cases e
  case resourceExhausted =>
    dsimp only
    split
    · rfl
    · exact parts_limitOutcome f 0 none _
  all_goals exact parts_limitOutcome f 0 none _

theorem parts_conclude {f : Frame}
    {result : Except FrameError (FrameReading × Nat × Option GrayImage)}
    {r : Except ScanError ScanStatus} (hc : conclude f result s = .ok (r, s')) :
    s'.parts = s.parts := by
  rcases conclude_eq_ok hc with ⟨-, -, rfl⟩ | ⟨-, ⟨_, _, _, -, hr⟩ | ⟨e, -, hd⟩⟩
  · rfl
  · exact parts_readingOutcome hr
  · rw [show s' = (dropOutcome f e s).2 by rw [← hd]]
    exact parts_dropOutcome f e s

/-- A reserved frame changes nothing of the parts, but raises the flag if another thread
    cancelled while it ran. -/
theorem parts_processReserved {f : Frame} {c : Bool} {r : Except ScanError ScanStatus}
    (hr : (processReserved f c).run.run s = .ok (r, s')) :
    s'.parts = s.parts ∨ s'.parts = (s.raisedIf c).parts := by
  rcases processReserved_eq_ok hr with ⟨e, ha, -⟩ | ⟨-, -, result, s2, hf, hc⟩
  · have h1 := parts_admission s
    rw [ha] at h1
    exact .inl h1
  · -- running the frame changes nothing but the pipeline
    obtain ⟨q, rfl, -⟩ := runFrame_eq_ok hf
    have h1 := parts_conclude hc
    exact .inr h1

theorem parts_processFrame {f : Frame} {c : Bool} {r : Except ScanError ScanStatus}
    (hr : (processFrame f c).run.run s = .ok (r, s')) :
    s'.parts = s.parts ∨ s'.parts = (s.raisedIf c).parts := by
  rcases processFrame_eq_ok hr with ⟨-, -, rfl⟩ | ⟨-, -, -, rfl⟩ | ⟨-, p, -, hr'⟩
  · exact .inl rfl
  · exact .inl rfl
  · have h1 := parts_processReserved hr'
    exact h1

/-! ## Completing a scan -/

theorem limitOutcome_ne_complete (f : Frame) (slots : Nat) (preview : Option GrayImage)
    (s : Session) (rep : ScanReport) : (limitOutcome f slots preview s).1 ≠ .ok (.complete rep) := by
  unfold limitOutcome
  split
  · split <;> simp
  · simp

theorem dropOutcome_ne_complete (f : Frame) (e : FrameError) (s : Session) (rep : ScanReport) :
    (dropOutcome f e s).1 ≠ .ok (.complete rep) := by
  unfold dropOutcome
  cases e
  case resourceExhausted =>
    dsimp only
    split
    · simp
    · exact limitOutcome_ne_complete f 0 none _ rep
  all_goals exact limitOutcome_ne_complete f 0 none _ rep

/-- A read frame completes the scan only by ending the session as complete. -/
theorem readingOutcome_complete {f : Frame} {reading : FrameReading} {slots : Nat}
    {preview : Option GrayImage} {rep : ScanReport}
    (hr : readingOutcome f reading slots preview s = .ok (.ok (.complete rep), s')) :
    ∃ card s2, tallyOutcome reading s.processedOne = .ok (some card, s2) ∧
      rep = ⟨card, s2.stats.framesProcessed⟩ ∧ s' = s2.finish .complete := by
  obtain ⟨card?, s2, ht, ⟨card, rfl, hrep, rfl⟩ | ⟨-, hl⟩⟩ := readingOutcome_eq_ok hr
  · cases hrep
    exact ⟨card, s2, ht, rfl, rfl⟩
  · exact absurd (congrArg Prod.fst hl).symm (limitOutcome_ne_complete f slots preview s2 rep)

theorem conclude_complete {f : Frame}
    {result : Except FrameError (FrameReading × Nat × Option GrayImage)} {rep : ScanReport}
    (hc : conclude f result s = .ok (.ok (.complete rep), s')) :
    s.cancelRequested = false ∧ ∃ reading slots preview, result = .ok (reading, slots, preview) ∧
      readingOutcome f reading slots preview s = .ok (.ok (.complete rep), s') := by
  rcases conclude_eq_ok hc with ⟨-, h, -⟩ | ⟨hcancel, hr | ⟨e, -, hd⟩⟩
  · cases h
  · exact ⟨hcancel, hr⟩
  · exact absurd (congrArg Prod.fst hd).symm (dropOutcome_ne_complete f e s rep)

/-- A reserved frame completes the scan only in an active session whose cancellation flag is
    clear and stays clear while the frame runs, by a reading of the frame that completes the
    tally. -/
theorem processReserved_eq_complete {f : Frame} {c : Bool} {rep : ScanReport}
    (hr : (processReserved f c).run.run s = .ok (.ok (.complete rep), s')) :
    s.state = .active ∧ s.cancelRequested = false ∧ c = false ∧
      ∃ reading slots preview s2, runFrame f s.received = .ok (.ok (reading, slots, preview), s2) ∧
        readingOutcome f reading slots preview (s2.released.raisedIf c) =
          .ok (.ok (.complete rep), s') := by
  rcases processReserved_eq_ok hr with ⟨e, -, h⟩ | ⟨hact, hcancel, result, s2, hf, hc⟩
  · cases h
  · obtain ⟨hclear, reading, slots, preview, rfl, hr'⟩ := conclude_complete hc
    -- the flag the frame is concluded under is the one another thread may have raised
    have hc0 : c = false := by
      have hflag : (s2.released.raisedIf c).cancelRequested = (s2.cancelRequested || c) := rfl
      rw [hclear] at hflag
      exact (Bool.or_eq_false_iff.1 hflag.symm).2
    exact ⟨hact, hcancel, hc0, reading, slots, preview, s2, hf, hr'⟩

/-- A reserved frame that completes the scan ends the session as complete. -/
theorem processReserved_complete {f : Frame} {c : Bool} {rep : ScanReport}
    (hr : (processReserved f c).run.run s = .ok (.ok (.complete rep), s')) :
    s.state = .active ∧ s.cancelRequested = false ∧ s'.state = .complete := by
  obtain ⟨hact, hcancel, -, reading, slots, preview, s2, -, hr'⟩ := processReserved_eq_complete hr
  obtain ⟨card, s3, -, -, rfl⟩ := readingOutcome_complete hr'
  exact ⟨hact, hcancel, rfl⟩

theorem processFrame_complete {f : Frame} {c : Bool} {rep : ScanReport}
    (hr : (processFrame f c).run.run s = .ok (.ok (.complete rep), s')) :
    s.state = .active ∧ s.cancelRequested = false ∧ s'.state = .complete := by
  rcases processFrame_eq_ok hr with ⟨-, h, -⟩ | ⟨-, -, h, -⟩ | ⟨-, p, -, hr'⟩
  · cases h
  · cases h
  · have h1 := processReserved_complete hr'
    exact h1

end Phases

end Session

namespace SessionWorld

open Session

variable {w w' : SessionWorld} {op : SessionOp} {r : SessionReply}

/-! ## Every operation keeps the invariant -/

theorem lifecycle_step (h : w.session.Lifecycle w.permits) (hs : w.step op = .ok (r, w')) :
    w'.session.Lifecycle w'.permits := by
  cases stepsTo_of_step hs with
  | frame f c hf => exact h.processFrame hf
  | refusedFrame f c _ => exact h
  | reserved f c h0 hr =>
    -- a client holds the one reservation there can be
    have h1 := h.gate.permits_eq_one h0
    show Lifecycle _ (w.permits - 1)
    rw [h1]
    exact (h1 ▸ h).processReserved hr
  | poll => exact h.pollOutcome
  | cancel => exact h.cancel
  | signalCancel => exact h.of_eq rfl Iff.rfl rfl
  | granted hp =>
    obtain ⟨h0, h1⟩ := h.tryReserve hp
    show Lifecycle _ (w.permits + 1)
    rw [h0]
    exact h1
  | busy _ => exact h
  | refusedDrop _ => exact h
  | drop h0 =>
    have h1 := h.gate.permits_eq_one h0
    show Lifecycle _ (w.permits - 1)
    rw [h1]
    exact (h1 ▸ h).released
  | clock nanos => exact h.of_eq rfl Iff.rfl rfl

theorem lifecycle_runFrom {ops : List SessionOp} {rs : List SessionReply}
    (h : w.session.Lifecycle w.permits) (hr : runFrom w ops = .ok (rs, w')) :
    w'.session.Lifecycle w'.permits := by
  induction ops generalizing w rs with
  | nil =>
    cases hr
    exact h
  | cons op ops ih =>
    obtain ⟨r, w1, rs1, hs, hr1, -⟩ := runFrom_cons_eq_ok hr
    exact ih (lifecycle_step h hs) hr1

/-! ## Ended sessions -/

theorem step_frame_of_ended (h : w.session.state ≠ .active) (f : Frame) (c : Bool) :
    w.step (.frame f c) = .ok (.status (.error .sessionEnded), w) := by
  simp only [step, processFrame_run, if_neg h, Except.map]

theorem step_reserved_of_ended (h : w.session.state ≠ .active) (f : Frame) (c : Bool)
    (hp : w.permits ≠ 0) :
    w.step (.reserved f c) =
      .ok (.status (.error .sessionEnded), ⟨w.session.released, w.permits - 1⟩) := by
  simp only [step, if_neg hp, processReserved_run, admission_of_ended h, Except.map]

theorem step_poll_of_ended (h : w.session.state ≠ .active) :
    w.step .poll = .ok (.polled (.error .sessionEnded), w) := by
  simp only [step, poll_run, pollOutcome, if_pos h, Except.map]

/-- No operation changes the state or the counts of an ended session. -/
theorem step_of_ended (h : w.session.state ≠ .active) (hs : w.step op = .ok (r, w')) :
    w'.session.state = w.session.state ∧ w'.session.stats = w.session.stats := by
  cases stepsTo_of_step hs with
  | frame f c hf =>
    rw [processFrame_run, if_neg h] at hf
    cases hf
    exact ⟨rfl, rfl⟩
  | reserved f c _ hr =>
    rw [processReserved_run, admission_of_ended h] at hr
    cases hr
    exact ⟨rfl, rfl⟩
  | poll => simp only [pollOutcome, if_pos h, and_self]
  | cancel =>
    -- cancelling an ended session only raises its flag
    show w.session.cancel.state = _ ∧ w.session.cancel.stats = _
    unfold Session.cancel
    dsimp only
    rw [if_neg h]
    exact ⟨rfl, rfl⟩
  -- the other operations leave the state and the counts alone
  | _ => exact ⟨rfl, rfl⟩

theorem runFrom_of_ended {ops : List SessionOp} {rs : List SessionReply}
    (h : w.session.state ≠ .active) (hr : runFrom w ops = .ok (rs, w')) :
    w'.session.state = w.session.state ∧ w'.session.stats = w.session.stats := by
  induction ops generalizing w rs with
  | nil =>
    cases hr
    exact ⟨rfl, rfl⟩
  | cons op ops ih =>
    obtain ⟨r, w1, rs1, hs, hr1, -⟩ := runFrom_cons_eq_ok hr
    obtain ⟨h1, h2⟩ := step_of_ended h hs
    obtain ⟨h3, h4⟩ := ih (h1 ▸ h) hr1
    exact ⟨h3.trans h1, h4.trans h2⟩

/-! ## Completed scans and cancellation -/

theorem SessionReply.isComplete_eq_true {r : SessionReply} (h : r.isComplete = true) :
    ∃ rep, r = .status (.ok (.complete rep)) := by
  unfold SessionReply.isComplete at h
  split at h
  · exact ⟨_, rfl⟩
  · cases h

/-- A scan is completed only by an active session whose cancellation flag is clear, and the
    session then ends as complete. -/
theorem step_complete (hs : w.step op = .ok (r, w')) (hc : r.isComplete = true) :
    w.session.state = .active ∧ w.session.cancelRequested = false ∧
      w'.session.state = .complete := by
  obtain ⟨rep, rfl⟩ := SessionReply.isComplete_eq_true hc
  -- only frames are answered with a status
  cases stepsTo_of_step hs with
  | frame f c hf => exact processFrame_complete hf
  | reserved f c _ hr => exact processReserved_complete hr

theorem cancelRequested_eq_of_parts {s s' : Session} (h : s'.parts = s.parts) :
    s'.cancelRequested = s.cancelRequested :=
  congrArg (fun p => p.2.2.2.2) h

/-- No operation lowers the cancellation flag. -/
theorem step_cancelRequested (hs : w.step op = .ok (r, w'))
    (hc : w.session.cancelRequested = true) : w'.session.cancelRequested = true := by
  cases stepsTo_of_step hs with
  | frame f c hf =>
    rcases parts_processFrame hf with h1 | h1
    · exact (cancelRequested_eq_of_parts h1).trans hc
    · rw [cancelRequested_eq_of_parts h1, raisedIf, hc, Bool.true_or]
  | reserved f c _ hr =>
    rcases parts_processReserved hr with h1 | h1
    · exact (cancelRequested_eq_of_parts h1).trans hc
    · rw [cancelRequested_eq_of_parts h1, raisedIf, hc, Bool.true_or]
  | poll => exact (cancelRequested_eq_of_parts (parts_pollOutcome _)).trans hc
  | cancel =>
    show w.session.cancel.cancelRequested = true
    unfold Session.cancel
    dsimp only
    split <;> rfl
  | signalCancel => rfl
  | _ => exact hc

theorem step_cancel_raises {c : SessionOp} (hop : c = .cancel ∨ c = .signalCancel)
    (hs : w.step c = .ok (r, w')) : w'.session.cancelRequested = true := by
  rcases hop with rfl | rfl
  · cases hs
    unfold Session.cancel
    dsimp only
    split <;> rfl
  · cases hs
    rfl

theorem runFrom_cancelRequested {ops : List SessionOp} {rs : List SessionReply}
    (hr : runFrom w ops = .ok (rs, w')) (hc : w.session.cancelRequested = true) :
    w'.session.cancelRequested = true := by
  induction ops generalizing w rs with
  | nil =>
    cases hr
    exact hc
  | cons op ops ih =>
    obtain ⟨r, w1, rs1, hs, hr1, -⟩ := runFrom_cons_eq_ok hr
    exact ih hr1 (step_cancelRequested hs hc)

/-- A run that cancels leaves the flag raised. -/
theorem runFrom_cancelRequested_of_mem {ops : List SessionOp} {rs : List SessionReply}
    (hr : runFrom w ops = .ok (rs, w'))
    (hm : SessionOp.cancel ∈ ops ∨ SessionOp.signalCancel ∈ ops) :
    w'.session.cancelRequested = true := by
  induction ops generalizing w rs with
  | nil => simp at hm
  | cons op ops ih =>
    obtain ⟨r, w1, rs1, hs, hr1, -⟩ := runFrom_cons_eq_ok hr
    by_cases hop : op = .cancel ∨ op = .signalCancel
    · exact runFrom_cancelRequested hr1 (step_cancel_raises hop hs)
    · -- the cancellation comes later in the run
      refine ih hr1 ?_
      simp only [List.mem_cons] at hm
      rcases hm with (h | h) | (h | h)
      · exact absurd (.inl h.symm) hop
      · exact .inl h
      · exact absurd (.inr h.symm) hop
      · exact .inr h

/-- A run completes a scan at most once, and only from an active session whose cancellation
    flag is clear. -/
theorem runFrom_countP_complete {ops : List SessionOp} {rs : List SessionReply}
    (hr : runFrom w ops = .ok (rs, w')) :
    rs.countP SessionReply.isComplete ≤
      if w.session.state = .active ∧ w.session.cancelRequested = false then 1 else 0 := by
  induction ops generalizing w rs with
  | nil =>
    cases hr
    simp
  | cons op ops ih =>
    obtain ⟨r, w1, rs1, hs, hr1, rfl⟩ := runFrom_cons_eq_ok hr
    have ih1 := ih hr1
    rw [List.countP_cons]
    by_cases hc : r.isComplete = true
    · -- the completing answer ends the session, and no later answer completes
      obtain ⟨ha, hcan, hend⟩ := step_complete hs hc
      have h1 : ¬(w1.session.state = .active ∧ w1.session.cancelRequested = false) := by
        rw [hend]
        exact fun h => nomatch h.1
      rw [if_neg h1] at ih1
      rw [if_pos hc, if_pos (And.intro ha hcan)]
      omega
    · rw [if_neg hc, Nat.add_zero]
      by_cases hw : w.session.state = .active ∧ w.session.cancelRequested = false
      · rw [if_pos hw]
        exact Nat.le_trans ih1 (by split <;> omega)
      · -- an ended or cancelled session stays so
        have h1 : ¬(w1.session.state = .active ∧ w1.session.cancelRequested = false) := by
          by_cases ha : w.session.state = .active
          · have hcan : w.session.cancelRequested = true := by
              simpa [ha] using hw
            rw [step_cancelRequested hs hcan]
            exact fun h => nomatch h.2
          · rw [(step_of_ended ha hs).1]
            exact fun h => ha h.1
        rw [if_neg hw]
        rwa [if_neg h1] at ih1

/-! ## Runs from a fresh session -/

/-- The lifecycle of a session over every run from a fresh one: it holds a tally exactly while
    it is active; once ended with no reservation held, its pipeline is idle and holds no
    texture; an ended session refuses frames and polls and never changes its state or its
    counts again; and a run completes at most one scan, none after a cancellation. -/
theorem runFrom_fresh_lifecycle {s0 : Session} (h0 : s0.Fresh) {ops : List SessionOp}
    {rs : List SessionReply} {w : SessionWorld} (hr : runFrom ⟨s0, 0⟩ ops = .ok (rs, w)) :
    (w.session.tally = none ↔ w.session.state ≠ .active) ∧
    (w.session.state ≠ .active → w.permits = 0 →
      w.session.pipeline.state = .idle ∧ w.session.pipeline.bytesInUse = 0) ∧
    (w.session.state ≠ .active →
      (∀ f c, w.step (.frame f c) = .ok (.status (.error .sessionEnded), w)) ∧
      (∀ f c, w.permits ≠ 0 → w.step (.reserved f c) =
        .ok (.status (.error .sessionEnded), ⟨w.session.released, w.permits - 1⟩)) ∧
      w.step .poll = .ok (.polled (.error .sessionEnded), w) ∧
      ∀ ops' rs' w', runFrom w ops' = .ok (rs', w') →
        w'.session.state = w.session.state ∧ w'.session.stats = w.session.stats) ∧
    rs.countP SessionReply.isComplete ≤ 1 ∧
    ((SessionOp.cancel ∈ ops ∨ SessionOp.signalCancel ∈ ops) →
      ∀ ops' rs' w', runFrom w ops' = .ok (rs', w') → rs'.countP SessionReply.isComplete = 0) := by
  have hl : w.session.Lifecycle w.permits := lifecycle_runFrom h0.lifecycle hr
  refine ⟨hl.tally, fun he h0' => ?_, fun he => ⟨step_frame_of_ended he,
    fun f c hp => step_reserved_of_ended he f c hp, step_poll_of_ended he,
    fun _ _ _ hr' => runFrom_of_ended he hr'⟩, ?_, fun hm ops' rs' w' hr' => ?_⟩
  · -- the stages went when the session ended, and no reservation is held
    have hg := hl.gate
    rw [h0'] at hg
    have hchain : w.session.pipeline.chain.isSome = false := by
      rw [hl.ended he]
      rfl
    rw [hg.released rfl, hg.consistent.bytesInUse, hchain]
    exact ⟨rfl, rfl⟩
  · have h1 := runFrom_countP_complete hr
    exact Nat.le_trans h1 (by split <;> omega)
  · have hc := runFrom_cancelRequested_of_mem hr hm
    have h1 := runFrom_countP_complete hr'
    rw [if_neg (fun h => by rw [hc] at h; exact nomatch h.2)] at h1
    omega

/-- A fresh session signalled to cancel and then polled ends as cancelled, without its tally,
    and has completed no scan. -/
theorem runFrom_fresh_lifecycle_signal :
    ∃ rs w, runFrom ⟨Session.sample, 0⟩ [.signalCancel, .poll] = .ok (rs, w) ∧
      w.session.state = .cancelled ∧ (w.session.tally = none ↔ w.session.state ≠ .active) ∧
      rs.countP SessionReply.isComplete ≤ 1 := by
  have h0 : Session.sample.Fresh := Session.sample_started.fresh
  obtain ⟨ht, -, -, hc, -⟩ := runFrom_fresh_lifecycle h0
    (show runFrom ⟨Session.sample, 0⟩ [.signalCancel, .poll] = .ok (_, _) from rfl)
  exact ⟨_, _, rfl, rfl, ht, hc⟩

end SessionWorld

end CardOcr
