import CardOcr.Proofs.Readings
import CardOcr.Proofs.SessionLifecycle

/-!
# Frame accounting

Every frame a session receives ends processed, skipped or dropped for an error
(`SessionStats.framesAccounted`).  `Session.Counted` is what holds between operations: at most
one received frame is left without an outcome, and while the session is active none is and its
tally has recorded each processed frame.

A frame that is skipped is counted at once.  A frame processed under a reservation is counted
as received and then polled: a raised cancellation flag or a time limit reached ends the session
there, and that frame is never given an outcome.  Otherwise the frame runs (`Session.InFlight`);
another thread may cancel meanwhile, and the check for a cancellation after the frame ran then
ends the session with the frame still without an outcome.  Otherwise the frame is processed or
dropped.

## Key results

- `Session.admission_of_active`: the poll of a reserved frame, and what it leaves
- `Session.Counted.processReserved`: a reserved frame is received once, and left uncounted
  exactly when the poll, or a cancellation while it ran, ends the session
- `SessionWorld.step_counts`: what one operation does to the counts of an active session
- `SessionWorld.runFrom_initial_frame_accounting`: the accounting over every run from a new
  session
-/

namespace CardOcr

namespace SessionStats

/-- Frames whose outcome is counted: processed, skipped, or dropped for an error. -/
def framesAccounted (s : SessionStats) : Nat :=
  s.framesProcessed + s.framesSkipped + s.framesFailed

variable (s : SessionStats) (e : FrameError)

@[simp] theorem count_framesReceived : (s.count e).framesReceived = s.framesReceived := by
  cases e <;> rfl

@[simp] theorem count_framesProcessed : (s.count e).framesProcessed = s.framesProcessed := by
  cases e <;> rfl

/-- A dropped frame is counted as failed, of whatever kind. -/
@[simp] theorem count_framesAccounted : (s.count e).framesAccounted = s.framesAccounted + 1 := by
  cases e <;> simp only [framesAccounted, framesFailed, count] <;> omega

end SessionStats

/-- A recorded reading counts one more frame. -/
theorem VoteTally.frames_of_record_eq_ok {t t' : VoteTally} {r : FrameReading}
    (h : t.record r = .ok t') : t'.frames = t.frames + 1 := by
  rw [VoteTally.record_eq_ok ((VoteTally.record_ok_iff t r).1 ⟨t', h⟩)] at h
  rw [← Except.ok.inj h]
  rfl

namespace Session

variable {s s' : Session}

/-! ## The counts through the phases of a frame -/

@[simp] theorem received_framesReceived (s : Session) :
    s.received.stats.framesReceived = s.stats.framesReceived + 1 := rfl

@[simp] theorem received_framesAccounted (s : Session) :
    s.received.stats.framesAccounted = s.stats.framesAccounted := rfl

/-- A frame received by a session whose frames all had an outcome is the one without. -/
theorem received_unaccounted (hb : s.stats.framesReceived = s.stats.framesAccounted) :
    s.received.stats.framesReceived = s.received.stats.framesAccounted + 1 := by
  rw [received_framesReceived, received_framesAccounted, hb]

@[simp] theorem processedOne_framesReceived (s : Session) :
    s.processedOne.stats.framesReceived = s.stats.framesReceived := rfl

@[simp] theorem processedOne_framesAccounted (s : Session) :
    s.processedOne.stats.framesAccounted = s.stats.framesAccounted + 1 := by
  simp only [processedOne, SessionStats.framesAccounted, SessionStats.framesFailed]
  omega

@[simp] theorem skipped_framesReceived (s : Session) :
    s.skipped.stats.framesReceived = s.stats.framesReceived + 1 := rfl

@[simp] theorem skipped_framesAccounted (s : Session) :
    s.skipped.stats.framesAccounted = s.stats.framesAccounted + 1 := by
  simp only [skipped, SessionStats.framesAccounted, SessionStats.framesFailed]
  omega

@[simp] theorem stats_pollOutcome (s : Session) : s.pollOutcome.2.stats = s.stats := by
  unfold pollOutcome
  split
  · rfl
  · split
    · rfl
    · split <;> rfl

@[simp] theorem stats_cancel (s : Session) : s.cancel.stats = s.stats := by
  unfold cancel
  dsimp only
  split <;> rfl

@[simp] theorem stats_limitOutcome (f : Frame) (slots : Nat) (preview : Option GrayImage)
    (s : Session) : (limitOutcome f slots preview s).2.stats = s.stats := by
  unfold limitOutcome
  split
  · split <;> rfl
  · rfl

theorem tallyOutcome_stats {r : FrameReading} {card? : Option CardInfo}
    (ht : tallyOutcome r s = .ok (card?, s')) : s'.stats = s.stats := by
  rcases tallyOutcome_eq_ok ht with ⟨-, -, rfl⟩ | ⟨-, -, -, -, -, -, rfl, -⟩ <;> rfl

/-- A read frame is counted as processed, whether or not it completes the card. -/
theorem readingOutcome_stats {f : Frame} {reading : FrameReading} {slots : Nat}
    {preview : Option GrayImage} {r : Except ScanError ScanStatus}
    (hr : readingOutcome f reading slots preview s = .ok (r, s')) :
    s'.stats = s.processedOne.stats := by
  obtain ⟨card?, s2, ht, ⟨card, -, -, rfl⟩ | ⟨-, hl⟩⟩ := readingOutcome_eq_ok hr
  · rw [finish_stats]
    exact tallyOutcome_stats ht
  · rw [show s' = (limitOutcome f slots preview s2).2 by rw [← hl], stats_limitOutcome]
    exact tallyOutcome_stats ht

/-- A dropped frame is counted for its error; the session then fails, or goes on under the
    frame limit. -/
theorem dropOutcome_cases (f : Frame) (e : FrameError) (s : Session) :
    ∃ s1 : Session, s1.stats = s.stats.count e ∧ s1.state = s.state ∧ s1.tally = s.tally ∧
      s1.config = s.config ∧
      ((∃ n, dropOutcome f e s = (.error (.resourceExhausted n), s1.finish .failed)) ∨
        dropOutcome f e s = limitOutcome f 0 none s1) := by
  unfold dropOutcome
  cases e
  case resourceExhausted requested inUse budget =>
    refine ⟨{ s with
      stats := s.stats.count (.resourceExhausted requested inUse budget)
      exhaustedRun := s.exhaustedRun + 1 }, rfl, rfl, rfl, rfl, ?_⟩
    dsimp only
    split
    · exact .inl ⟨_, rfl⟩
    · exact .inr rfl
  all_goals exact ⟨{ s with stats := s.stats.count _, exhaustedRun := 0 }, rfl, rfl, rfl, rfl,
    .inr rfl⟩

@[simp] theorem stats_dropOutcome (f : Frame) (e : FrameError) (s : Session) :
    (dropOutcome f e s).2.stats = s.stats.count e := by
  obtain ⟨s1, hs, -, -, -, ⟨n, hd⟩ | hd⟩ := dropOutcome_cases f e s <;> rw [hd]
  · rw [finish_stats, hs]
  · rw [stats_limitOutcome, hs]

/-! ## The counts between operations -/

/-- What holds of a session's counts between operations: at most one frame it received has
    no outcome; while it is active none has, and its tally has recorded each processed frame. -/
structure Counted (s : Session) : Prop where
  accounted_le : s.stats.framesAccounted ≤ s.stats.framesReceived
  le_accounted : s.stats.framesReceived ≤ s.stats.framesAccounted + 1
  active : s.state = .active → s.stats.framesReceived = s.stats.framesAccounted ∧
    ∃ t, s.tally = some t ∧ t.frames = s.stats.framesProcessed

/-- Balanced counts with a tally of the processed frames make a counted session, whatever its
    state. -/
theorem Counted.of_balanced (hb : s.stats.framesReceived = s.stats.framesAccounted)
    (ht : ∃ t, s.tally = some t ∧ t.frames = s.stats.framesProcessed) : s.Counted where
  accounted_le := Nat.le_of_eq hb.symm
  le_accounted := by omega
  active _ := ⟨hb, ht⟩

theorem Counted.of_eq (h : s.Counted) (hs : s'.stats = s.stats) (hst : s'.state = s.state)
    (ht : s'.tally = s.tally) : s'.Counted where
  accounted_le := hs ▸ h.accounted_le
  le_accounted := hs ▸ h.le_accounted
  active ha := by
    rw [hs, ht]
    exact h.active (hst ▸ ha)

theorem Counted.finish (h : s.Counted) {st : SessionState} (hst : st ≠ .active) :
    (s.finish st).Counted where
  accounted_le := h.accounted_le
  le_accounted := h.le_accounted
  active ha := absurd ha hst

theorem Counted.pollOutcome (h : s.Counted) : s.pollOutcome.2.Counted := by
  unfold Session.pollOutcome
  split
  · exact h
  · split
    · exact h.finish (by decide)
    · split
      · exact h.finish (by decide)
      · exact h

theorem Counted.limitOutcome (h : s.Counted) (f : Frame) (slots : Nat)
    (preview : Option GrayImage) : (limitOutcome f slots preview s).2.Counted := by
  unfold Session.limitOutcome
  split
  · split
    · exact h.finish (by decide)
    · exact h
  · exact h

theorem Counted.cancel (h : s.Counted) : s.cancel.Counted := by
  have h1 : ({ s with cancelRequested := true } : Session).Counted := h.of_eq rfl rfl rfl
  unfold Session.cancel
  dsimp only
  split
  · exact h1.finish (by decide)
  · exact h1

/-- A frame refused by the poll of an active session stays received without an outcome. -/
theorem Counted.received_finish (h : s.Counted) (hact : s.state = .active) {st : SessionState}
    (hst : st ≠ .active) : (s.received.finish st).released.Counted where
  accounted_le := by
    show s.stats.framesAccounted ≤ s.stats.framesReceived + 1
    have := (h.active hact).1
    omega
  le_accounted := by
    show s.stats.framesReceived + 1 ≤ s.stats.framesAccounted + 1
    have := (h.active hact).1
    omega
  active ha := absurd ha hst

theorem Counted.of_ended (h : s.Counted) (hs : s'.stats = s.stats)
    (hst : s'.state ≠ .active) : s'.Counted where
  accounted_le := hs ▸ h.accounted_le
  le_accounted := hs ▸ h.le_accounted
  active ha := absurd ha hst

/-! ## A frame in flight -/

/-- A session with a frame in flight: active, with one received frame not yet counted, and a
    tally of every processed frame. -/
structure InFlight (s : Session) : Prop where
  active : s.state = .active
  received : s.stats.framesReceived = s.stats.framesAccounted + 1
  tally : ∃ t, s.tally = some t ∧ t.frames = s.stats.framesProcessed

/-- Ending a session with a frame in flight leaves that frame without an outcome. -/
theorem InFlight.finish (h : s.InFlight) {st : SessionState} (hst : st ≠ .active) :
    (s.finish st).Counted where
  accounted_le := by
    show s.stats.framesAccounted ≤ s.stats.framesReceived
    rw [h.received]
    exact Nat.le_succ _
  le_accounted := Nat.le_of_eq h.received
  active ha := absurd ha hst

/-- The tally records a read frame as it is counted processed; the session then completes,
    or goes on under the frame limit. -/
theorem InFlight.readingOutcome {f : Frame} {reading : FrameReading} {slots : Nat}
    {preview : Option GrayImage} {r : Except ScanError ScanStatus} (h : s.InFlight)
    (hr : readingOutcome f reading slots preview s = .ok (r, s')) : s'.Counted := by
  obtain ⟨t, htally, hframes⟩ := h.tally
  obtain ⟨card?, s2, ht, hend⟩ := readingOutcome_eq_ok hr
  -- the session still holds its tally, so the reading is recorded as the frame is counted
  have hc2 : s2.Counted := by
    rcases tallyOutcome_eq_ok ht with ⟨hnone, -, -⟩ | ⟨t0, t', a, st, ht0, hu, rfl, -⟩
    · rw [show s.processedOne.tally = s.tally from rfl, htally] at hnone
      cases hnone
    · rw [show s.processedOne.tally = s.tally from rfl, htally, Option.some.injEq] at ht0
      subst ht0
      obtain ⟨hrec, -⟩ := VoteTally.update_eq_ok hu
      refine Counted.of_balanced ?_ ⟨_, rfl, ?_⟩
      · show s.processedOne.stats.framesReceived = s.processedOne.stats.framesAccounted
        rw [processedOne_framesReceived, processedOne_framesAccounted, h.received]
      · rw [VoteTally.frames_of_record_eq_ok hrec, hframes]
        rfl
  rcases hend with ⟨card, -, -, rfl⟩ | ⟨-, hl⟩
  · exact hc2.finish (by decide)
  · rw [show s' = (Session.limitOutcome f slots preview s2).2 by rw [← hl]]
    exact hc2.limitOutcome f slots preview

/-- The dropped frame is counted for its error, leaving the counts balanced. -/
theorem InFlight.dropOutcome (h : s.InFlight) (f : Frame) (e : FrameError) :
    (dropOutcome f e s).2.Counted := by
  obtain ⟨s1, hstats, -, htally, -, hd⟩ := dropOutcome_cases f e s
  have hc1 : s1.Counted := by
    refine Counted.of_balanced ?_ ?_
    · rw [hstats, SessionStats.count_framesReceived, SessionStats.count_framesAccounted,
        h.received]
    · rw [htally, hstats, SessionStats.count_framesProcessed]
      exact h.tally
  rcases hd with ⟨n, hd⟩ | hd <;> rw [hd]
  · exact hc1.finish (by decide)
  · exact hc1.limitOutcome f 0 none

/-- A frame that ran is given its outcome exactly when the flag is still clear; a flag raised
    while it ran ends the session with the frame left without one. -/
theorem InFlight.conclude {f : Frame}
    {result : Except FrameError (FrameReading × Nat × Option GrayImage)}
    {r : Except ScanError ScanStatus} (h : s.InFlight) (hc : conclude f result s = .ok (r, s')) :
    s'.Counted ∧ s'.stats.framesReceived = s.stats.framesReceived ∧
      (s'.stats.framesAccounted = s.stats.framesReceived ↔ s.cancelRequested = false) := by
  rcases conclude_eq_ok hc with
    ⟨hcancel, -, rfl⟩ | ⟨hclear, ⟨reading, slots, preview, -, hr⟩ | ⟨e, -, hd⟩⟩
  · -- the cancellation observed after the frame ran drops its outcome
    refine ⟨h.finish (by decide), rfl, iff_of_false ?_ (by rw [hcancel]; decide)⟩
    rw [finish_stats, h.received]
    omega
  · rw [readingOutcome_stats hr, processedOne_framesReceived, processedOne_framesAccounted,
      h.received]
    exact ⟨h.readingOutcome hr, rfl, iff_of_true rfl hclear⟩
  · rw [show s' = (Session.dropOutcome f e s).2 by rw [← hd], stats_dropOutcome,
      SessionStats.count_framesReceived, SessionStats.count_framesAccounted, h.received]
    exact ⟨h.dropOutcome f e, rfl, iff_of_true rfl hclear⟩

/-! ## Processing a frame -/

/-- An active session admits a frame unless its flag or its time limit is up; either way the
    frame is counted as received. -/
theorem admission_of_active (hact : s.state = .active) :
    s.admission =
      if s.cancelRequested then (.error .cancelled, (s.received.finish .cancelled).released)
      else if s.timeLimitReached then
        (.error (.timedOut (s.stats.framesReceived + 1)), (s.received.finish .timedOut).released)
      else (.ok (), s.received) := by
  have hna : ¬s.received.state ≠ .active := not_not.2 hact
  unfold admission pollOutcome
  rw [if_pos hact, if_neg hna]
  by_cases hc : s.cancelRequested
  · rw [if_pos (show s.received.cancelRequested from hc), if_pos hc]
  · rw [if_neg (show ¬s.received.cancelRequested from hc), if_neg hc]
    by_cases ht : s.timeLimitReached
    · rw [if_pos (show s.received.timeLimitReached from ht), if_pos ht]
      rfl
    · rw [if_neg (show ¬s.received.timeLimitReached from ht), if_neg ht]

/-- The poll of a reserved frame finds the flag up: the session ends as cancelled. -/
theorem processReserved_of_cancelRequested {f : Frame} {c : Bool} (hact : s.state = .active)
    (hc : s.cancelRequested) :
    (processReserved f c).run.run s =
      .ok (.error .cancelled, (s.received.finish .cancelled).released) := by
  rw [processReserved_run, admission_of_active hact, if_pos hc]

/-- The poll of a reserved frame finds the time limit reached: the session ends as timed out,
    reporting the frames received with this one. -/
theorem processReserved_of_timeLimitReached {f : Frame} {c : Bool} (hact : s.state = .active)
    (hc : s.cancelRequested = false) (ht : s.timeLimitReached) :
    (processReserved f c).run.run s =
      .ok (.error (.timedOut (s.stats.framesReceived + 1)),
        (s.received.finish .timedOut).released) := by
  rw [processReserved_run, admission_of_active hact, if_neg (Bool.eq_false_iff.1 hc), if_pos ht]

/-- A reserved frame that passes the poll runs, and is concluded with the reservation ended
    and the flag raised if another thread cancelled meanwhile. -/
theorem processReserved_of_admitted {f : Frame} {c : Bool} (hact : s.state = .active)
    (hc : s.cancelRequested = false) (ht : s.timeLimitReached = false) :
    (processReserved f c).run.run s =
      (runFrame f s.received).bind fun p => conclude f p.1 (p.2.released.raisedIf c) := by
  rw [processReserved_run, admission_of_active hact, if_neg (Bool.eq_false_iff.1 hc),
    if_neg (Bool.eq_false_iff.1 ht)]

/-- A reserved frame of an active session is received once; it is left without an outcome
    exactly when the poll finds the flag or the time limit up, or another thread cancels while
    it runs, each of which ends the session. -/
theorem Counted.processReserved {f : Frame} {c : Bool} {r : Except ScanError ScanStatus}
    (h : s.Counted) (hact : s.state = .active)
    (hr : (processReserved f c).run.run s = .ok (r, s')) :
    s'.Counted ∧ s'.stats.framesReceived = s.stats.framesReceived + 1 ∧
      (s'.stats.framesReceived = s'.stats.framesAccounted + 1 ↔
        s.cancelRequested ∨ s.timeLimitReached ∨ c = true) := by
  have hb := (h.active hact).1
  -- a poll that ends the session leaves the frame received and without an outcome
  by_cases hc : s.cancelRequested
  · rw [processReserved_of_cancelRequested hact hc] at hr
    cases hr
    exact ⟨h.received_finish hact (by decide), rfl,
      iff_of_true (received_unaccounted hb) (.inl hc)⟩
  by_cases ht : s.timeLimitReached
  · rw [processReserved_of_timeLimitReached hact (Bool.eq_false_iff.2 hc) ht] at hr
    cases hr
    exact ⟨h.received_finish hact (by decide), rfl,
      iff_of_true (received_unaccounted hb) (.inr (.inl ht))⟩
  -- otherwise the frame runs, and a fault of the run is no answer at all
  rw [processReserved_of_admitted hact (Bool.eq_false_iff.2 hc) (Bool.eq_false_iff.2 ht)] at hr
  cases hf : runFrame f s.received with
  | error e =>
    rw [hf] at hr
    cases hr
  | ok p =>
    obtain ⟨result, s2⟩ := p
    rw [hf, Except.ok_bind] at hr
    obtain ⟨q, rfl, -⟩ := runFrame_eq_ok hf
    -- running the frame changes only the pipeline, so the frame is in flight when concluded,
    -- under the flag another thread may have raised
    have hin : ({ s.received with pipeline := q }.released.raisedIf c).InFlight :=
      ⟨hact, received_unaccounted hb, (h.active hact).2⟩
    obtain ⟨hc', h1, h2⟩ := hin.conclude hr
    rw [cancelRequested_concluding (Bool.eq_false_iff.2 hc)] at h2
    refine ⟨hc', h1, ?_⟩
    simp only [hc, ht, Bool.false_eq_true, false_or]
    -- the frame is uncounted exactly when the flag rose
    cases c
    · exact iff_of_false (by have := h2.2 rfl; omega) Bool.false_ne_true
    · refine iff_of_true ?_ rfl
      have hne : s'.stats.framesAccounted ≠ _ := fun h' => absurd (h2.1 h') (by decide)
      have hle := hc'.le_accounted
      have hge := hc'.accounted_le
      omega

/-- A frame of an active session is received once: skipped and counted at once when the
    pipeline is busy, else processed under a reservation of its own. -/
theorem Counted.processFrame {f : Frame} {c : Bool} {r : Except ScanError ScanStatus}
    (h : s.Counted) (hact : s.state = .active) (hr : (processFrame f c).run.run s = .ok (r, s')) :
    s'.Counted ∧ s'.stats.framesReceived = s.stats.framesReceived + 1 ∧
      (s'.stats.framesReceived = s'.stats.framesAccounted + 1 ↔
        s.pipeline.tryReserve.isSome ∧ (s.cancelRequested ∨ s.timeLimitReached ∨ c = true)) := by
  have hb := (h.active hact).1
  rcases processFrame_eq_ok hr with ⟨hna, -, -⟩ | ⟨-, hp, -, rfl⟩ | ⟨-, p, hp, hr'⟩
  · exact absurd hact hna
  · -- the pipeline is busy: the frame is counted as skipped at once
    have hb' : s.skipped.stats.framesReceived = s.skipped.stats.framesAccounted := by
      rw [skipped_framesReceived, skipped_framesAccounted, hb]
    refine ⟨.of_balanced hb' (h.active hact).2, rfl, iff_of_false (by omega) ?_⟩
    rw [hp]
    exact fun h' => Bool.false_ne_true h'.1
  · have h' : ({ s with pipeline := p } : Session).Counted := h.of_eq rfl rfl rfl
    obtain ⟨hc, h1, h2⟩ := h'.processReserved hact hr'
    simp only [hp, Option.isSome_some, true_and]
    exact ⟨hc, h1, h2⟩

/-! ## New sessions -/

/-- A session as `start` makes it: started, with nothing counted yet. -/
structure Initial (s : Session) : Prop where
  started : s.Started
  stats : s.stats = {}

theorem start_initial {c : ScanConfig} {loc : CardLocator} {s : Session}
    (h : start c (Pipeline.ofConfig c) loc = .ok (.ok s)) : s.Initial := by
  refine ⟨start_started h, ?_⟩
  unfold start at h
  split at h
  · cases h
  · simp only [bind, Except.bind, pure, Except.pure] at h
    split at h
    · cases h
    · split at h
      · cases h
      · cases h
        rfl

theorem sample_initial : sample.Initial := ⟨sample_started, rfl⟩

/-- A new session has received nothing and its empty tally has recorded nothing. -/
theorem Initial.counted (h : s.Initial) : s.Counted := by
  refine Counted.of_balanced (by rw [h.stats]; rfl) ⟨_, h.started.tally, ?_⟩
  rw [h.stats]
  rfl

end Session

/-! ## Every operation -/

namespace SessionWorld

open Session

/-- The operation hands the session a frame: a frame of its own, or one under a reservation
    the client holds. -/
def handsFrame (w : SessionWorld) : SessionOp → Bool
  | .frame _ _ => true
  | .reserved _ _ => w.permits != 0
  | _ => false

/-- The operation processes a frame under a reservation: a frame of its own when the pipeline
    is free, or one under a reservation the client holds. -/
def reservesFrame (w : SessionWorld) : SessionOp → Bool
  | .frame _ _ => w.session.pipeline.tryReserve.isSome
  | .reserved _ _ => w.permits != 0
  | _ => false

variable {w w' : SessionWorld} {op : SessionOp} {r : SessionReply}

/-- An operation that leaves the counts alone receives nothing and leaves every frame of an
    active session counted. -/
theorem counts_of_stats_eq (h : w.session.Counted) (hact : w.session.state = .active)
    (hs : w'.session.stats = w.session.stats) (P : Prop) (hP : ¬P) :
    w'.session.stats.framesReceived = w.session.stats.framesReceived + 0 ∧
      (w'.session.stats.framesReceived = w'.session.stats.framesAccounted + 1 ↔ P) := by
  have hb := (h.active hact).1
  rw [hs]
  exact ⟨rfl, iff_of_false (by omega) hP⟩

/-- What one operation does to the counts of an active session: a frame handed to it is
    received, and is left without an outcome exactly when it was processed under a reservation
    and the poll found the flag or the time limit up, or another thread cancelled while it
    ran. -/
theorem step_counts (h : w.session.Counted) (hact : w.session.state = .active)
    (hs : w.step op = .ok (r, w')) :
    w'.session.Counted ∧
      w'.session.stats.framesReceived =
        w.session.stats.framesReceived + (if w.handsFrame op then 1 else 0) ∧
      (w'.session.stats.framesReceived = w'.session.stats.framesAccounted + 1 ↔
        w.reservesFrame op ∧
          (w.session.cancelRequested ∨ w.session.timeLimitReached ∨ op.cancelDuring = true)) := by
  have hnot (P : Prop) : ¬(false = true ∧ P) := fun h' => Bool.false_ne_true h'.1
  cases stepsTo_of_step hs with
  | frame f c hf => exact h.processFrame hact hf
  | refusedFrame f c h0 =>
    simp only [handsFrame, reservesFrame, h0, bne_self_eq_false]
    exact ⟨h, counts_of_stats_eq h hact rfl _ (hnot _)⟩
  | reserved f c h0 hr =>
    simp only [handsFrame, reservesFrame, bne_iff_ne, ne_eq, h0, not_false_eq_true,
      if_true, true_and]
    exact h.processReserved hact hr
  -- every other operation hands over no frame and leaves the counts as they are
  | poll => exact ⟨h.pollOutcome, counts_of_stats_eq h hact (stats_pollOutcome _) _ (hnot _)⟩
  | cancel =>
    exact ⟨h.cancel, counts_of_stats_eq h hact (stats_cancel _) _ (hnot _)⟩
  | signalCancel => exact ⟨h.of_eq rfl rfl rfl, counts_of_stats_eq h hact rfl _ (hnot _)⟩
  | granted hp => exact ⟨h.of_eq rfl rfl rfl, counts_of_stats_eq h hact rfl _ (hnot _)⟩
  | busy hp => exact ⟨h, counts_of_stats_eq h hact rfl _ (hnot _)⟩
  | refusedDrop h0 => exact ⟨h, counts_of_stats_eq h hact rfl _ (hnot _)⟩
  | drop h0 => exact ⟨h.of_eq rfl rfl rfl, counts_of_stats_eq h hact rfl _ (hnot _)⟩
  | clock nanos => exact ⟨h.of_eq rfl rfl rfl, counts_of_stats_eq h hact rfl _ (hnot _)⟩

theorem counted_step (h : w.session.Counted) (hs : w.step op = .ok (r, w')) :
    w'.session.Counted := by
  by_cases hact : w.session.state = .active
  · exact (step_counts h hact hs).1
  · -- an ended session keeps its state and its counts
    obtain ⟨h1, h2⟩ := step_of_ended hact hs
    exact h.of_ended h2 (h1 ▸ hact)

theorem counted_runFrom {ops : List SessionOp} {rs : List SessionReply}
    (h : w.session.Counted) (hr : runFrom w ops = .ok (rs, w')) : w'.session.Counted := by
  induction ops generalizing w rs with
  | nil =>
    cases hr
    exact h
  | cons op ops ih =>
    obtain ⟨r, w1, rs1, hs, hr1, -⟩ := runFrom_cons_eq_ok hr
    exact ih (counted_step h hs) hr1

/-- The frame accounting of a session over every run from a new one.  While it is active,
    every frame it received is processed, skipped or dropped, and its tally has recorded each
    processed frame; at most one received frame is ever left without an outcome.  An operation
    on an active session receives exactly the frame it hands over, and leaves it without an
    outcome exactly when the frame was processed under a reservation and the poll found the
    cancellation flag or the time limit up, or another thread cancelled while the frame ran;
    an ended session's counts never change. -/
theorem runFrom_initial_frame_accounting {s0 : Session} (h0 : s0.Initial) {ops : List SessionOp}
    {rs : List SessionReply} {w : SessionWorld} (hr : runFrom ⟨s0, 0⟩ ops = .ok (rs, w)) :
    (w.session.state = .active →
      w.session.stats.framesReceived = w.session.stats.framesAccounted ∧
      ∃ t, w.session.tally = some t ∧ t.frames = w.session.stats.framesProcessed) ∧
    w.session.stats.framesAccounted ≤ w.session.stats.framesReceived ∧
    w.session.stats.framesReceived ≤ w.session.stats.framesAccounted + 1 ∧
    (∀ op r w', w.step op = .ok (r, w') → w.session.state = .active →
      w'.session.stats.framesReceived =
        w.session.stats.framesReceived + (if w.handsFrame op then 1 else 0) ∧
      (w'.session.stats.framesReceived = w'.session.stats.framesAccounted + 1 ↔
        w.reservesFrame op ∧
          (w.session.cancelRequested ∨ w.session.timeLimitReached ∨ op.cancelDuring = true))) ∧
    (∀ op r w', w.step op = .ok (r, w') → w.session.state ≠ .active →
      w'.session.stats = w.session.stats) := by
  have hc : w.session.Counted := counted_runFrom h0.counted hr
  refine ⟨hc.active, hc.accounted_le, hc.le_accounted, fun op r w' hs hact => ?_,
    fun op r w' hs hna => (step_of_ended hna hs).2⟩
  exact (step_counts hc hact hs).2

/-- A new session with a guided locator reserves its pipeline and is handed a colour frame
    under the reservation, and another thread cancels while the frame runs: the session ends as
    cancelled with that frame received and left without an outcome. -/
theorem runFrom_initial_frame_accounting_cancelled :
    ∃ rs w, runFrom ⟨{ Session.sample with locator := .guided default }, 0⟩
        [.reserve, .reserved ⟨1, 1, 4, .bgra8, 0, ByteArray.mk #[0, 0, 0, 0]⟩ true] =
        .ok (rs, w) ∧
      w.session.state = .cancelled ∧ w.session.stats.framesReceived = 1 ∧
      w.session.stats.framesAccounted = 0 ∧
      w.session.stats.framesAccounted ≤ w.session.stats.framesReceived ∧
      w.session.stats.framesReceived ≤ w.session.stats.framesAccounted + 1 := by
  have h0 : ({ Session.sample with locator := .guided default } : Session).Initial :=
    ⟨⟨⟨rfl, rfl, rfl⟩, rfl, rfl⟩, rfl⟩
  have hrun : runFrom ⟨{ Session.sample with locator := .guided default }, 0⟩
      [.reserve, .reserved ⟨1, 1, 4, .bgra8, 0, ByteArray.mk #[0, 0, 0, 0]⟩ true] =
      .ok (_, _) := rfl
  obtain ⟨-, h1, h2, -, -⟩ := runFrom_initial_frame_accounting h0 hrun
  exact ⟨_, _, hrun, rfl, rfl, rfl, h1, h2⟩

end SessionWorld

end CardOcr
