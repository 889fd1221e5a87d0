import CardOcr.Proofs.FrameAccounting

/-!
# Cancellation and limits of a session

A frame processed under a reservation is admitted first: the session counts it and polls, so a
raised cancellation flag or a reached time limit ends the session before the frame runs; and
after a frame that does not complete the card, the frame limit is checked.  A frame handed over
while another client holds the pipeline takes none of these paths.  It is counted as skipped and
the session answers with its progress, whatever its flag, its time and its frame count say.

How a reserved frame ends when the flag or the time limit is up
(`Session.processReserved_of_cancelRequested`, `Session.processReserved_of_timeLimitReached`)
is stated with the frame accounting; here it is followed through every operation.

## Key results

- `Session.withinLimit_processReserved`: after a reserved frame no progress is reported, and
  the session is not left active, at or beyond the frame limit
- `SessionWorld.step_active_deadlines`: what every operation on an active session does with the
  flag, the time limit and the frame limit
-/

namespace CardOcr

namespace Session

variable {s s' : Session} {f : Frame} {c : Bool} {m : Nat} {r : Except ScanError ScanStatus}

/-! ## The frame limit -/

/-- What a frame limit `m` asks of an outcome: progress is reported, and the session left
    active, only below the limit. -/
structure WithinLimit (m : Nat) (r : Except ScanError ScanStatus) (s : Session) : Prop where
  scanning : ∀ p, r = .ok (.scanning p) → s.stats.framesReceived < m
  active : s.state = .active → s.stats.framesReceived < m

/-- An outcome that reports no progress and ends the session is within every limit. -/
theorem WithinLimit.of_ended (hr : ∀ p, r ≠ .ok (.scanning p)) (hs : s.state ≠ .active) :
    WithinLimit m r s where
  scanning p h := absurd h (hr p)
  active h := absurd h hs

theorem WithinLimit.finish (hr : ∀ p, r ≠ .ok (.scanning p)) {st : SessionState}
    (hst : st ≠ .active) : WithinLimit m r (s.finish st) :=
  .of_ended hr (by rw [finish_state]; exact hst)

theorem withinLimit_limitOutcome (f : Frame) (slots : Nat) (preview : Option GrayImage)
    (hm : s.config.session.maxFrames = some m) :
    WithinLimit m (limitOutcome f slots preview s).1 (limitOutcome f slots preview s).2 := by
  unfold limitOutcome
  rw [hm]
  dsimp only
  split
  · exact .finish (fun _ h => by cases h) (by decide)
  · rename_i hlt
    exact ⟨fun _ _ => Nat.lt_of_not_le hlt, fun _ => Nat.lt_of_not_le hlt⟩

theorem withinLimit_dropOutcome (f : Frame) (e : FrameError)
    (hm : s.config.session.maxFrames = some m) :
    WithinLimit m (dropOutcome f e s).1 (dropOutcome f e s).2 := by
  obtain ⟨s1, -, -, -, hconf, ⟨n, hd⟩ | hd⟩ := dropOutcome_cases f e s <;> rw [hd]
  · exact .finish (fun _ h => by cases h) (by decide)
  · exact withinLimit_limitOutcome f 0 none (hconf ▸ hm)

theorem withinLimit_readingOutcome {reading : FrameReading} {slots : Nat}
    {preview : Option GrayImage} (hr : readingOutcome f reading slots preview s = .ok (r, s'))
    (hm : s.config.session.maxFrames = some m) : WithinLimit m r s' := by
  obtain ⟨card?, s2, ht, ⟨card, -, rfl, rfl⟩ | ⟨-, hl⟩⟩ := readingOutcome_eq_ok hr
  · exact .finish (fun _ h => by cases h) (by decide)
  · -- tallying keeps the configuration, so the limit checked is the session's own
    have hconf : s2.config = s.config := congrArg (·.1) (parts_tallyOutcome ht)
    have h2 := withinLimit_limitOutcome f slots preview (hconf ▸ hm)
    rw [← hl] at h2
    exact h2

theorem withinLimit_conclude {result : Except FrameError (FrameReading × Nat × Option GrayImage)}
    (hc : conclude f result s = .ok (r, s')) (hm : s.config.session.maxFrames = some m) :
    WithinLimit m r s' := by
  rcases conclude_eq_ok hc with
    ⟨-, rfl, rfl⟩ | ⟨-, ⟨reading, slots, preview, -, hr⟩ | ⟨e, -, hd⟩⟩
  · exact .finish (fun _ h => by cases h) (by decide)
  · exact withinLimit_readingOutcome hr hm
  · have h2 := withinLimit_dropOutcome f e hm
    rw [← hd] at h2
    exact h2

/-- A reserved frame of an active session leaves no progress report and no active session at
    or beyond the frame limit. -/
theorem withinLimit_processReserved (hact : s.state = .active)
    (hr : (processReserved f c).run.run s = .ok (r, s'))
    (hm : s.config.session.maxFrames = some m) : WithinLimit m r s' := by
  rcases processReserved_eq_ok hr with ⟨e, ha, rfl⟩ | ⟨-, -, result, s2, hf, hc⟩
  · -- refused by the poll, which ended the session
    rw [admission_of_active hact] at ha
    split at ha
    · cases ha
      exact .of_ended (fun _ h => nomatch h) (show SessionState.cancelled ≠ .active by decide)
    · split at ha
      · cases ha
        exact .of_ended (fun _ h => nomatch h) (show SessionState.timedOut ≠ .active by decide)
      · cases ha
  · obtain ⟨q, rfl, -⟩ := runFrame_eq_ok hf
    exact withinLimit_conclude hc hm

end Session

/-! ## Every operation on an active session -/

namespace SessionWorld

open Session

variable {w : SessionWorld} {op : SessionOp}

/-- An operation that processes a frame under a reservation runs `processReserved` on the
    session, with its pipeline reserved, and keeps the session it leaves. -/
theorem step_of_reservesFrame (hact : w.session.state = .active) (hres : w.reservesFrame op) :
    ∃ f c p, ∃ k : Session → SessionWorld, (∀ s, (k s).session = s) ∧
      w.step op = ((processReserved f c).run.run { w.session with pipeline := p }).map
        fun x => (.status x.1, k x.2) := by
  cases op with
  | frame f c =>
    obtain ⟨p, hp⟩ := Option.isSome_iff_exists.1 hres
    refine ⟨f, c, p, fun s => { w with session := s }, fun _ => rfl, ?_⟩
    simp only [step, processFrame_run, if_pos hact, hp]
  | reserved f c =>
    have h0 : w.permits ≠ 0 := by simpa [reservesFrame] using hres
    exact ⟨f, c, w.session.pipeline, fun s => ⟨s, w.permits - 1⟩, fun _ => rfl, by
      simp only [step, if_neg h0]⟩
  | _ => exact absurd hres Bool.false_ne_true

/-- What an operation does to an active session with the cancellation flag, the time limit and
    the frame limit.  A frame processed under a reservation ends the session as cancelled when
    the flag is up, else as timed out when the time limit is reached, before it runs; and it
    leaves no progress report and no active session at or beyond the frame limit.  A frame
    handed over while the pipeline is busy is only counted as skipped: the session reports its
    progress and stays active, whatever its flag, its time and its frame count. -/
theorem step_active_deadlines (hact : w.session.state = .active) :
    (∀ op, w.reservesFrame op → w.session.cancelRequested →
      ∃ w', w.step op = .ok (.status (.error .cancelled), w') ∧
        w'.session.state = .cancelled) ∧
    (∀ op, w.reservesFrame op → w.session.cancelRequested = false →
      w.session.timeLimitReached →
      ∃ w', w.step op = .ok (.status (.error (.timedOut (w.session.stats.framesReceived + 1))), w') ∧
        w'.session.state = .timedOut) ∧
    (∀ m op r w', w.session.config.session.maxFrames = some m → w.reservesFrame op →
      w.step op = .ok (r, w') →
      (∀ p, r = .status (.ok (.scanning p)) → w'.session.stats.framesReceived < m) ∧
      (w'.session.state = .active → w'.session.stats.framesReceived < m)) ∧
    (∀ f c, w.session.pipeline.tryReserve = none →
      w.step (.frame f c) =
        .ok (.status (.ok (.scanning (w.session.skipped.progress f.sequence 0 none))),
          { w with session := w.session.skipped }) ∧
      w.session.skipped.state = .active) := by
  refine ⟨fun op hres hc => ?_, fun op hres hc ht => ?_, fun m op r w' hm hres hs => ?_,
    fun f c hp => ⟨?_, hact⟩⟩
  · obtain ⟨f, c, p, k, hk, hstep⟩ := step_of_reservesFrame hact hres
    have hact' : ({ w.session with pipeline := p } : Session).state = .active := hact
    rw [hstep, processReserved_of_cancelRequested hact' hc]
    exact ⟨_, rfl, by rw [hk]; rfl⟩
  · obtain ⟨f, c, p, k, hk, hstep⟩ := step_of_reservesFrame hact hres
    have hact' : ({ w.session with pipeline := p } : Session).state = .active := hact
    rw [hstep, processReserved_of_timeLimitReached hact' hc ht]
    exact ⟨_, rfl, by rw [hk]; rfl⟩
  · obtain ⟨f, c, p, k, hk, hstep⟩ := step_of_reservesFrame hact hres
    have hact' : ({ w.session with pipeline := p } : Session).state = .active := hact
    rw [hstep] at hs
    cases hpr : (processReserved f c).run.run { w.session with pipeline := p } with
    | error e =>
      rw [hpr] at hs
      cases hs
    | ok x =>
      rw [hpr] at hs
      cases hs
      have hl := withinLimit_processReserved hact' hpr hm
      rw [hk]
      exact ⟨fun q hq => hl.scanning q (SessionReply.status.inj hq), hl.active⟩
  · simp only [step, processFrame_run, if_pos hact, hp, Except.map]

/-- A session holding one reservation and asked to cancel is handed the reserved frame: it ends
    as cancelled. -/
theorem step_active_deadlines_signalled :
    ∃ w', (⟨{ Session.sample with cancelRequested := true }, 1⟩ : SessionWorld).step
        (.reserved default false) = .ok (.status (.error .cancelled), w') ∧
      w'.session.state = .cancelled :=
  (step_active_deadlines (show ({ Session.sample with cancelRequested := true } : Session).state =
    .active from rfl)).1 (.reserved default false) rfl rfl

/-- A new session whose pipeline another client holds, once asked to cancel, still reports
    progress for the next frame handed over, and stays active. -/
theorem runFrom_busy_frame_ignores_cancel :
    ∃ p w, runFrom ⟨Session.sample, 0⟩ [.reserve, .signalCancel, .frame default true] =
        .ok ([.reserved true, .done, .status (.ok (.scanning p))], w) ∧
      w.session.cancelRequested = true ∧ w.session.state = .active :=
  ⟨_, _, rfl, rfl, rfl⟩

end SessionWorld

end CardOcr
