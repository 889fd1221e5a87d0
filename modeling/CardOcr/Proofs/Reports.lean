import CardOcr.Proofs.Readings
import CardOcr.Proofs.SessionLifecycle

/-!
# Well-formed reports

The tally of a session is always the tally of sound readings of its frames
(`Session.Tallied`): a started session holds the empty tally of its layout, every reading a
frame adds was read from a corrected card of that layout, and every other phase keeps the
tally or drops it.  So the card of a report is assessed from sound readings and fits the
layout and the policy, and the report counts the frames processed by the session, which an
ended session never changes.

## Key results

- `SessionWorld.tallied_runFrom`: every run keeps the tally one of sound readings
- `SessionWorld.runFrom_reports`: every completed report of a run fits, and counts the frames
  processed at the end of the run
- `SessionWorld.runFrom_started_reports`: the same from a started session, in terms of its
  configuration
-/

namespace CardOcr

namespace Session

/-- What holds of a session's tally between operations: it is the tally of sound readings of
    the session's layout. -/
structure Tallied (s : Session) : Prop where
  regular : s.layout.Regular
  tally : ∀ t, s.tally = some t → ∃ R, VoteTally.ofReadings s.layout.digitCount
    s.layout.numberSlots.length R = .ok t ∧ ∀ r ∈ R, r.Sound s.layout

/-- A started session holds the empty tally, of no reading. -/
theorem Started.tallied {s : Session} (h : s.Started) : s.Tallied where
  regular := (CardLayout.ofConfig_okIn s.config s.layout h.layout).1
  tally := by
    intro _ ht
    rw [h.tally] at ht
    cases ht
    exact ⟨[], rfl, fun r hr => by cases hr⟩

section Phases

variable {s s' : Session}

/-! ## The invariant through the phases of a frame -/

theorem Tallied.of_eq (h : s.Tallied) (hl : s'.layout = s.layout) (ht : s'.tally = s.tally) :
    s'.Tallied where
  regular := hl ▸ h.regular
  tally := by
    rw [hl, ht]
    exact h.tally

/-- Ending a session drops its tally. -/
theorem Tallied.finish (h : s.Tallied) (st : SessionState) : (s.finish st).Tallied where
  regular := h.regular
  tally := fun _ ht => nomatch ht

theorem Tallied.received (h : s.Tallied) : s.received.Tallied := h.of_eq rfl rfl

theorem Tallied.released (h : s.Tallied) : s.released.Tallied := h.of_eq rfl rfl

theorem Tallied.processedOne (h : s.Tallied) : s.processedOne.Tallied := h.of_eq rfl rfl

theorem Tallied.pollOutcome (h : s.Tallied) : s.pollOutcome.2.Tallied := by
  unfold Session.pollOutcome
  split
  · exact h
  · split
    · exact h.finish _
    · split
      · exact h.finish _
      · exact h

theorem Tallied.admission (h : s.Tallied) : s.admission.2.Tallied := by
  unfold Session.admission
  have h1 : s.received.pollOutcome.2.Tallied := h.received.pollOutcome
  split
  · split
    · rename_i s1 hp
      rw [hp] at h1
      exact h1
    · rename_i s1 hp
      rw [hp] at h1
      exact h1.released
  · exact h.released

theorem Tallied.limitOutcome (h : s.Tallied) (f : Frame) (slots : Nat)
    (preview : Option GrayImage) : (limitOutcome f slots preview s).2.Tallied := by
  unfold Session.limitOutcome
  split
  · split
    · exact h.finish _
    · exact h
  · exact h

/-- Tallying a sound reading records it into a tally of sound readings; a card the tally
    completes fits the layout and the policy. -/
theorem Tallied.tallyOutcome {r : FrameReading} {card? : Option CardInfo} (h : s.Tallied)
    (hr : r.Sound s.layout) (ht : tallyOutcome r s = .ok (card?, s')) :
    s'.Tallied ∧ ∀ card, card? = some card → card.Fits s.layout s.config.aggregator := by
  rcases tallyOutcome_eq_ok ht with ⟨-, rfl, rfl⟩ | ⟨t, t', a, st, htally, hu, rfl, hcard⟩
  · exact ⟨h, fun _ h => nomatch h⟩
  · obtain ⟨R, hR0, hR⟩ := h.tally t htally
    obtain ⟨hrec, ha⟩ := VoteTally.update_eq_ok hu
    -- the new tally is that of the readings so far and this one
    have hR1 := VoteTally.ofReadings_append hR0 hrec
    have hR' : ∀ r' ∈ R ++ [r], r'.Sound s.layout := by
      intro r' hr'
      rcases List.mem_append.1 hr' with hm | hm
      · exact hR r' hm
      · rw [List.mem_singleton.1 hm]
        exact hr
    refine ⟨⟨h.regular, fun t'' ht => ⟨R ++ [r], Option.some.inj ht ▸ hR1, hR'⟩⟩, ?_⟩
    intro card hc
    rw [hcard card hc] at ha
    exact VoteTally.assess_ofReadings_fits h.regular hR' hR1 ha

theorem Tallied.readingOutcome {f : Frame} {reading : FrameReading} {slots : Nat}
    {preview : Option GrayImage} {r : Except ScanError ScanStatus} (h : s.Tallied)
    (hs : reading.Sound s.layout) (hr : readingOutcome f reading slots preview s = .ok (r, s')) :
    s'.Tallied := by
  obtain ⟨card?, s2, ht, ⟨card, -, -, rfl⟩ | ⟨-, hl⟩⟩ := readingOutcome_eq_ok hr
  · exact (h.processedOne.tallyOutcome hs ht).1.finish _
  · rw [show s' = (Session.limitOutcome f slots preview s2).2 by rw [← hl]]
    exact (h.processedOne.tallyOutcome hs ht).1.limitOutcome f slots preview

theorem Tallied.dropOutcome (h : s.Tallied) (f : Frame) (e : FrameError) :
    (dropOutcome f e s).2.Tallied := by
  unfold Session.dropOutcome
  -- counting the error and the failures in a row touches neither tally nor layout
  cases e
  case resourceExhausted =>
    dsimp only
    split
    · refine Tallied.finish ?_ _
      exact h.of_eq rfl rfl
    · refine Tallied.limitOutcome ?_ f 0 none
      exact h.of_eq rfl rfl
  all_goals
    refine Tallied.limitOutcome ?_ f 0 none
    exact h.of_eq rfl rfl

theorem Tallied.conclude {f : Frame}
    {result : Except FrameError (FrameReading × Nat × Option GrayImage)}
    {r : Except ScanError ScanStatus} (h : s.Tallied)
    (hsound : ∀ reading slots preview, result = .ok (reading, slots, preview) →
      reading.Sound s.layout)
    (hc : conclude f result s = .ok (r, s')) : s'.Tallied := by
  rcases conclude_eq_ok hc with ⟨-, -, rfl⟩ | ⟨-, ⟨reading, slots, preview, hres, hr⟩ | ⟨e, -, hd⟩⟩
  · exact h.finish _
  · exact h.readingOutcome (hsound reading slots preview hres) hr
  · rw [show s' = (Session.dropOutcome f e s).2 by rw [← hd]]
    exact h.dropOutcome f e

/-- The reading of a frame is sound for a regular layout. -/
theorem runFrame_sound {f : Frame} {reading : FrameReading} {slots : Nat}
    {preview : Option GrayImage} (hl : s.layout.Regular)
    (h : runFrame f s = .ok (.ok (reading, slots, preview), s')) : reading.Sound s.layout := by
  rw [runFrame_eq] at h
  -- only a frame the pipeline corrected is read
  split at h
  · cases h
  · cases h
  · split at h
    · rename_i c p _
      cases hrc : s.readCorrected c with
      | error e => rw [hrc] at h; cases h
      | ok x =>
        rw [hrc] at h
        cases h
        exact s.readCorrected_okIn c hl _ hrc
    · cases h
    · cases h

/-- A reserved frame keeps the invariant. -/
theorem Tallied.processReserved {f : Frame} {c : Bool} {r : Except ScanError ScanStatus}
    (h : s.Tallied) (hr : (processReserved f c).run.run s = .ok (r, s')) : s'.Tallied := by
  rcases processReserved_eq_ok hr with ⟨e, ha, -⟩ | ⟨-, -, result, s2, hf, hc⟩
  · rw [show s' = s.admission.2 by rw [ha]]
    exact h.admission
  · obtain ⟨p, rfl, -⟩ := runFrame_eq_ok hf
    -- running the frame changes only the pipeline, and its reading is sound
    have h2 : (({ s.received with pipeline := p }).released.raisedIf c).Tallied := h.of_eq rfl rfl
    refine h2.conclude ?_ hc
    intro reading slots preview hres
    subst hres
    exact runFrame_sound (s := s.received) h.regular hf

theorem Tallied.processFrame {f : Frame} {c : Bool} {r : Except ScanError ScanStatus}
    (h : s.Tallied) (hr : (processFrame f c).run.run s = .ok (r, s')) : s'.Tallied := by
  rcases processFrame_eq_ok hr with ⟨-, -, rfl⟩ | ⟨-, -, -, rfl⟩ | ⟨-, p, -, hr'⟩
  · exact h
  · exact h.of_eq rfl rfl
  · have h1 : ({ s with pipeline := p }).Tallied := h.of_eq rfl rfl
    exact h1.processReserved hr'

theorem Tallied.cancel (h : s.Tallied) : s.cancel.Tallied := by
  unfold Session.cancel
  dsimp only
  split
  · refine Tallied.finish ?_ _
    exact h.of_eq rfl rfl
  · exact h.of_eq rfl rfl

/-! ## Reports -/

/-- The report of a read frame fits the layout and the policy, and counts the frames processed
    by the session it leaves. -/
theorem Tallied.readingOutcome_fits {f : Frame} {reading : FrameReading} {slots : Nat}
    {preview : Option GrayImage} {rep : ScanReport} (h : s.Tallied)
    (hs : reading.Sound s.layout)
    (hr : Session.readingOutcome f reading slots preview s = .ok (.ok (.complete rep), s')) :
    rep.card.Fits s.layout s.config.aggregator ∧
      rep.framesProcessed = s'.stats.framesProcessed := by
  obtain ⟨card, s2, ht, rfl, rfl⟩ := readingOutcome_complete hr
  exact ⟨(h.processedOne.tallyOutcome hs ht).2 card rfl, rfl⟩

theorem Tallied.processReserved_fits {f : Frame} {c : Bool} {rep : ScanReport} (h : s.Tallied)
    (hr : (Session.processReserved f c).run.run s = .ok (.ok (.complete rep), s')) :
    rep.card.Fits s.layout s.config.aggregator ∧
      rep.framesProcessed = s'.stats.framesProcessed := by
  obtain ⟨-, -, -, reading, slots, preview, s2, hf, hr'⟩ := processReserved_eq_complete hr
  have hs := runFrame_sound (s := s.received) h.regular hf
  obtain ⟨p, rfl, -⟩ := runFrame_eq_ok hf
  have h2 : (({ s.received with pipeline := p }).released.raisedIf c).Tallied := h.of_eq rfl rfl
  exact h2.readingOutcome_fits hs hr'

theorem Tallied.processFrame_fits {f : Frame} {c : Bool} {rep : ScanReport} (h : s.Tallied)
    (hr : (Session.processFrame f c).run.run s = .ok (.ok (.complete rep), s')) :
    rep.card.Fits s.layout s.config.aggregator ∧
      rep.framesProcessed = s'.stats.framesProcessed := by
  rcases processFrame_eq_ok hr with ⟨-, hc, -⟩ | ⟨-, -, hc, -⟩ | ⟨-, p, -, hr'⟩
  · cases hc
  · cases hc
  · have h1 : ({ s with pipeline := p }).Tallied := h.of_eq rfl rfl
    exact h1.processReserved_fits hr'

end Phases

end Session

namespace SessionWorld

open Session

variable {w w' : SessionWorld} {op : SessionOp} {r : SessionReply}

/-! ## Every operation keeps the invariant -/

theorem tallied_step (h : w.session.Tallied) (hs : w.step op = .ok (r, w')) :
    w'.session.Tallied := by
  cases stepsTo_of_step hs with
  | frame f c hf => exact h.processFrame hf
  | reserved f c _ hr => exact h.processReserved hr
  | poll => exact h.pollOutcome
  | cancel => exact h.cancel
  | drop _ => exact h.released
  | refusedFrame f c _ => exact h
  | busy _ => exact h
  | refusedDrop _ => exact h
  -- the others change neither the layout nor the tally
  | _ => exact h.of_eq rfl rfl

theorem tallied_runFrom {ops : List SessionOp} {rs : List SessionReply}
    (h : w.session.Tallied) (hr : runFrom w ops = .ok (rs, w')) : w'.session.Tallied := by
  induction ops generalizing w rs with
  | nil =>
    cases hr
    exact h
  | cons op ops ih =>
    obtain ⟨r, w1, rs1, hs, hr1, -⟩ := runFrom_cons_eq_ok hr
    exact ih (tallied_step h hs) hr1

/-- No operation changes the configuration or the layout. -/
theorem step_settings (hs : w.step op = .ok (r, w')) :
    w'.session.config = w.session.config ∧ w'.session.layout = w.session.layout := by
  -- the parts of a session hold both
  have of_parts : ∀ {s s' : Session}, s'.parts = s.parts →
      s'.config = s.config ∧ s'.layout = s.layout :=
    fun hp => ⟨congrArg (·.1) hp, congrArg (·.2.2.1) hp⟩
  cases stepsTo_of_step hs with
  | frame f c hf => exact (parts_processFrame hf).elim of_parts of_parts
  | reserved f c _ hr => exact (parts_processReserved hr).elim of_parts of_parts
  | poll => exact of_parts (parts_pollOutcome _)
  | cancel =>
    show w.session.cancel.config = _ ∧ w.session.cancel.layout = _
    unfold Session.cancel
    dsimp only
    split <;> exact ⟨rfl, rfl⟩
  | _ => exact ⟨rfl, rfl⟩

/-! ## Completed reports -/

/-- The report an operation completes fits, and counts the frames processed by the session it
    leaves. -/
theorem step_fits {rep : ScanReport} (h : w.session.Tallied)
    (hs : w.step op = .ok (.status (.ok (.complete rep)), w')) :
    rep.card.Fits w.session.layout w.session.config.aggregator ∧
      rep.framesProcessed = w'.session.stats.framesProcessed := by
  -- only frames are answered with a status
  cases stepsTo_of_step hs with
  | frame f c hf => exact h.processFrame_fits hf
  | reserved f c _ hr => exact h.processReserved_fits hr

/-- Every report a run completes fits the layout and the policy, and counts the frames
    processed at the end of the run. -/
theorem runFrom_reports {ops : List SessionOp} {rs : List SessionReply}
    (h : w.session.Tallied) (hr : runFrom w ops = .ok (rs, w')) :
    ∀ rep, SessionReply.status (.ok (.complete rep)) ∈ rs →
      rep.card.Fits w.session.layout w.session.config.aggregator ∧
        rep.framesProcessed = w'.session.stats.framesProcessed := by
  induction ops generalizing w rs with
  | nil =>
    cases hr
    intro rep hm
    cases hm
  | cons op ops ih =>
    obtain ⟨r, w1, rs1, hs, hr1, rfl⟩ := runFrom_cons_eq_ok hr
    intro rep hm
    rcases List.mem_cons.1 hm with rfl | hm1
    -- this operation completes the scan: the session ends and its counts stay
    · obtain ⟨hfit, hframes⟩ := step_fits h hs
      obtain ⟨-, -, hend⟩ := step_complete hs rfl
      have hkeep := (runFrom_of_ended (by rw [hend]; decide) hr1).2
      exact ⟨hfit, hframes.trans (congrArg SessionStats.framesProcessed hkeep).symm⟩
    -- a later operation does, under the same settings
    · obtain ⟨hc, hl⟩ := step_settings hs
      have h1 := ih (tallied_step h hs) hr1 rep hm1
      rw [hc, hl] at h1
      exact h1

/-! ## Runs from a started session -/

/-- Every report that a run from a started session completes carries a card whose number has
    one ASCII digit per position of the configuration's layout; whose offsets are one per
    position, as many for each group as it has digits, in group order; whose expiry month is a
    month or zero, and then its year zero; whose year is below a hundred; which has an expiry
    when the policy requires one and passes the Luhn check when the policy requires it.  The
    report counts the frames the session has processed at the end of the run. -/
theorem runFrom_started_reports {s0 : Session} (h0 : s0.Started) {ops : List SessionOp}
    {rs : List SessionReply} {w : SessionWorld} (hr : runFrom ⟨s0, 0⟩ ops = .ok (rs, w)) :
    (∀ rep, SessionReply.status (.ok (.complete rep)) ∈ rs →
      rep.card.numbers.length = s0.layout.digitCount ∧
      (∀ ch ∈ rep.card.numbers.toList, ch.isDigit = true) ∧
      rep.card.xOffsets.length = s0.layout.digitCount ∧
      (∃ groups : List DigitCandidate,
        groups.map (·.kind) = (List.range s0.config.layout.groups.length).map .numberGroup ∧
        groups.map (·.xOffsets.length) = s0.config.layout.groups ∧
        rep.card.xOffsets = groups.flatMap (·.xOffsets)) ∧
      (rep.card.expiryMonth = 0 ∨ 1 ≤ rep.card.expiryMonth ∧ rep.card.expiryMonth ≤ 12) ∧
      rep.card.expiryYear ≤ 99 ∧ (rep.card.expiryMonth = 0 → rep.card.expiryYear = 0) ∧
      (s0.config.aggregator.requireExpiry = true → rep.card.expiryMonth ≠ 0) ∧
      (s0.config.aggregator.requireLuhn = true → rep.card.luhnValid = .ok true)) ∧
    ∀ rep, SessionReply.status (.ok (.complete rep)) ∈ rs →
      rep.framesProcessed = w.session.stats.framesProcessed := by
  have hreports := runFrom_reports h0.tallied hr
  -- the layout's number slots have the groups' digit counts
  have hgroups := (CardLayout.ofConfig_okIn s0.config s0.layout h0.layout).2
  refine ⟨fun rep hm => ?_, fun rep hm => (hreports rep hm).2⟩
  have hfit := (hreports rep hm).1
  exact ⟨hfit.numbers, hfit.digits, hfit.length_xOffsets,
    hfit.offsets_by_group h0.tallied.regular hgroups, hfit.month, hfit.year, hfit.noExpiry,
    hfit.expiry, hfit.luhn⟩

/-- A started session with a guided locator is fed a colour frame, which the locator refuses,
    then a frame while a reservation is held, which is skipped: both frames are received and
    no report is completed. -/
theorem runFrom_started_reports_frames :
    ∃ rs w, runFrom ⟨{ Session.sample with locator := .guided default }, 0⟩
        [.frame ⟨1, 1, 4, .bgra8, 0, ByteArray.mk #[0, 0, 0, 0]⟩ false, .reserve,
          .frame ⟨1, 1, 4, .bgra8, 1, ByteArray.mk #[0, 0, 0, 0]⟩ false] = .ok (rs, w) ∧
      w.session.stats.framesReceived = 2 ∧
      ∀ rep, SessionReply.status (.ok (.complete rep)) ∈ rs →
        rep.framesProcessed = w.session.stats.framesProcessed := by
  have h0 : ({ Session.sample with locator := .guided default } : Session).Started :=
    ⟨⟨rfl, rfl, rfl⟩, rfl, rfl⟩
  have hrun : runFrom ⟨{ Session.sample with locator := .guided default }, 0⟩
      [.frame ⟨1, 1, 4, .bgra8, 0, ByteArray.mk #[0, 0, 0, 0]⟩ false, .reserve,
        .frame ⟨1, 1, 4, .bgra8, 1, ByteArray.mk #[0, 0, 0, 0]⟩ false] = .ok (_, _) := rfl
  obtain ⟨-, hframes⟩ := runFrom_started_reports h0 hrun
  exact ⟨_, _, hrun, rfl, hframes⟩

end SessionWorld

end CardOcr
