import CardOcr.Proofs.FrameAccounting
import CardOcr.Proofs.Reports

/-!
# The retry budget for texture memory

A frame whose textures cannot be allocated is dropped, and the session counts such failures in
a row (`exhaustedRun`): a frame that is read, or dropped for another error, starts the count
afresh, while a frame skipped for a busy pipeline or refused before it ran leaves the count
alone.  The failure that takes the count beyond the session's retry budget fails the session,
which reports the count.

The count is held here against the results of the frames that ran (`SessionWorld.frameResults`,
with `exhaustedResult` marking the texture failures): while the session is active it is the
streak of texture failures that ends the results (`trailingRun`), and never beyond the budget;
a failed session has run a longer streak (`Session.Retries`).  So a frame fails the session
exactly when it runs out of texture memory right after as many such failures in a row as the
budget allows, and no other thread cancels while it runs; the session then reports one failure
more than the budget.  A cancellation while a frame runs ends the session as cancelled, whatever
the frame gave.

## Key results

- `Session.conclude_concluded`: how a frame that ran ends for the count (`Session.Concluded`)
- `Session.processReserved_retries`: a reserved frame concludes, ends the session as cancelled,
  or leaves the count alone
- `SessionWorld.retries_runFrom`: the count against the results, over every run
- `SessionWorld.runFrom_untried_retry_budget`: when a frame fails the session, over every run
-/

namespace CardOcr

/-- Whether a frame error is a texture allocation that found too little memory. -/
def FrameError.isExhausted : FrameError → Bool
  | .resourceExhausted _ _ _ => true
  | _ => false

/-- Whether the result of a frame is a texture failure. -/
def exhaustedResult {α : Type} : Except FrameError α → Bool
  | .error e => e.isExhausted
  | .ok _ => false

/-! ## Streaks -/

/-- The number of `true`s that end a list. -/
def trailingRun (bs : List Bool) : Nat :=
  bs.foldl (fun n b => if b then n + 1 else 0) 0

@[simp] theorem trailingRun_nil : trailingRun [] = 0 := rfl

theorem trailingRun_concat (bs : List Bool) (b : Bool) :
    trailingRun (bs ++ [b]) = if b then trailingRun bs + 1 else 0 := by
  simp [trailingRun, List.foldl_append]

/-- The last `k` entries are all `true` exactly when the `true`s that end the list are at least
    `k`. -/
theorem replicate_suffix_iff {k : Nat} {bs : List Bool} :
    List.replicate k true <:+ bs ↔ k ≤ trailingRun bs := by
  induction bs using List.reverseRecOn generalizing k with
  | nil => cases k <;> simp
  | append_singleton bs b ih =>
    cases k with
    | zero => simp
    | succ k =>
      have h := @List.suffix_append_inj_of_length_eq _ (List.replicate k true) bs [true] [b] rfl
      rw [List.replicate_succ', h, ih, trailingRun_concat]
      cases b <;> simp

/-! ## A frame and the count -/

namespace Session

variable {α : Type} {s s' : Session} {f : Frame} {r : Except ScanError ScanStatus}

/-- The count of texture failures in a row after a frame with `result`, from `run`. -/
def nextRun (run : Nat) (result : Except FrameError α) : Nat :=
  if exhaustedResult result then run + 1 else 0

/-- What running a frame in the session gave, when the frame got to run: the session admitted
    it under its reservation, and running it did not fault. -/
def ranResult (f : Frame) (s : Session) :
    Option (Except FrameError (FrameReading × Nat × Option GrayImage)) :=
  match s.admission with
  | (.ok (), s1) =>
    match runFrame f s1 with
    | .ok (result, _) => some result
    | .error _ => none
  | (.error _, _) => none

/-- How a frame that ran with `result` ends for the count, in a session with the retry budget
    `budget` that had counted `run` failures in a row.  The answer reports a texture failure
    exactly when the frame ran out of texture memory and the new count is beyond the budget;
    it then reports that count and the session has failed.  No other frame fails the session,
    and one that leaves it active leaves the new count. -/
structure Concluded (budget run : Nat) (result : Except FrameError α)
    (r : Except ScanError ScanStatus) (s' : Session) : Prop where
  fails : (∃ n, r = .error (.resourceExhausted n)) ↔ exhaustedResult result ∧ budget < run + 1
  reports : ∀ n, r = .error (.resourceExhausted n) → n = run + 1 ∧ s'.state = .failed
  failed : s'.state = .failed → exhaustedResult result ∧ budget < run + 1
  active : s'.state = .active → s'.exhaustedRun = nextRun run result

/-- What an operation that runs no frame does to the count: it fails no session, and a session
    it leaves active was active before, with the same count. -/
structure Untouched (s s' : Session) : Prop where
  active : s'.state = .active → s.state = .active ∧ s'.exhaustedRun = s.exhaustedRun
  failed : s'.state = .failed → s.state = .failed

theorem Untouched.of_eq (hs : s'.state = s.state) (hr : s'.exhaustedRun = s.exhaustedRun) :
    Untouched s s' :=
  ⟨fun h => ⟨hs ▸ h, hr⟩, fun h => hs ▸ h⟩

theorem Untouched.of_ended (hs : s'.state ≠ .active) (hf : s'.state ≠ .failed) :
    Untouched s s' :=
  ⟨fun h => absurd h hs, fun h => absurd h hf⟩

/-! ### The frame limit -/

@[simp] theorem exhaustedRun_limitOutcome (f : Frame) (slots : Nat) (preview : Option GrayImage)
    (s : Session) : (limitOutcome f slots preview s).2.exhaustedRun = s.exhaustedRun := by
  unfold limitOutcome
  split
  · split <;> rfl
  · rfl

theorem limitOutcome_state (f : Frame) (slots : Nat) (preview : Option GrayImage) (s : Session) :
    (limitOutcome f slots preview s).2.state = s.state ∨
      (limitOutcome f slots preview s).2.state = .timedOut := by
  unfold limitOutcome
  split
  · split
    · exact .inr rfl
    · exact .inl rfl
  · exact .inl rfl

theorem limitOutcome_ne_exhausted (f : Frame) (slots : Nat) (preview : Option GrayImage)
    (s : Session) (n : Nat) : (limitOutcome f slots preview s).1 ≠ .error (.resourceExhausted n) := by
  unfold limitOutcome
  split
  · split <;> simp
  · simp

/-- A frame that does not fail the session goes on under the frame limit, from a session that
    holds the new count. -/
theorem concluded_limitOutcome {budget run : Nat} {result : Except FrameError α}
    (hs : s.state = .active) (hrun : s.exhaustedRun = nextRun run result)
    (hok : ¬(exhaustedResult result ∧ budget < run + 1)) (f : Frame) (slots : Nat)
    (preview : Option GrayImage) :
    Concluded budget run result (limitOutcome f slots preview s).1
      (limitOutcome f slots preview s).2 where
  fails := iff_of_false (fun ⟨n, hn⟩ => limitOutcome_ne_exhausted f slots preview s n hn) hok
  reports n hn := absurd hn (limitOutcome_ne_exhausted f slots preview s n)
  failed h := by
    rcases limitOutcome_state f slots preview s with h' | h' <;> rw [h'] at h
    · rw [hs] at h
      cases h
    · cases h
  active _ := by rw [exhaustedRun_limitOutcome, hrun]

/-! ### Dropped and read frames -/

/-- A dropped frame fails the session when it is a texture failure beyond the budget, and
    otherwise goes on under the frame limit with the new count. -/
theorem dropOutcome_concluded (hs : s.state = .active) (f : Frame) (e : FrameError) :
    Concluded s.config.session.resourceRetryBudget s.exhaustedRun (.error e : Except FrameError α)
      (dropOutcome f e s).1 (dropOutcome f e s).2 := by
  unfold dropOutcome
  cases e
  case resourceExhausted requested inUse budget =>
    dsimp only
    split
    · rename_i hb
      -- the count is beyond the budget: the session fails and reports it
      refine ⟨iff_of_true ⟨_, rfl⟩ ⟨rfl, hb⟩, fun n hn => ?_, fun _ => ⟨rfl, hb⟩, fun h => ?_⟩
      · cases hn
        exact ⟨rfl, rfl⟩
      · cases h
    · rename_i hb
      refine concluded_limitOutcome ?_ ?_ (fun h => hb h.2) f 0 none
      · exact hs
      · simp [nextRun, exhaustedResult, FrameError.isExhausted]
  -- any other error starts the count afresh
  all_goals
    dsimp only
    refine concluded_limitOutcome ?_ ?_ ?_ f 0 none
    · exact hs
    · simp [nextRun, exhaustedResult, FrameError.isExhausted]
    · simp [exhaustedResult, FrameError.isExhausted]

/-- Tallying a reading keeps the state, the count and the configuration. -/
theorem tallyOutcome_keeps {reading : FrameReading} {card? : Option CardInfo}
    (ht : tallyOutcome reading s = .ok (card?, s')) :
    s'.state = s.state ∧ s'.exhaustedRun = s.exhaustedRun ∧ s'.config = s.config := by
  rcases tallyOutcome_eq_ok ht with ⟨-, -, rfl⟩ | ⟨-, -, -, -, -, -, rfl, -⟩ <;>
    exact ⟨rfl, rfl, rfl⟩

/-- A read frame never fails the session, and one that leaves it active starts the count
    afresh. -/
theorem readingOutcome_concluded (hs : s.state = .active) {reading : FrameReading} {slots : Nat}
    {preview : Option GrayImage} (hr : readingOutcome f reading slots preview s = .ok (r, s')) :
    Concluded s.config.session.resourceRetryBudget s.exhaustedRun
      (.ok (reading, slots, preview) : Except FrameError _) r s' := by
  have hno : ¬(exhaustedResult (.ok (reading, slots, preview) : Except FrameError _) ∧
      s.config.session.resourceRetryBudget < s.exhaustedRun + 1) := fun h => nomatch h.1
  obtain ⟨card?, s2, ht, ⟨card, -, rfl, rfl⟩ | ⟨-, hl⟩⟩ := readingOutcome_eq_ok hr
  · -- the scan completes: no failure is reported and the session is complete
    refine ⟨iff_of_false (fun ⟨n, hn⟩ => nomatch hn) hno, fun n hn => (nomatch hn),
      fun h => (nomatch h), fun h => nomatch h⟩
  · obtain ⟨h1, h2, -⟩ := tallyOutcome_keeps ht
    rw [show s' = (limitOutcome f slots preview s2).2 by rw [← hl],
      show r = (limitOutcome f slots preview s2).1 by rw [← hl]]
    exact concluded_limitOutcome (h1.trans hs) (h2.trans rfl) hno f slots preview

/-- A frame that ran, in an active session whose cancellation flag is clear, is concluded by its
    result. -/
theorem conclude_concluded (hs : s.state = .active) (hc : s.cancelRequested = false)
    {result : Except FrameError (FrameReading × Nat × Option GrayImage)}
    (h : conclude f result s = .ok (r, s')) :
    Concluded s.config.session.resourceRetryBudget s.exhaustedRun result r s' := by
  rcases conclude_eq_ok h with ⟨hcancel, -, -⟩ | ⟨-, ⟨reading, slots, preview, rfl, hr⟩ | ⟨e, rfl, hd⟩⟩
  · rw [hc] at hcancel
    cases hcancel
  · exact readingOutcome_concluded hs hr
  · have hd' := dropOutcome_concluded (α := FrameReading × Nat × Option GrayImage) hs f e
    rw [← hd] at hd'
    exact hd'

/-! ### A reserved frame -/

/-- A reserved frame that does not run keeps its promise to the count when the session's state
    and count are kept and no texture failure is reported. -/
theorem retries_of_unrun {c : Bool} (hn : s.ranResult f = none) (hu : Untouched s s')
    (hr : ∀ n, r ≠ .error (.resourceExhausted n)) :
    (∀ result, s.ranResult f = some result →
      (c = false → Concluded s.config.session.resourceRetryBudget s.exhaustedRun result r s') ∧
      (c = true → r = .error .cancelled ∧ s'.state = .cancelled)) ∧
    (s.ranResult f = none → Untouched s s' ∧ ∀ n, r ≠ .error (.resourceExhausted n)) :=
  ⟨fun _ h => absurd (hn.symm.trans h) (by simp), fun _ => ⟨hu, hr⟩⟩

/-- A reserved frame that runs is concluded by its result, unless another thread cancels while
    it runs, which ends the session as cancelled; one that does not run leaves the count alone
    and reports no texture failure. -/
theorem processReserved_retries {c : Bool} (hr : (processReserved f c).run.run s = .ok (r, s')) :
    (∀ result, s.ranResult f = some result →
      (c = false → Concluded s.config.session.resourceRetryBudget s.exhaustedRun result r s') ∧
      (c = true → r = .error .cancelled ∧ s'.state = .cancelled)) ∧
    (s.ranResult f = none → Untouched s s' ∧ ∀ n, r ≠ .error (.resourceExhausted n)) := by
  by_cases hact : s.state = .active
  · by_cases hc : s.cancelRequested
    · -- the poll ends the session as cancelled before the frame runs
      rw [processReserved_of_cancelRequested hact hc] at hr
      cases hr
      have hn : s.ranResult f = none := by
        unfold ranResult
        rw [admission_of_active hact, if_pos hc]
      exact retries_of_unrun hn (.of_ended (fun h => by cases h) (fun h => by cases h))
        fun _ h => by cases h
    by_cases ht : s.timeLimitReached
    · rw [processReserved_of_timeLimitReached hact (Bool.eq_false_iff.2 hc) ht] at hr
      cases hr
      have hn : s.ranResult f = none := by
        unfold ranResult
        rw [admission_of_active hact, if_neg hc, if_pos ht]
      exact retries_of_unrun hn (.of_ended (fun h => by cases h) (fun h => by cases h))
        fun _ h => by cases h
    -- the frame is admitted and runs; a fault of the run is no answer at all
    have hadm : s.admission = (.ok (), s.received) := by
      rw [admission_of_active hact, if_neg hc, if_neg ht]
    rw [processReserved_of_admitted hact (Bool.eq_false_iff.2 hc) (Bool.eq_false_iff.2 ht)] at hr
    cases hf : runFrame f s.received with
    | error e =>
      rw [hf] at hr
      cases hr
    | ok p =>
      obtain ⟨result, s2⟩ := p
      rw [hf, Except.ok_bind] at hr
      have hran : s.ranResult f = some result := by
        unfold ranResult
        rw [hadm]
        simp only [hf]
      obtain ⟨q, rfl, -⟩ := runFrame_eq_ok hf
      refine ⟨fun result' h => ?_, fun h => absurd (h.symm.trans hran) (by simp)⟩
      rw [hran, Option.some.injEq] at h
      subst h
      refine ⟨fun hc0 => ?_, fun hc1 => ?_⟩
      · -- running the frame changed only the pipeline, so it is concluded in the same session
        subst hc0
        exact conclude_concluded (s := ({ s.received with pipeline := q } : Session).released.raisedIf
          false) hact (cancelRequested_concluding (Bool.eq_false_iff.2 hc) q false) hr
      · -- another thread cancelled while the frame ran: its result is dropped
        subst hc1
        rcases conclude_eq_ok hr with ⟨-, hr', rfl⟩ | ⟨hclear, -⟩
        · exact ⟨hr', rfl⟩
        · rw [cancelRequested_concluding (Bool.eq_false_iff.2 hc)] at hclear
          cases hclear
  · -- an ended session refuses the frame and keeps its state
    rw [processReserved_run, admission_of_ended hact] at hr
    cases hr
    have hn : s.ranResult f = none := by
      unfold ranResult
      rw [admission_of_ended hact]
    exact retries_of_unrun hn (.of_eq rfl rfl) fun _ h => by cases h

/-- A frame runs only in an active session. -/
theorem active_of_ranResult {result : Except FrameError (FrameReading × Nat × Option GrayImage)}
    (h : s.ranResult f = some result) : s.state = .active := by
  unfold ranResult at h
  split at h
  · rename_i s1 ha
    exact (admission_ok ha).1
  · cases h

/-! ### New sessions -/

/-- A session that has run no frame yet: active, with no texture failure counted. -/
structure Untried (s : Session) : Prop where
  active : s.state = .active
  exhaustedRun : s.exhaustedRun = 0

theorem start_untried {c : ScanConfig} {loc : CardLocator}
    (h : start c (Pipeline.ofConfig c) loc = .ok (.ok s)) : s.Untried := by
  refine ⟨(start_started h).fresh.active, ?_⟩
  unfold start at h
  split at h
  · cases h
  · simp only [bind, Except.bind, pure, Except.pure] at h
    split at h
    · cases h
    · split at h
      · cases h
      · cases h
        rfl

end Session

/-! ## Every operation and every run -/

namespace SessionWorld

open Session

variable {w w' : SessionWorld} {op : SessionOp} {r : SessionReply}

/-- What running the frame of an operation gave, when the operation ran one: a frame of its own
    under a fresh reservation, or one under a reservation the client holds. -/
def frameResult (w : SessionWorld) :
    SessionOp → Option (Except FrameError (FrameReading × Nat × Option GrayImage))
  | .frame f _ => w.session.pipeline.tryReserve.bind fun p =>
      ranResult f { w.session with pipeline := p }
  | .reserved f _ => if w.permits = 0 then none else w.session.ranResult f
  | _ => none

/-- The results of the frames that ran in a run, in order; a fault ends the run. -/
def frameResults (w : SessionWorld) :
    List SessionOp → List (Except FrameError (FrameReading × Nat × Option GrayImage))
  | [] => []
  | op :: ops =>
    match w.step op with
    | .ok (_, w1) => (w.frameResult op).toList ++ frameResults w1 ops
    | .error _ => []

theorem frameResults_cons {ops : List SessionOp} (hs : w.step op = .ok (r, w')) :
    frameResults w (op :: ops) = (w.frameResult op).toList ++ frameResults w' ops := by
  simp only [frameResults, hs]

/-- An operation that runs no frame, keeps the session's state and count, and answers with no
    status keeps its promise to the count. -/
theorem step_retries_of_idle (hn : w.frameResult op = none) (hu : Untouched w.session w'.session)
    (hr : ∀ r', r ≠ .status r') :
    (∀ result, w.frameResult op = some result → ∃ r', r = .status r' ∧
      (op.cancelDuring = false → Concluded w.session.config.session.resourceRetryBudget
        w.session.exhaustedRun result r' w'.session) ∧
      (op.cancelDuring = true → r' = .error .cancelled ∧ w'.session.state = .cancelled)) ∧
    (w.frameResult op = none → Untouched w.session w'.session ∧
      ∀ n, r ≠ .status (.error (.resourceExhausted n))) :=
  ⟨fun _ h => absurd (hn.symm.trans h) (by simp), fun _ => ⟨hu, fun _ => hr _⟩⟩

/-- What one operation does to the count: an operation that ran a frame concludes it, or ends
    the session as cancelled when another thread cancelled while the frame ran; any other
    operation leaves the count alone and reports no texture failure. -/
theorem step_retries (hs : w.step op = .ok (r, w')) :
    (∀ result, w.frameResult op = some result → ∃ r', r = .status r' ∧
      (op.cancelDuring = false → Concluded w.session.config.session.resourceRetryBudget
        w.session.exhaustedRun result r' w'.session) ∧
      (op.cancelDuring = true → r' = .error .cancelled ∧ w'.session.state = .cancelled)) ∧
    (w.frameResult op = none → Untouched w.session w'.session ∧
      ∀ n, r ≠ .status (.error (.resourceExhausted n))) := by
  cases stepsTo_of_step hs with
  | frame f c hf =>
    rcases processFrame_eq_ok hf with ⟨hna, rfl, rfl⟩ | ⟨-, hp, rfl, rfl⟩ | ⟨-, p, hp, hr'⟩
    · -- an ended session refuses the frame, which never runs
      have hn : frameResult w (.frame f c) = none := by
        simp only [frameResult]
        cases w.session.pipeline.tryReserve with
        | none => rfl
        | some p =>
          show ranResult f _ = none
          unfold ranResult
          rw [admission_of_ended (s := { w.session with pipeline := p }) hna]
      refine ⟨fun _ h => absurd (hn.symm.trans h) (by simp), fun _ =>
        ⟨.of_eq rfl rfl, fun n h => nomatch h⟩⟩
    · -- a skipped frame never runs
      have hn : frameResult w (.frame f c) = none := by
        simp only [frameResult, hp, Option.bind_none]
      refine ⟨fun _ h => absurd (hn.symm.trans h) (by simp), fun _ =>
        ⟨.of_eq rfl rfl, fun n h => nomatch SessionReply.status.inj h⟩⟩
    · obtain ⟨h1, h2⟩ := processReserved_retries hr'
      have he : frameResult w (.frame f c) = ranResult f { w.session with pipeline := p } := by
        simp only [frameResult, hp, Option.bind_some]
      refine ⟨fun result h => ⟨_, rfl, (h1 result (he ▸ h)).1, (h1 result (he ▸ h)).2⟩,
        fun h => ?_⟩
      -- reserving the pipeline changed neither the state nor the count
      obtain ⟨hu, hres⟩ := h2 (he ▸ h)
      exact ⟨⟨hu.1, hu.2⟩, fun n h' => hres n (SessionReply.status.inj h')⟩
  | refusedFrame f c h0 =>
    exact step_retries_of_idle (by simp only [frameResult, h0, ↓reduceIte]) (.of_eq rfl rfl)
      fun _ h => nomatch h
  | reserved f c h0 hr' =>
    obtain ⟨h1, h2⟩ := processReserved_retries hr'
    have he : frameResult w (.reserved f c) = w.session.ranResult f := by
      simp only [frameResult, h0, ↓reduceIte]
    refine ⟨fun result h => ⟨_, rfl, (h1 result (he ▸ h)).1, (h1 result (he ▸ h)).2⟩,
      fun h => ?_⟩
    obtain ⟨hu, hres⟩ := h2 (he ▸ h)
    exact ⟨hu, fun n h' => hres n (SessionReply.status.inj h')⟩
  | poll =>
    refine step_retries_of_idle rfl ?_ fun _ h => nomatch h
    -- a poll keeps the session or ends it as cancelled or timed out
    unfold pollOutcome
    split
    · exact .of_eq rfl rfl
    · split
      · exact .of_ended (fun h => nomatch h) (fun h => nomatch h)
      · split
        · exact .of_ended (fun h => nomatch h) (fun h => nomatch h)
        · exact .of_eq rfl rfl
  | cancel =>
    refine step_retries_of_idle rfl ?_ fun _ h => nomatch h
    show Untouched w.session w.session.cancel
    unfold Session.cancel
    dsimp only
    split
    · exact .of_ended (fun h => nomatch h) (fun h => nomatch h)
    · exact .of_eq rfl rfl
  -- the other operations keep the session's state and count
  | signalCancel => exact step_retries_of_idle rfl (.of_eq rfl rfl) fun _ h => nomatch h
  | granted hp => exact step_retries_of_idle rfl (.of_eq rfl rfl) fun _ h => nomatch h
  | busy hp => exact step_retries_of_idle rfl (.of_eq rfl rfl) fun _ h => nomatch h
  | refusedDrop h0 => exact step_retries_of_idle rfl (.of_eq rfl rfl) fun _ h => nomatch h
  | drop h0 => exact step_retries_of_idle rfl (.of_eq rfl rfl) fun _ h => nomatch h
  | clock nanos => exact step_retries_of_idle rfl (.of_eq rfl rfl) fun _ h => nomatch h

/-- A frame runs only in an active session. -/
theorem active_of_frameResult {result : Except FrameError (FrameReading × Nat × Option GrayImage)}
    (h : w.frameResult op = some result) : w.session.state = .active := by
  cases op with
  | frame f c =>
    simp only [frameResult] at h
    obtain ⟨p, -, hp⟩ := Option.bind_eq_some_iff.1 h
    -- the reservation changed only the pipeline
    have h1 := active_of_ranResult hp
    exact h1
  | reserved f c =>
    simp only [frameResult] at h
    split at h
    · cases h
    · exact active_of_ranResult h
  | _ => cases h

end SessionWorld

/-! ## The count over a run -/

namespace Session

variable {s : Session}

/-- The retry count of a session whose retry budget is `k`, against the texture failures `bs`
    of the frames it ran: while the session is active its count is the streak of failures that
    ends `bs`, within the budget; once it has failed, `bs` holds a streak beyond the budget. -/
structure Retries (k : Nat) (s : Session) (bs : List Bool) : Prop where
  budget : s.config.session.resourceRetryBudget = k
  active : s.state = .active → s.exhaustedRun = trailingRun bs ∧ s.exhaustedRun ≤ k
  failed : s.state = .failed → List.replicate (k + 1) true <:+: bs

theorem Untried.retries (h : s.Untried) : s.Retries s.config.session.resourceRetryBudget [] where
  budget := rfl
  active _ := by
    rw [h.exhaustedRun]
    exact ⟨rfl, Nat.zero_le _⟩
  failed hf := by
    rw [h.active] at hf
    cases hf

end Session

namespace SessionWorld

open Session

variable {w w' : SessionWorld} {op : SessionOp} {r : SessionReply} {k : Nat} {bs : List Bool}

/-- Every operation keeps the count against the results, with the result of the frame it ran
    appended. -/
theorem retries_step (h : w.session.Retries k bs) (hs : w.step op = .ok (r, w')) :
    w'.session.Retries k (bs ++ (w.frameResult op).toList.map exhaustedResult) := by
  obtain ⟨hsome, hnone⟩ := step_retries hs
  have hbudget : w'.session.config.session.resourceRetryBudget = k := by
    rw [(step_settings hs).1]
    exact h.budget
  cases hfr : w.frameResult op with
  | none =>
    -- no frame ran: the results and the count stay as they were
    obtain ⟨hu, -⟩ := hnone hfr
    simp only [Option.toList_none, List.map_nil, List.append_nil]
    refine ⟨hbudget, fun ha => ?_, fun hf => h.failed (hu.failed hf)⟩
    obtain ⟨ha', hrun⟩ := hu.active ha
    rw [hrun]
    exact h.active ha'
  | some result =>
    obtain ⟨r', -, hconcl, hcancel⟩ := hsome result hfr
    simp only [Option.toList_some, List.map_cons, List.map_nil]
    cases hcd : op.cancelDuring
    case true =>
      -- a cancellation while the frame ran: the session is neither active nor failed
      have hst := (hcancel hcd).2
      refine ⟨hbudget, fun ha => ?_, fun hf => ?_⟩
      · rw [hst] at ha
        cases ha
      · rw [hst] at hf
        cases hf
    have hc := hconcl hcd
    obtain ⟨hrun, hle⟩ := h.active (active_of_frameResult hfr)
    rw [h.budget, hrun] at hc
    refine ⟨hbudget, fun ha => ?_, fun hf => ?_⟩
    · rw [hc.active ha, trailingRun_concat]
      refine ⟨rfl, ?_⟩
      unfold nextRun
      split
      · -- a failure that left the session active kept the count within the budget
        rename_i hx
        by_contra hgt
        obtain ⟨n, hn⟩ := hc.fails.2 ⟨hx, by omega⟩
        rw [(hc.reports n hn).2] at ha
        cases ha
      · exact Nat.zero_le _
    · -- the failing frame ends a streak one beyond the budget
      obtain ⟨hx, hk⟩ := hc.failed hf
      have hlen : k + 1 ≤ trailingRun (bs ++ [exhaustedResult result]) := by
        rw [trailingRun_concat, if_pos hx]
        omega
      exact (replicate_suffix_iff.2 hlen).isInfix

theorem retries_runFrom {ops : List SessionOp} {rs : List SessionReply}
    (h : w.session.Retries k bs) (hr : runFrom w ops = .ok (rs, w')) :
    w'.session.Retries k (bs ++ (frameResults w ops).map exhaustedResult) := by
  induction ops generalizing w bs rs with
  | nil =>
    cases hr
    simpa [frameResults] using h
  | cons op ops ih =>
    obtain ⟨r, w1, rs1, hs, hr1, -⟩ := runFrom_cons_eq_ok hr
    rw [frameResults_cons hs, List.map_append, ← List.append_assoc]
    exact ih (retries_step h hs) hr1

/-- The retry budget over every run of a session that has run no frame yet.  An operation ends
    the session as failed, answering with exhausted texture memory, exactly when the frame it
    ran ran out of texture memory, no other thread cancelled while it ran, and the last `k`
    frames that ran before it, for the budget `k`, ran out of texture memory too; the answer
    then counts `k + 1` attempts.  Frames skipped or refused before they ran do not count, and
    a frame read or dropped for another error breaks the streak.  So a run whose streaks of
    texture failures are all at most `k` long never ends failed. -/
theorem runFrom_untried_retry_budget {s0 : Session} (h0 : s0.Untried) {ops : List SessionOp}
    {rs : List SessionReply} {w : SessionWorld} (hr : runFrom ⟨s0, 0⟩ ops = .ok (rs, w)) :
    (∀ op r w', w.step op = .ok (r, w') →
      (((∃ n, r = .status (.error (.resourceExhausted n))) ∧ w'.session.state = .failed) ↔
        (∃ e, w.frameResult op = some (.error e) ∧ e.isExhausted) ∧ op.cancelDuring = false ∧
          List.replicate s0.config.session.resourceRetryBudget true <:+
            (frameResults ⟨s0, 0⟩ ops).map exhaustedResult) ∧
      ∀ n, r = .status (.error (.resourceExhausted n)) →
        n = s0.config.session.resourceRetryBudget + 1) ∧
    ((∀ n, List.replicate n true <:+: (frameResults ⟨s0, 0⟩ ops).map exhaustedResult →
        n ≤ s0.config.session.resourceRetryBudget) → w.session.state ≠ .failed) := by
  have hw := retries_runFrom (w := ⟨s0, 0⟩) h0.retries hr
  rw [List.nil_append] at hw
  refine ⟨fun op r w' hs => ?_, fun hall hf => ?_⟩
  · obtain ⟨hsome, hnone⟩ := step_retries hs
    cases hfr : w.frameResult op with
    | none =>
      -- no frame ran, and nothing is reported
      obtain ⟨-, hres⟩ := hnone hfr
      exact ⟨iff_of_false (fun ⟨⟨n, hn⟩, _⟩ => hres n hn) (fun ⟨⟨e, he, _⟩, _⟩ => nomatch he),
        fun n hn => absurd hn (hres n)⟩
    | some result =>
      obtain ⟨r', rfl, hconcl, hcancel⟩ := hsome result hfr
      cases hcd : op.cancelDuring
      case true =>
        -- a cancellation while the frame ran answers with the cancellation
        obtain ⟨hr', -⟩ := hcancel hcd
        subst hr'
        exact ⟨iff_of_false (fun ⟨⟨n, hn⟩, _⟩ => nomatch hn) (fun ⟨_, h, _⟩ => nomatch h),
          fun n hn => nomatch hn⟩
      have hc := hconcl hcd
      obtain ⟨hrun, hle⟩ := hw.active (active_of_frameResult hfr)
      rw [hw.budget, hrun] at hc
      refine ⟨⟨fun ⟨⟨n, hn⟩, _⟩ => ?_, fun ⟨⟨e, he, hx⟩, _, hsuf⟩ => ?_⟩, fun n hn => ?_⟩
      · obtain ⟨hx, hk⟩ := hc.fails.1 ⟨n, SessionReply.status.inj hn⟩
        cases result with
        | ok _ => cases hx
        | error e => exact ⟨⟨e, rfl, hx⟩, rfl, replicate_suffix_iff.2 (by omega)⟩
      · cases he
        have hk := replicate_suffix_iff.1 hsuf
        obtain ⟨n, hn⟩ := hc.fails.2 ⟨hx, by omega⟩
        exact ⟨⟨n, by rw [hn]⟩, (hc.reports n hn).2⟩
      · -- the count reported is one beyond the budget, which it had reached
        have hn' := SessionReply.status.inj hn
        obtain ⟨hn1, -⟩ := hc.reports n hn'
        obtain ⟨-, hk⟩ := hc.fails.1 ⟨n, hn'⟩
        omega
  · have hk := hall _ (hw.failed hf)
    omega

/-- A session without texture memory and with a retry budget of one, whose frames are all
    located at a fixed outline. -/
def starved : Session :=
  let c : ScanConfig := { session := { timeoutSecs := none, resourceRetryBudget := 1 },
                          device := { memoryBudgetBytes := 0 } }
  { Session.sample with config := c, pipeline := Pipeline.ofConfig c, locator := .fixed default }

/-- A session without texture memory and a retry budget of one fails on its second frame,
    which reports two attempts. -/
theorem runFrom_untried_retry_budget_starved :
    ∃ rs w r w', runFrom ⟨starved, 0⟩ [.frame default false] = .ok (rs, w) ∧
      w.step (.frame default false) = .ok (r, w') ∧ r = .status (.error (.resourceExhausted 2)) ∧
      w'.session.state = .failed := by
  refine ⟨_, _, _, _, rfl, rfl, ?_⟩
  obtain ⟨hstep, -⟩ := runFrom_untried_retry_budget (show starved.Untried from ⟨rfl, rfl⟩)
    (show runFrom ⟨starved, 0⟩ [.frame default false] = .ok (_, _) from rfl)
  obtain ⟨hiff, hn⟩ := hstep (.frame default false) _ _ rfl
  obtain ⟨⟨n, hr⟩, hf⟩ := hiff.2 ⟨⟨_, rfl, rfl⟩, rfl, List.suffix_refl _⟩
  rw [hr, hn n hr]
  exact ⟨rfl, hf⟩

end SessionWorld

end CardOcr
