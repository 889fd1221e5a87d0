import CardOcr.Session.Stats
import CardOcr.Pipeline
import CardOcr.Locator.Guided
import CardOcr.Detect.Detection
import CardOcr.Detect.Classify
import CardOcr.Read.Assembler
import CardOcr.Config.Validate

/-! # Scanning sessions

A `Session` reads one card from a stream of frames.  Each frame is located, corrected by the
pipeline, searched for glyph groups and read; the readings are tallied until the assembler
settles on a card (`ScanStatus.complete`), and meanwhile every frame reports its progress
(`ScanStatus.scanning`).  A frame that arrives while the pipeline is busy is skipped.

A frame dropped for a frame error is counted by kind.  Too many texture failures in a row
(more than the retry budget) fail the session; the frame limit, a cancellation and the time
limit end it too.  The session reads no clock itself: `elapsedNanos` is the time since it
started as last read by its caller, who sets it before each operation, and the time limit is
reached once that time is at least the limit (a limit of zero at once).  Ending a session
drops its tally and tears the pipeline down; an ended session refuses further frames.

Operations run in `SessionM`: a session error keeps the changes made before it, a fault ends
the computation.
-/

namespace CardOcr

/-- Progress of an unfinished scan after a frame. -/
structure ScanProgress where
  sequence : Nat
  framesProcessed : Nat
  slotsDetected : Nat
  stability : Float32
  /-- The corrected card, when previews are asked for. -/
  preview : Option GrayImage
  deriving Inhabited

/-- The card read by a finished scan. -/
structure ScanReport where
  card : CardInfo
  framesProcessed : Nat
  deriving Inhabited

/-- The outcome of a frame. -/
inductive ScanStatus where
  | scanning (p : ScanProgress)
  | complete (r : ScanReport)
  deriving Inhabited

/-- A scanning session. -/
structure Session where
  config : ScanConfig
  pipeline : Pipeline
  locator : CardLocator
  layout : CardLayout
  reader : GlyphReader
  /-- The votes so far; dropped when the session ends. -/
  tally : Option VoteTally
  cancelRequested : Bool := false
  stats : SessionStats := {}
  state : SessionState := .active
  stability : Float32 := 0
  /-- Texture failures in a row. -/
  exhaustedRun : Nat := 0
  /-- Nanoseconds since the session started, as last read from a clock. -/
  elapsedNanos : Nat := 0
  deriving Inhabited

/-- Session operations: a session error keeps the changes made before it. -/
abbrev SessionM := ExceptT ScanError (StateT Session (Except Fault))

namespace Session

/-- A new session, once its configuration is valid. -/
def start (config : ScanConfig) (pipeline : Pipeline) (locator : CardLocator) :
    Except ConfigError (Except Fault Session) :=
  match config.validate with
  | .error e => .error e
  | .ok () => .ok do
    let layout ← CardLayout.ofConfig config
    let reader ← GlyphReader.ofLayout layout config.classifier
    return { config, pipeline, locator, layout, reader,
             tally := some (VoteTally.empty layout.digitCount layout.numberSlots.length) }

/-- Ends the session: the tally is dropped and the pipeline torn down. -/
def finish (s : Session) (state : SessionState) : Session :=
  { s with state := state, tally := none, pipeline := s.pipeline.teardown }

/-- Asks the session to stop; an active session ends as cancelled. -/
def cancel (s : Session) : Session :=
  let s := { s with cancelRequested := true }
  if s.state = .active then s.finish .cancelled else s

def ensureActive : SessionM Unit := do
  if (← get).state ≠ .active then throw .sessionEnded

/-- Ends the session for its frame limit or time limit. -/
def timeOut : SessionM ScanError := do
  modify (·.finish .timedOut)
  return .timedOut (← get).stats.framesReceived

/-- Whether the time limit is reached: the session has a limit and has run at least that
    long. -/
def timeLimitReached (s : Session) : Bool :=
  s.config.session.timeout.any fun limit => limit.toNanos ≤ s.elapsedNanos

/-- Checks for a cancellation or the time limit. -/
def poll : SessionM Unit := do
  ensureActive
  if (← get).cancelRequested then
    modify (·.finish .cancelled)
    throw .cancelled
  if (← get).timeLimitReached then throw (← timeOut)

/-- A computation that may fault, as a session operation. -/
def liftFault {α : Type} (x : Except Fault α) : SessionM α :=
  fun s => x.map fun a => (.ok a, s)

/-- Ends a reservation of the pipeline. -/
def releasePermit : SessionM Unit :=
  modify fun s => { s with pipeline := s.pipeline.release }

/-- Reads every candidate of a detection into a frame reading. -/
def readDetection (s : Session) (d : Detection) : Except Fault FrameReading :=
  d.candidates.foldlM (fun r c => do
    let labels := (← s.reader.read d.image c).map (·.label)
    match c.kind with
    | .numberGroup g =>
      let first := (s.layout.numberSlots[g]?.map (·.firstPosition)).getD 0
      r.addGroup first c labels
    | .expiry => r.addExpiry c labels) (FrameReading.empty s.layout.digitCount)

/-- Locates, corrects, detects and reads a frame: the reading, the number of slots found
    and the preview. -/
def runFrame (f : Frame) :
    StateT Session (Except Fault) (Except FrameError (FrameReading × Nat × Option GrayImage)) := do
  let s ← get
  let q ← match s.locator.locate f with
    | .ok q => pure q
    | .error (.error e) => return .error e
    | .error (.fault e) => throw e
  let (r, p) := (Pipeline.processReserved f q).run s.pipeline
  set { s with pipeline := p }
  let corrected ← match r with
    | .ok c => pure c
    | .error (.error e) => return .error e
    | .error (.fault e) => throw e
  let d ← s.layout.detect s.config.detector corrected.image
  let reading ← s.readDetection d
  let preview := if s.config.session.emitPreview then some d.image else none
  return .ok (reading, d.slotsFound, preview)

/-- Progress after a frame. -/
def progress (s : Session) (sequence slots : Nat) (preview : Option GrayImage) : ScanProgress :=
  ⟨sequence, s.stats.framesProcessed, slots, s.stability, preview⟩

/-- Tallies a reading: the card, once the assembler settles on one. -/
def tallyReading (r : FrameReading) : SessionM (Option CardInfo) := do
  let s ← get
  let some t := s.tally | return none
  let (t, a) ← liftFault (VoteTally.update s.config.aggregator t r)
  set { s with tally := some t }
  match a with
  | .ready card => return some card
  | .notYet st =>
    modify fun s => { s with stability := st }
    return none

/-- Admits a frame under a reservation: an ended session refuses it, else it is counted as
    received and the session is polled.  A refused frame ends the reservation. -/
def admitReserved : SessionM Unit := do
  try
    ensureActive
    modify fun s => { s with stats := { s.stats with framesReceived := s.stats.framesReceived + 1 } }
    poll
  catch e =>
    releasePermit
    throw e

/-- The progress after a frame, unless the session has now received its last frame. -/
def checkFrameLimit (f : Frame) (slots : Nat) (preview : Option GrayImage) : SessionM ScanStatus := do
  let s ← get
  if let some limit := s.config.session.maxFrames then
    if s.stats.framesReceived ≥ limit then throw (← timeOut)
  return .scanning (s.progress f.sequence slots preview)

/-- Tallies the reading of a processed frame: the card, once the assembler settles on one. -/
def takeReading (f : Frame) (reading : FrameReading) (slots : Nat) (preview : Option GrayImage) :
    SessionM ScanStatus := do
  modify fun s => { s with exhaustedRun := 0,
                           stats := { s.stats with framesProcessed := s.stats.framesProcessed + 1 } }
  match ← tallyReading reading with
  | some card =>
    modify (·.finish .complete)
    return .complete ⟨card, (← get).stats.framesProcessed⟩
  | none => checkFrameLimit f slots preview

/-- Counts a frame dropped for an error; texture failures in a row beyond the retry budget fail
    the session. -/
def dropFrame (f : Frame) (e : FrameError) : SessionM ScanStatus := do
  modify fun s => { s with stats := s.stats.count e }
  match e with
  | .resourceExhausted _ _ _ =>
    modify fun s => { s with exhaustedRun := s.exhaustedRun + 1 }
    let s ← get
    if s.exhaustedRun > s.config.session.resourceRetryBudget then
      modify (·.finish .failed)
      throw (.resourceExhausted s.exhaustedRun)
  | _ => modify fun s => { s with exhaustedRun := 0 }
  checkFrameLimit f 0 none

/-- Admits a frame under a reservation and runs it, ending the reservation: the frame's
    reading, or its error. -/
def runReserved (f : Frame) :
    SessionM (Except FrameError (FrameReading × Nat × Option GrayImage)) := do
  admitReserved
  let result ← (runFrame f : StateT Session (Except Fault) _)
  releasePermit
  return result

/-- Ends a reserved frame that has run.  The cancellation flag is shared with every holder of
    the session's token: raised by the time the frame has run, it drops the frame's result.
    Otherwise a reading is tallied and an error drops the frame. -/
def concludeReserved (f : Frame)
    (result : Except FrameError (FrameReading × Nat × Option GrayImage)) : SessionM ScanStatus := do
  if (← get).cancelRequested then
    modify (·.finish .cancelled)
    throw .cancelled
  match result with
  | .ok (reading, slots, preview) => takeReading f reading slots preview
  | .error e => dropFrame f e

/-- Processes a frame under a reservation of the pipeline, which ends with the call.  The
    cancellation token is shared with other threads, which may cancel while the frame runs:
    `cancelDuring` says whether one of them does, after the frame was admitted and before it
    is concluded. -/
def processReserved (f : Frame) (cancelDuring : Bool) : SessionM ScanStatus := do
  let result ← runReserved f
  modify fun s => { s with cancelRequested := s.cancelRequested || cancelDuring }
  concludeReserved f result

/-- Processes a frame if the pipeline is free, else counts it as skipped; `cancelDuring` is
    that of `processReserved`. -/
def processFrame (f : Frame) (cancelDuring : Bool) : SessionM ScanStatus := do
  ensureActive
  match (← get).pipeline.tryReserve with
  | some p =>
    modify fun s => { s with pipeline := p }
    processReserved f cancelDuring
  | none =>
    modify fun s => { s with stats := { s.stats with framesReceived := s.stats.framesReceived + 1,
                                                      framesSkipped := s.stats.framesSkipped + 1 } }
    return .scanning ((← get).progress f.sequence 0 none)

end Session

end CardOcr
