import CardOcr.Filter.Transform
import CardOcr.Frame
import CardOcr.Config.Basic

/-! # The frame correction pipeline

A `Pipeline` turns a frame and the card's outline in it into the deskewed, smoothed card:
a perspective stage to the canonical size, then a blur stage.  The stages are configured
lazily for the size of the frames they see and kept while the size stays; a frame of another
size drops them (giving their textures back) and configures new ones.

Frames are processed one at a time.  A caller reserves the pipeline (`tryReserve`), which
fails while another frame holds it, processes one frame under the reservation
(`processReserved`) and releases it (`release`).  The pipeline is `processing` while
reserved, and otherwise `ready` when its stages are configured and `idle` when not;
`submit` reserves, processes and releases in one step, or skips the frame when the pipeline
is busy.  `teardown` drops the stages.

Operations run in `PipelineM`: a failure leaves the changes made before it in place.
-/

namespace CardOcr

/-- The state of the pipeline's single processing slot. -/
inductive PipelineState where
  | idle
  | ready
  | processing
  deriving Repr, DecidableEq, Inhabited

def PipelineState.name : PipelineState → String
  | .idle => "Idle"
  | .ready => "Ready"
  | .processing => "Processing"

/-- The stages configured for frames of one size. -/
structure StageChain where
  frameSize : Size
  transform : TransformStage
  blur : BlurStage
  deriving Inhabited

/-- What the stages are built from: the canonical size and border shade, the least card
    area, and the blur's standard deviation. -/
structure StageSettings where
  output : Size
  border : UInt8
  minArea : Float
  sigma : Float32
  deriving Inhabited

/-- A corrected card image, with the frame's sequence number and the outline used. -/
structure CorrectedImage where
  sequence : Nat
  quad : Quad
  image : GrayImage
  deriving Inhabited

/-- The outcome of submitting a frame. -/
inductive Submission where
  | corrected (c : CorrectedImage)
  /-- The pipeline was busy. -/
  | skipped
  deriving Inhabited

/-- The frame correction pipeline. -/
structure Pipeline where
  settings : StageSettings
  arena : TextureArena
  state : PipelineState := .idle
  /-- Whether stages are configured, which decides the state on release. -/
  configured : Bool := false
  chain : Option StageChain := none
  deriving Inhabited

/-- Pipeline operations: a failure keeps the changes made before it. -/
abbrev PipelineM := ExceptT FrameFailure (StateM Pipeline)

namespace Pipeline

/-- A pipeline with no stages, for a configuration. -/
def ofConfig (c : ScanConfig) : Pipeline :=
  { settings := { output := ⟨c.canonical.width, c.canonical.height⟩,
                  border := c.canonical.borderValue.toUInt8, minArea := c.geometry.minQuadArea,
                  sigma := c.blur.sigma },
    arena := { budget := c.device.memoryBudgetBytes } }

def bytesInUse (p : Pipeline) : Nat := p.arena.bytesInUse

/-- Reserves the pipeline unless a frame holds it. -/
def tryReserve (p : Pipeline) : Option Pipeline :=
  if p.state = .processing then none else some { p with state := .processing }

/-- Ends a reservation. -/
def release (p : Pipeline) : Pipeline :=
  { p with state := if p.configured then .ready else .idle }

/-- Drops the stages, giving their textures back. -/
def dropChain (p : Pipeline) : Pipeline :=
  match p.chain with
  | none => p
  | some c =>
    let a := (p.arena.release c.transform.texture).2
    { p with arena := (a.release c.blur.texture).2, chain := none }

/-- Stages for frames of `size`: the perspective stage, then the blur on its output.  If the
    blur cannot be configured the perspective stage's texture is given back. -/
def configureChain (s : StageSettings) (arena : TextureArena) (size : Size) :
    Except FrameFailure (StageChain × TextureArena) := do
  let (t, arena') ← TransformStage.configure arena size s.output s.border s.minArea
  match BlurStage.configure arena' s.output s.sigma with
  | .ok (b, arena'') => return (⟨size, t, b⟩, arena'')
  | .error e => throw e

/-- The stages for frames of `size`: the current ones if they fit, else new ones. -/
def stagesFor (size : Size) : PipelineM StageChain := do
  let p ← get
  match p.chain with
  | some c => if c.frameSize = size then return c else pure ()
  | none => pure ()
  set { p.dropChain with configured := false }
  let p ← get
  match configureChain p.settings p.arena size with
  | .error e => throw e
  | .ok (c, arena) =>
    set { p with arena := arena, chain := some c, configured := true }
    return c

/-- Corrects a frame under a reservation held by the caller. -/
def processReserved (f : Frame) (q : Quad) : PipelineM CorrectedImage := do
  let input ← match f.toGray with
    | .ok img => pure img
    | .error e => throw (.error e)
  let c ← stagesFor ⟨input.width, input.height⟩
  let (r, t) := c.transform.setQuad q
  modify fun p => { p with chain := some { c with transform := t } }
  match r with
  | .error e => throw e
  | .ok () => pure ()
  let warped ← match t.apply input with
    | .ok img => pure img
    | .error e => throw e
  let image ← match c.blur.apply warped with
    | .ok img => pure img
    | .error e => throw (.error e)
  return ⟨f.sequence, q, image⟩

/-- Reserves, corrects and releases; skips the frame when the pipeline is busy. -/
def submit (f : Frame) (q : Quad) : PipelineM Submission := do
  match (← get).tryReserve with
  | none => return .skipped
  | some p =>
    set p
    let r ← tryCatch (Except.ok <$> processReserved f q) (fun e => pure (Except.error e))
    modify release
    match r with
    | .ok c => return .corrected c
    | .error e => throw e

/-- Drops the stages; a ready pipeline becomes idle, a reserved one stays reserved. -/
def teardown (p : Pipeline) : Pipeline :=
  let p := { p.dropChain with configured := false }
  if p.state = .ready then { p with state := .idle } else p

end Pipeline

end CardOcr
