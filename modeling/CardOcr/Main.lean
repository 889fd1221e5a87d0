import CardOcr.Session.Stills
import CardOcr.Image.Netpbm
import CardOcr.Synthetic
import CardOcr.Json.Text

/-! # The scanner's command line

Reads the arguments, runs the command and prints its result.  Pictures are read and
written as binary Netpbm files (`P5`, `P6`).  A failed command prints its failure on the
error stream and exits with status 1; a usage error exits with status 2, and a fault with
status 101.
-/

open CardOcr

/-- Prints a failure and gives exit status 1. -/
def failWith (f : Failure) : IO UInt32 := do
  IO.eprintln f.render
  return 1

/-- Prints a fault the way an aborted run reports it and gives exit status 101. -/
def faultWith (f : Fault) : IO UInt32 := do
  IO.eprintln ("thread 'main' panicked:\n" ++ f.message)
  return 101

/-- A progress line on the error stream, when verbose. -/
def debugLine (verbose : Bool) (line : String) : IO Unit :=
  if verbose then IO.eprintln ("[DEBUG cardscan] " ++ line) else pure ()

/-- The settings from an optional file, with the card layout switched when asked. -/
def loadSettings (path : Option String) (amex : Bool) : IO (Except Failure ScanConfig) := do
  let base ← match path with
    | none => pure (Except.ok {})
    | some p =>
      let context (e : ConfigError) (cause : String) : Failure :=
        { message := "Failed to load config " ++ p, causes := [e.message, cause] }
      try
        let text ← IO.FS.readFile p
        pure <| match ScanConfig.load text with
          | .ok c => .ok c
          | .error e@(.parse d) => .error (context e d.message)
          | .error e@(.io k) => .error (context e k.message)
          | .error e@(.invalid _) => .error { message := "Failed to load config " ++ p, causes := [e.message] }
      catch err =>
        pure (.error (context (.io .notFound) (toString err)))
  match base with
  | .error f => return .error f
  | .ok c =>
    if !amex then return .ok c
    let c := { c with layout := .amex }
    return match c.validate with
      | .ok () => .ok c
      | .error e => .error { message := e.message }

/-- Reads a picture file. -/
def loadPicture (path : String) : IO (Except Failure GrayImage) := do
  try
    let data ← IO.FS.readBinFile path
    return match GrayImage.ofNetpbm data with
      | .ok img => .ok img
      | .error e => .error { message := "Failed to decode image " ++ path, causes := [e] }
  catch err =>
    return .error { message := "Failed to open " ++ path, causes := [toString err] }

/-- The `scan` command. -/
def runScan (verbose : Bool) (o : ScanOptions) : IO UInt32 := do
  let cfg ← match ← loadSettings o.config o.amex with
    | .ok c => pure c
    | .error f => return ← failWith f
  let locator ← match o.quad with
    | none => pure (CardLocator.guided (GuideLocator.ofConfig cfg))
    | some text => match Quad.ofCornerText text with
      | .ok q => pure (CardLocator.fixed q)
      | .error f => return ← failWith f
  if o.debugOut.isSome then
    return ← failWith { message := "debug output is not available" }
  let session ← match Session.start cfg (Pipeline.ofConfig cfg) locator with
    | .error e => return ← failWith { message := e.message }
    | .ok (.error f) => return ← faultWith f
    | .ok (.ok s) => pure s
  let started ← IO.monoNanosNow
  let mut images : Array GrayImage := #[]
  for path in o.images do
    match ← loadPicture path with
    | .ok img =>
      debugLine verbose ("loaded " ++ path ++ " (" ++ toString img.width ++ "x" ++ toString img.height ++ ")")
      images := images.push img
    | .error f => return ← failWith f
  match session.feedStills images.toList o.repeats with
  | .error f => faultWith f
  | .ok (outcome, log) =>
    for line in log do debugLine verbose line
    match outcome with
    | .failed f => failWith f
    | .read report =>
      let id := uuidText (← IO.getRandomBytes 16)
      let elapsed := (← IO.monoNanosNow) - started
      IO.println (Json.renderPretty 0 (report.toJson id elapsed))
      return 0

/-- The `synth` command. -/
def runSynth (o : SynthOptions) : IO UInt32 := do
  let cfg ← match ← loadSettings none o.amex with
    | .ok c => pure c
    | .error f => return ← failWith f
  let mut card := { SyntheticCard.ofConfig o.number cfg with flipped := o.flipped }
  if let some text := o.expiry then
    match expiryOfText text with
    | .ok e => card := { card with expiry := some e }
    | .error f => return ← failWith f
  let aspect := cfg.canonical.width.toFloat / cfg.canonical.height.toFloat
  let quad := Quad.centered o.width o.height aspect 0.78
  match card.renderNoisyFrame o.width o.height quad 40 o.noise o.seed.toUInt64 with
  | .error (.fault f) => faultWith f
  | .error (.error e) => failWith { message := e.message }
  | .ok frame =>
    try IO.FS.writeBinFile o.out frame.toGraymap
    catch err => return ← failWith { message := "Failed to save " ++ o.out, causes := [toString err] }
    IO.println (",".intercalate (quad.corners.flatMap fun p => [p.x.toPlainText, p.y.toPlainText]))
    return 0

def main (args : List String) : IO UInt32 := do
  match Invocation.parse args with
  | .error u =>
    IO.eprintln u.text
    return 2
  | .ok ⟨_, .help text⟩ =>
    IO.println text
    return 0
  | .ok ⟨verbose, .scan o⟩ => runScan verbose o
  | .ok ⟨_, .synth o⟩ => runSynth o
