import CardOcr.Session.Basic
import CardOcr.Command
import CardOcr.Decimal.Fixed
import CardOcr.Json.Text

/-! # Scanning still pictures

`Session.feedStills` feeds a list of still pictures to a session as camera frames, the whole
list `rounds` times over with sequence numbers counting up from zero, and stops at the
first frame that completes the card or ends the session.  It gives a `StillsOutcome` (the
report, or why no card was read) and one progress line per frame that was still scanning.
The feed reads no clock, so the session's elapsed time stays as its caller set it.

`ScanReport.toJson` writes the report with the session's identifier and running time,
which come from outside: the session itself keeps neither.
-/

namespace CardOcr

/-- What feeding still pictures to a session gave. -/
inductive StillsOutcome where
  | read (r : ScanReport)
  | failed (f : Failure)
  deriving Inhabited

namespace Session

/-- The progress line of a frame that is still scanning. -/
def progressLine (p : ScanProgress) : String :=
  "frame " ++ toString p.sequence ++ ": " ++ toString p.slotsDetected ++ " slots, stability " ++
    Float.toFixedText 2 p.stability.toFloat

/-- Why no card was read once every frame was fed. -/
def exhausted (s : SessionStats) : Failure :=
  { message := "No card read after " ++ toString s.framesReceived ++ " frames (" ++
      toString s.framesFailed ++ " dropped: " ++ toString s.invalidGeometry ++ " geometry, " ++
      toString s.cardNotFound ++ " card not found)" }

/-- Feeds `frames` (picture and sequence number) in order, with the progress lines so far;
    none when every frame was still scanning. -/
def feedFrames : List (GrayImage × Nat) → Session → List String →
    Except Fault (Option StillsOutcome × Session × List String)
  | [], s, log => .ok (none, s, log)
  | (img, seq) :: rest, s, log => do
    let (r, s) ← ((processFrame (Frame.ofGray img seq) false).run).run s
    match r with
    | .ok (.scanning p) => feedFrames rest s (log ++ [progressLine p])
    | .ok (.complete report) => return (some (.read report), s, log)
    | .error (.timedOut n) =>
      return (some (.failed { message := "No card read within " ++ toString n ++ " frames" }), s, log)
    | .error e => return (some (.failed { message := "Scan failed", causes := [e.message] }), s, log)

/-- Feeds the pictures `rounds` times over as frames numbered from zero, and says how it
    ended, with the progress lines. -/
def feedStills (s : Session) (images : List GrayImage) (rounds : Nat) :
    Except Fault (StillsOutcome × List String) := do
  let frames := (List.range (rounds * images.length)).map fun i =>
    (images.getD (i % images.length) default, i)
  let (outcome, s, log) ← feedFrames frames s []
  return (outcome.getD (.failed (exhausted s.stats)), log)

end Session

/-- Lowercase hexadecimal text of a byte, two digits. -/
def byteHex (b : UInt8) : String :=
  String.singleton (Json.hexDigit (b.toNat / 16)) ++ String.singleton (Json.hexDigit (b.toNat % 16))

/-- A random (version 4) identifier in its hyphenated text form, from sixteen random bytes:
    the version nibble is set to 4 and the variant bits to `10`. -/
def uuidText (bytes : ByteArray) : String :=
  let b (i : Nat) : UInt8 :=
    let v : UInt8 := bytes[i]?.getD 0
    if i = 6 then (v &&& 0x0f) ||| 0x40 else if i = 8 then (v &&& 0x3f) ||| 0x80 else v
  let part (lo hi : Nat) : String := String.join ((List.range' lo (hi - lo)).map (byteHex ∘ b))
  part 0 4 ++ "-" ++ part 4 6 ++ "-" ++ part 6 8 ++ "-" ++ part 8 10 ++ "-" ++ part 10 16

/-- The report as JSON, with the session identifier and its running time in nanoseconds;
    the fields keep the order identifier, card, frame count, running time. -/
def ScanReport.toJson (r : ScanReport) (sessionId : String) (elapsedNanos : Nat) : Json :=
  .obj [("session_id", .str sessionId), ("card", r.card.toJson),
    ("frames_processed", .ofNat r.framesProcessed),
    ("elapsed", .obj [("secs", .ofNat (elapsedNanos / 1000000000)),
      ("nanos", .ofNat (elapsedNanos % 1000000000))])]

end CardOcr
