import CardOcr.Decimal.Shortest
import CardOcr.Decimal.Fixed
import CardOcr.Json.Basic
import CardOcr.Json.Error
import CardOcr.Json.Shape
import CardOcr.Json.Reader
import CardOcr.Json.Text
import CardOcr.Config.Basic
import CardOcr.Config.Decode
import CardOcr.Config.Validate
import CardOcr.Config.Encode
import CardOcr.Fault
import CardOcr.Unicode.Tables
import CardOcr.Unicode.Escape
import CardOcr.Card
import CardOcr.Read.Histogram
import CardOcr.Read.Reading
import CardOcr.Read.Assembler
import CardOcr.Detect.Candidate
import CardOcr.Layout
import CardOcr.Error
import CardOcr.Image.Gray
import CardOcr.Frame
import CardOcr.Texture
import CardOcr.Glyph
import CardOcr.Numeric.Dyadic
import CardOcr.Numeric.Hypot
import CardOcr.Geometry.Quad
import CardOcr.Geometry.Homography
import CardOcr.Linear.Square
import CardOcr.Linear.Householder
import CardOcr.Linear.SymmetricEigen
import CardOcr.Image.Warp
import CardOcr.Image.Blur
import CardOcr.Filter.Blur
import CardOcr.Filter.Transform
import CardOcr.Random.ChaCha
import CardOcr.Random.Uniform
import CardOcr.Synthetic
import CardOcr.Numeric.Extremum
import CardOcr.Image.Gradient
import CardOcr.Image.Threshold
import CardOcr.Detect.Slot
import CardOcr.Detect.Detection
import CardOcr.Detect.Classify
import CardOcr.Locator.Line
import CardOcr.Locator.Guided
import CardOcr.Pipeline
import CardOcr.Session.Stats
import CardOcr.Session.Basic
import CardOcr.Command
import CardOcr.Image.Netpbm
import CardOcr.Main
import CardOcr.Proofs.CheckedSums
import CardOcr.Proofs.Histogram
import CardOcr.Proofs.Tally
import CardOcr.Proofs.Assessment
import CardOcr.Proofs.FailureKinds
import CardOcr.Proofs.PipelineInvariant
import CardOcr.Proofs.SessionSteps
import CardOcr.Proofs.SessionLifecycle
import CardOcr.Proofs.Detection
import CardOcr.Proofs.Readings
import CardOcr.Proofs.Reports
import CardOcr.Proofs.LayoutFits
import CardOcr.Proofs.TextureBudget
import CardOcr.Proofs.FrameAccounting
import CardOcr.Proofs.SessionDeadlines
import CardOcr.Proofs.BlurKernel
import CardOcr.Proofs.RetryBudget
import CardOcr.Proofs.FrameBuffers
import CardOcr.Proofs.SlotScore
import CardOcr.Proofs.AssemblerFaults
import CardOcr.Proofs.Orientation
import CardOcr.Proofs.GuideSamples
import CardOcr.Proofs.FloatOrder
import CardOcr.Proofs.GlyphClassify
import CardOcr.Proofs.LuhnErrors
import CardOcr.Proofs.ShiftSearch
import CardOcr.Proofs.Canvas
import CardOcr.Proofs.GlyphDraw
import CardOcr.Proofs.SyntheticFace
import CardOcr.Proofs.InkBox
