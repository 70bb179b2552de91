import Screencast.Bytes
import Screencast.Capture.Pattern
import Screencast.Client.Decoding
import Screencast.Client.Pipeline
import Screencast.Client.RenderSlot
import Screencast.Client.Rendering
import Screencast.Client.Script
import Screencast.Client.Smoother
import Screencast.Client.Stats
import Screencast.Client.Telemetry
import Screencast.CommandLine
import Screencast.Config.Basic
import Screencast.Config.Reading
import Screencast.Config.Text
import Screencast.Cursor.Basic
import Screencast.Cursor.Cache
import Screencast.Cursor.Store
import Screencast.Encoder.Basic
import Screencast.Encoder.Selection
import Screencast.Error
import Screencast.Host.Control
import Screencast.Host.Pipeline
import Screencast.Host.Script
import Screencast.Host.Worker
import Screencast.Lifecycle
import Screencast.Link.Meter
import Screencast.Lossless.Decoder
import Screencast.Lossless.Encoder
import Screencast.Main
import Screencast.Media.Codec
import Screencast.Media.Device
import Screencast.Media.Display
import Screencast.Media.Picture
import Screencast.Number.Decimal
import Screencast.Number.Double
import Screencast.Number.Rounding
import Screencast.Number.Shortest
import Screencast.Number.Single
import Screencast.Proofs.Client.DecodeOrder
import Screencast.Proofs.Client.KeyframeRequests
import Screencast.Proofs.Client.NewestFrame
import Screencast.Proofs.Client.PictureOrder
import Screencast.Proofs.Client.Settings
import Screencast.Proofs.Client.TransportReports
import Screencast.Proofs.Client.WaitingPicture
import Screencast.Proofs.Config.Pipelines
import Screencast.Proofs.Cursor.Changes
import Screencast.Proofs.Cursor.Digests
import Screencast.Proofs.Cursor.Invalidation
import Screencast.Proofs.Cursor.LockStep
import Screencast.Proofs.Cursor.Numbering
import Screencast.Proofs.Cursor.Update
import Screencast.Proofs.Encoder.Negotiated
import Screencast.Proofs.Encoder.Search
import Screencast.Proofs.Encoder.Selection
import Screencast.Proofs.History
import Screencast.Proofs.Host.Batches
import Screencast.Proofs.Host.BitrateAgreement
import Screencast.Proofs.Host.ControlQueue
import Screencast.Proofs.Host.EventTrace
import Screencast.Proofs.Host.RateAgreement
import Screencast.Proofs.Host.RefusedPatch
import Screencast.Proofs.Host.Restart
import Screencast.Proofs.Host.Script
import Screencast.Proofs.Link.Accounts
import Screencast.Proofs.Link.RoundTrips
import Screencast.Proofs.Lossless.Codec
import Screencast.Proofs.Lossless.EncoderCalls
import Screencast.Proofs.Lossless.KeyframePlacement
import Screencast.Proofs.Lossless.Padding
import Screencast.Proofs.Lossless.Pixels
import Screencast.Proofs.Lossless.Resynchronisation
import Screencast.Proofs.Lossless.TextureRing
import Screencast.Proofs.Lossless.Transmission
import Screencast.Proofs.Number.Rounding
import Screencast.Proofs.Number.Single
import Screencast.Proofs.Rate.Answers
import Screencast.Proofs.Rate.Bounds
import Screencast.Proofs.Rate.Drift
import Screencast.Proofs.Rate.Headroom
import Screencast.Proofs.Rate.ManualMode
import Screencast.Proofs.Rate.Starvation
import Screencast.Proofs.Rate.ThrottleRun
import Screencast.Proofs.Session.HardRestart
import Screencast.Proofs.Session.ModeChange
import Screencast.Proofs.Session.Rebuilds
import Screencast.Proofs.Session.StoppedClient
import Screencast.Proofs.Wire.Canonical
import Screencast.Proofs.Wire.Digits
import Screencast.Proofs.Wire.Message
import Screencast.Proofs.Wire.Fields
import Screencast.Proofs.Wire.Truncation
import Screencast.Proofs.Zstd.Stored
import Screencast.Rate.Controller
import Screencast.Rate.Throttle
import Screencast.Render.Headless
import Screencast.Render.StatsOverlay
import Screencast.Report.Basic
import Screencast.Report.Client
import Screencast.Report.Config
import Screencast.Report.Media
import Screencast.Report.Parts
import Screencast.Report.Session
import Screencast.Session.Generation
import Screencast.Session.Renegotiation
import Screencast.Session.Run
import Screencast.Session.Stage
import Screencast.Text.Elapsed
import Screencast.Text.Hex
import Screencast.Toml.Document
import Screencast.Toml.Grammar
import Screencast.Toml.Number
import Screencast.Toml.Quoted
import Screencast.Toml.Value
import Screencast.Tuning
import Screencast.Wire.Layout
import Screencast.Wire.Message
import Screencast.Zstd.Checksum
import Screencast.Zstd.Frame
import Screencast.Zstd.Header
import Screencast.Zstd.Room
