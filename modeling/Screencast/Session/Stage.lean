import Screencast.Capture.Pattern
import Screencast.Config.Basic
import Screencast.Lossless.Encoder
import Screencast.Encoder.Selection
import Screencast.Session.Generation

/-! # A pair of pipelines at work

The generation together with everything that keeps it going: the capture loop in front of a test
pattern, the client's decoder and its render thread. All of them take turns, and a round is one
turn of each, so that the course of a session follows from its settings alone.
-/

namespace Screencast

open Wire

/-- A generation at work. Moments are in nanoseconds. -/
structure Stage where
  generation : Generation
  host : HostPipeline LosslessEncoder
  capturer : PatternCapturer
  captureTimeout : Span
  decoder : LosslessDecoder
  /-- Events that the owner has not taken yet. -/
  clientEvents : List ClientEvent := []
  /-- When the client last reported to the host. -/
  lastReport : Nat
  telemetryInterval : Span
  /-- When the link's figures are due. -/
  nextTelemetry : Nat

namespace Stage

/-- Creates and starts the host's pipeline in front of a test pattern. -/
def startHost (p : HostParams) (capturer : PatternCapturer) (now : Nat) :
    Except StreamError (HostPipeline LosslessEncoder × PatternCapturer) := do
  let made := HostPipeline.create p LosslessEncoder.factory capturer.device.handle fun format =>
    (capturer.setFormat format).map fun _ => ()
  let host ← made.result
  let capturer := match made.format.map capturer.setFormat with
    | some (.ok capturer) => capturer
    | _ => capturer
  let started := capturer.start now
  let (result, host) := host.start <| match started with
    | .ok _ => .started
    | .error e => .refused e
  result
  return (host, started.toOption.getD capturer)

/-- Negotiates, and starts both pipelines for a mode. `change` is a change of mode to come, `device`
the capturer's device, `first` the number of the client, `link` the link of the session. -/
def begin (c : Config) (mode : DisplayMode) (change : Option Config.ModeChange) (device : Device)
    (link : LinkMeter) (tally : Tally) (first now : Nat) : Except StreamError Stage := do
  let n ← negotiateParams mode LosslessEncoder.factory.abilities c.codec.preferences c.codec.stretch
  let capturer : PatternCapturer :=
    { device, mode, changes := change.toList.map fun change => (change.afterFrames, change.mode) }
  let (host, capturer) ← startHost (c.hostParams mode n.ability.codec) capturer now
  let params := c.clientParams n
  let client ← startClient params first
  let (_, clientEvents) := match c.host.manualBitrate with
    | some bps => client.requestBitrate (UInt64.ofNat bps)
    | none => (.ok (), [])
  return {
    generation :=
      { params, ackTimeout := c.ackTimeout, client, nextInstance := first + 1, link, tally }
    host, capturer, clientEvents
    captureTimeout := .ofMillis c.host.tuning.captureTimeoutMs
    decoder := .new mode.width mode.height
    lastReport := now
    telemetryInterval := c.telemetryInterval
    nextTelemetry := now }

/-- What the capturer answers during a turn, and what time it is afterwards. -/
def capture (s : Stage) (now : Nat) : Turn × Nat × Stage :=
  let (picture, later, capturer) := s.capturer.capture now s.captureTimeout.nanos
  let time := UInt64.ofNat (later / 1000)
  ({ mode := s.capturer.mode
     compositor := s.capturer.compositorCursor
     legacy := s.capturer.legacyCursor
     capture := picture
     encodeStart := time
     encodeEnd := time },
    later, { s with capturer })

/-- One turn of the capture loop: its events, and what time it is afterwards. -/
def hostTurn (s : Stage) (now : Nat) : List HostEvent × Nat × Stage :=
  if !s.host.loop.running then ([], now, s) else
    let (t, now, s) := s.capture now
    let (done, loop) := { s.host.loop with queue := s.generation.control }.step t
    (HostAction.events done, now,
      { s with host := { s.host with loop }
               generation := { s.generation with control := loop.queue } })

/-- The client's threads do what there is to do. -/
def clientTurn (s : Stage) (now : Nat) : Stage :=
  let (_, decodeEvents, client, decoder) :=
    s.generation.client.decodeAll (LosslessDecoder.decode .stored) s.decoder
  let due := decide (s.generation.params.tuning.statInterval.nanos ≤ now - s.lastReport)
  let pass : RenderPass :=
    { overlays := [.success]
      now := UInt64.ofNat (now / 1000)
      presentTime := now
      reportDue := due }
  let (_, renderEvents, client) := client.renderPass pass
  { s with
    generation := { s.generation with client }, decoder
    clientEvents := s.clientEvents ++ decodeEvents ++ renderEvents
    lastReport := if renderEvents.isEmpty then s.lastReport else now }

/-- The owner reacts to some inputs; a client that was replaced takes its decoder with it. -/
def react (s : Stage) (now : Nat) (inputs : List GenerationInput) :
    Except StreamError (Option GenerationEnd × Stage) := do
  let (ended, generation) ← s.generation.reactAll now inputs
  let decoder := if generation.client.instanceId = s.generation.client.instanceId then s.decoder
    else .new s.decoder.width s.decoder.height
  return (ended, { s with generation, decoder })

/-- What the owner hears from the client and from the clocks. -/
def inputs (s : Stage) (now : Nat) : List GenerationInput :=
  s.clientEvents.map .clientEvent ++
    List.replicate (s.generation.toHost.length + s.clientEvents.length) .hostReceives ++
    .ackTimer :: if s.nextTelemetry ≤ now then [.telemetry] else []

/-- The least time that a round takes: a millisecond. -/
def leastRound : Nat := 1000000

/-- One turn of everybody, and what time it is afterwards. -/
def round (s : Stage) (now : Nat) : Except StreamError (Option GenerationEnd × Nat × Stage) := do
  let (events, later, s) := s.hostTurn now
  let (ended, s) ← s.react later (events.map .hostEvent ++
    List.replicate (s.generation.toClient.length + events.length) .clientReceives)
  if ended.isSome then return (ended, later, s)
  let s := s.clientTurn later
  let inputs := s.inputs later
  let nextTelemetry :=
    if s.nextTelemetry ≤ later then later + s.telemetryInterval.nanos else s.nextTelemetry
  let (ended, s) ← { s with clientEvents := [], nextTelemetry }.react later inputs
  return (ended, max later (now + leastRound), s)

end Stage

end Screencast
