import Screencast.Session.Stage

/-! # Sessions

A session streams with one pair of pipelines after the other. Each change of the display mode ends
a pair and begins the next one, until the session is stopped, its time is over, or a pipeline ends
for good.
-/

namespace Screencast

/-- What came of a session. -/
structure SessionSummary where
  codec : Option Codec := none
  finalMode : DisplayMode
  framesEncoded : Nat := 0
  bytesOnWire : Nat := 0
  tally : Tally := {}
  renegotiations : Nat := 0
  /-- Changes of mode that had to go on without an acknowledgement. -/
  hardRestarts : Nat := 0
  /-- The figures of the last client. -/
  stats : RenderStats := {}
  reason : SessionEnd := .stopped
deriving Repr

/-- A session between two rounds. Moments are in nanoseconds. -/
structure Session where
  config : Config
  now : Nat := 0
  deadline : Option Nat
  /-- Changes of mode to come. -/
  scripted : List Config.ModeChange
  /-- The mode of the current pair of pipelines or of the next one. -/
  mode : DisplayMode
  link : LinkMeter
  /-- Where the capturers' devices come from. -/
  devices : DeviceSupply := {}
  /-- The number of clients started so far. -/
  clients : Nat := 0
  summary : SessionSummary
  stage : Option Stage := none

/-- A session at work, or what came of it. -/
inductive Progress
  | working (s : Session)
  | ended (result : Except StreamError SessionSummary)

namespace Session

def new (config : Config) : Session :=
  { config, deadline := config.duration.map (·.nanos), scripted := config.session.modeChanges
    mode := config.displayMode, link := .new config.link.params
    summary := { finalMode := config.displayMode } }

/-- Ends the session. -/
def finish (s : Session) (reason : SessionEnd) : Progress :=
  .ended (.ok { s.summary with bytesOnWire := s.link.bytesSent, reason })

/-- Starts the next pair of pipelines. -/
def openStage (s : Session) : Progress :=
  let first := s.clients + 1
  let (device, devices) := s.devices.create PatternCapturer.deviceLabel
  match Stage.begin s.config s.mode s.scripted.head? device s.link s.summary.tally first s.now with
  | .error e => .ended (.error e)
  | .ok stage =>
    let codec := stage.generation.client.negotiated.ability.codec
    .working { s with
      scripted := s.scripted.tail, devices, clients := first, stage := some stage
      summary := { s.summary with codec := some codec, finalMode := s.mode } }

/-- Takes stock of a pair of pipelines. -/
def closeStage (s : Session) (stage : Stage) : Session :=
  let g := stage.generation
  { s with
    link := g.link, clients := g.nextInstance - 1, stage := none
    summary := { s.summary with
      tally := g.tally, stats := g.client.renderStats
      framesEncoded := s.summary.framesEncoded + stage.host.loop.worker.pictures } }

/-- Goes on with another mode; without an acknowledgement the connection counts as a new one. -/
def renegotiate (s : Session) (mode : DisplayMode) (acked : Bool) : Session :=
  let summary := { s.summary with renegotiations := s.summary.renegotiations + 1 }
  if acked then { s with mode, summary }
  else { s with
    mode, link := s.link.reset
    summary := { summary with hardRestarts := summary.hardRestarts + 1 } }

/-- What follows from the end of a pair of pipelines. -/
def afterStage (s : Session) : GenerationEnd → Progress
  | .renegotiate mode acked => .working (s.renegotiate mode acked)
  | .finished reason => s.finish reason

/-- Whether the time of the session is over. -/
def isOver (s : Session) : Bool := s.deadline.any fun d => decide (d ≤ s.now)

/-- One round. `stop` tells whether the session should end. -/
def round (s : Session) (stop : Bool) : Progress :=
  match s.stage with
  | none => if stop then s.finish .stopped else if s.isOver then s.finish .elapsed else s.openStage
  | some stage =>
    if stop then (s.closeStage stage).finish .stopped
    else if s.isOver then (s.closeStage stage).finish .elapsed
    else match stage.round s.now with
      | .error e => .ended (.error e)
      | .ok (none, now, stage) =>
        .working { s with now, clients := stage.generation.nextInstance - 1, stage := some stage }
      | .ok (some ended, now, stage) => ({ s with now }.closeStage stage).afterStage ended

/-- Runs a session for at most so many rounds, and stops it once so many clients have been started.
There is no result if it would still go on. -/
def run (config : Config) (clients rounds : Nat) : Option (Except StreamError SessionSummary) :=
  go rounds (.new config)
where
  go : Nat → Session → Option (Except StreamError SessionSummary)
    | 0, _ => none
    | rounds + 1, s =>
      match s.round (decide (clients ≤ s.clients)) with
      | .ended result => some result
      | .working s => go rounds s

end Session

end Screencast
