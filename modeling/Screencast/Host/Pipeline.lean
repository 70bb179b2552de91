import Screencast.Encoder.Selection
import Screencast.Host.Worker
import Screencast.Lifecycle

/-! # The host's pipeline

Checks what it is asked for, selects an encoder, makes the capturer feed it, and starts and stops
the capture loop.
-/

namespace Screencast

/-- What a host's pipeline is made for. -/
structure HostParams where
  mode : DisplayMode
  /-- The client's codecs, the most preferred first. -/
  preferences : List Codec
  initialBitrate : Nat
  /-- The ceiling of every bitrate. -/
  maxBitrate : Nat
  tuning : HostTuning := {}
deriving DecidableEq, Repr

namespace HostParams

/-- Refuses parameters that make no sense; the first fault counts. -/
def check (p : HostParams) : Except StreamError Unit :=
  if p.mode.width = 0 ∨ p.mode.height = 0 ∨ p.mode.refreshRate = 0 then
    .error (.invalidParams "display mode must be non-zero")
  else if p.preferences.isEmpty then .error (.invalidParams "codec preference list is empty")
  else if p.maxBitrate = 0 then .error (.invalidParams "bitrate ceiling must be non-zero")
  else .ok ()

/-- The bitrate to begin with. -/
def startBitrate (p : HostParams) : Nat := min p.initialBitrate p.maxBitrate

/-- What encoders on a capturer's device are asked for, before the codec and the backend are
known. -/
def encoderParams (p : HostParams) (device : DeviceHandle) : EncoderParams :=
  { codec := p.preferences.headD default, width := p.mode.width, height := p.mode.height,
    fps := p.mode.refreshRate.toNat, bitrate := p.startBitrate, device }

/-- The capture loop around a selected encoder. -/
def worker {ε : Type} (p : HostParams) (s : SelectedEncoder ε) : HostWorker ε :=
  { encoder := s.encoder, codec := s.ability.codec, mode := p.mode,
    throttle := .new s.fps p.tuning.throttleHysteresis,
    rates := .new p.startBitrate p.maxBitrate s.fps p.tuning }

end HostParams

/-- A host's pipeline. -/
structure HostPipeline (ε : Type) where
  loop : HostLoop ε
  state : Lifecycle := .created
  ability : Ability
  fps : Nat
  mode : DisplayMode
  startTimeout : Span

/-- How a capturer took its start. -/
inductive CaptureStart
  | started
  | refused (e : StreamError)
  /-- The thread went down before it could tell. -/
  | crashed
  /-- The thread did not tell in time. -/
  | late
deriving DecidableEq, Repr

/-- The failure that a capturer's start amounts to. -/
def CaptureStart.failure? (timeout : Span) : CaptureStart → Option StreamError
  | .started => none
  | .refused e => some e
  | .crashed => some (.captureStart "capture thread exited before reporting")
  | .late => some (.timeout timeout)

namespace HostPipeline

variable {ε : Type} [Encoder ε]

/-- What happened while a pipeline was created. -/
structure Creation (ε : Type) where
  attempts : List Attempt := []
  /-- The format the capturer was asked for. -/
  format : Option CaptureFormat := none
  result : Except StreamError (HostPipeline ε)

/-- Creates a pipeline that does nothing yet. `device` is the capturer's device, and `setFormat` its
answer to the format that the encoder wants. -/
def create (p : HostParams) (factory : EncoderFactory ε) (device : DeviceHandle)
    (setFormat : CaptureFormat → Except StreamError Unit) : Creation ε :=
  match p.check with
  | .error e => { result := .error e }
  | .ok () =>
    let (attempts, selected) :=
      Selection.run factory p.preferences (p.encoderParams device) p.tuning.softFpsCeiling
    match selected with
    | .error e => { attempts, result := .error e }
    | .ok s =>
      let format := Encoder.captureFormat s.encoder
      let pipeline : HostPipeline ε :=
        { loop := { worker := p.worker s, running := false }, ability := s.ability, fps := s.fps,
          mode := p.mode, startTimeout := p.tuning.startTimeout }
      { attempts, format := some format, result := (setFormat format).map fun _ => pipeline }

/-- Stops the loop for good. -/
def stop (p : HostPipeline ε) : HostPipeline ε :=
  { p with loop := p.loop.leave, state := p.state.stop.2 }

/-- Starts the loop; a pipeline whose start fails is stopped. -/
def start (p : HostPipeline ε) (outcome : CaptureStart) :
    Except StreamError Unit × HostPipeline ε :=
  match p.state.start with
  | .error e => (.error e, p)
  | .ok state =>
    let p := { p with state, loop := { p.loop with running := true } }
    match outcome.failure? p.startTimeout with
    | none => (.ok (), p)
    | some e => (.error e, p.stop)

end HostPipeline

end Screencast
