import Screencast.Client.Decoding
import Screencast.Client.Rendering
import Screencast.Host.Worker
import Screencast.Link.Meter
import Screencast.Lossless.Decoder
import Screencast.Render.Headless
import Screencast.Session.Renegotiation

/-! # One pair of pipelines

A generation is a host's and a client's pipeline that were built for the same parameters, seen by
their common owner. Messages cross the link in their wire form, in the order they were sent. The
owner reacts to one input at a time; any order of inputs is possible, so a run is a list of them.
Moments are in nanoseconds.
-/

namespace Screencast

open Wire

/-- Why a session ended. -/
inductive SessionEnd
  /-- Its time is over. -/
  | elapsed
  | stopped
  /-- The client cannot show pictures any more. -/
  | renderStopped (cause : StreamError)
  /-- The host's pipeline ended, and not because of a new mode. -/
  | hostTerminated (cause : StreamError)
deriving DecidableEq, Repr

/-- How a generation ended. -/
inductive GenerationEnd
  /-- The next one is for another mode. -/
  | renegotiate (mode : DisplayMode) (acked : Bool)
  | finished (reason : SessionEnd)
deriving DecidableEq, Repr

/-- What happened at the client's end during a session. -/
structure Tally where
  framesDelivered : Nat := 0
  keyframeRequests : Nat := 0
  clientResets : Nat := 0
deriving DecidableEq, Repr, Inhabited

/-- What the decoder for a codec offers to the renderer; only the lossless one is at hand. -/
def decoderOutput? (n : Negotiated) : Option DecoderOutput :=
  match n.ability.codec with
  | .zstd =>
    let d := LosslessDecoder.new n.mode.width n.mode.height
    some ⟨d.textureIds, d.format⟩
  | _ => none

/-- Creates and starts a client's pipeline with a headless renderer. -/
def startClient (p : ClientParams) (instanceId : Nat) : Except StreamError ClientPipeline := do
  let c ← (ClientPipeline.create p instanceId decoderOutput? fun o =>
    (HeadlessRenderer.bind {} o.textures).1).result
  let (started, c) := c.start
  started.map fun _ => c

/-- The owner's view of a pair of pipelines. -/
structure Generation where
  /-- What every client of this generation is made for. -/
  params : ClientParams
  ackTimeout : Span
  client : ClientPipeline
  /-- The number of the client that follows; no client has had it yet. -/
  nextInstance : Nat
  /-- Tasks for the host. -/
  control : TaskQueue := {}
  /-- Messages on their way to the client, the oldest first. -/
  toClient : List Bytes := []
  /-- Messages on their way to the host, the oldest first. -/
  toHost : List Bytes := []
  renegotiation : Option Renegotiation := none
  link : LinkMeter
  tally : Tally := {}

/-- Something the owner reacts to. -/
inductive GenerationInput
  | hostEvent (e : HostEvent)
  /-- The oldest message for the client arrives. -/
  | clientReceives
  /-- The oldest message for the host arrives. -/
  | hostReceives
  | clientEvent (e : ClientEvent)
  | ackTimer
  /-- The link's figures are due. -/
  | telemetry
deriving DecidableEq, Repr

namespace Generation

/-- What a reaction leads to: perhaps the end of the generation. -/
abbrev Outcome := Except StreamError (Option GenerationEnd × Generation)

def sendToClient (g : Generation) (now : Nat) (m : Message) : Generation :=
  { g with toClient := g.toClient ++ [m.toBytes], link := g.link.transmit now m.toBytes.length }

def sendToHost (g : Generation) (now : Nat) (m : Message) : Generation :=
  { g with toHost := g.toHost ++ [m.toBytes], link := g.link.transmit now m.toBytes.length }

/-- Ends the generation once a change of mode is complete. -/
def takeCompleted (g : Generation) : Option GenerationEnd × Generation :=
  match g.renegotiation with
  | some r =>
    if r.isComplete then (some (.renegotiate r.proposed true), { g with renegotiation := none })
    else (none, g)
  | none => (none, g)

/-- Ends the generation if a change of mode has waited for too long. -/
def ackTimedOut (g : Generation) (now : Nat) : Option GenerationEnd × Generation :=
  match g.renegotiation with
  | some r =>
    if r.isExpired now then
      (some (.renegotiate r.proposed false), { g with renegotiation := none })
    else (none, g)
  | none => (none, g)

/-- Takes note of a mode that the host proposes. -/
def propose (g : Generation) (now : Nat) (mode : DisplayMode) : Generation :=
  { g with renegotiation := some (.propose mode now g.ackTimeout.nanos) }

/-- Takes note of the end of the host's pipeline because of a new mode. -/
def hostEnded (g : Generation) (now : Nat) (mode : DisplayMode) : Generation :=
  let pending := g.renegotiation.getD (.propose mode now g.ackTimeout.nanos)
  { g with renegotiation := some pending.onHostTerminated }

def onHostEvent (g : Generation) (now : Nat) : HostEvent → Outcome
  | .outbound m =>
    let g := match m with
      | .changeStreamingParams mode => g.propose now mode
      | _ => g
    .ok (none, g.sendToClient now m)
  | .terminated (.resolutionChanged width height refreshRate) =>
    .ok (g.hostEnded now ⟨width, height, refreshRate, .deg0⟩).takeCompleted
  | .terminated cause => .ok (some (.finished (.hostTerminated cause)), g)

/-- An acknowledgement reaches the host's end. -/
def onAck (g : Generation) (mode : DisplayMode) : Generation :=
  { g with renegotiation := g.renegotiation.map fun r => (r.onAck mode).2 }

/-- A message reaches the host's end. -/
def deliverToHost (g : Generation) (bytes : Bytes) : Outcome := do
  match ← Message.ofBytes bytes with
  | .changeStreamingParamsAck mode => return (g.onAck mode).takeCompleted
  | m => return (none, { g with control := (g.control.handle m).2 })

/-- A frame reaches the client's end; if the client asks for a keyframe, so does the owner. -/
def submit (g : Generation) (now : Nat) (f : EncodedFrame) : Generation :=
  let (action, client) := g.client.submit ⟨f, UInt64.ofNat (now / 1000)⟩
  let tally := { g.tally with framesDelivered := g.tally.framesDelivered + 1 }
  match action with
  | .nothing => { g with client, tally }
  | .requestKeyframe =>
    let tally := { tally with keyframeRequests := tally.keyframeRequests + 1 }
    { g with client, tally }.sendToHost now .requestKeyframe

/-- A message reaches the client's end. The client's pipeline is bound to the old size, so it is
stopped before a new mode is acknowledged. -/
def deliverToClient (g : Generation) (now : Nat) (bytes : Bytes) : Outcome := do
  match ← Message.ofBytes bytes with
  | .encodedFrame f => return (none, g.submit now f)
  | .cursorInfo info => return (none, { g with client := g.client.setCursor info })
  | .changeStreamingParams mode =>
    let g := { g with client := g.client.stop }
    return (none, g.sendToHost now (.changeStreamingParamsAck mode))
  | _ => return (none, g)

/-- Replaces the client's pipeline and asks for a keyframe that the new one can begin with. -/
def rebuildClient (g : Generation) (now : Nat) : Except StreamError Generation := do
  let client ← startClient g.params g.nextInstance
  let tally := { g.tally with clientResets := g.tally.clientResets + 1 }
  let g := { g with client, nextInstance := g.nextInstance + 1, tally }
  return g.sendToHost now .requestKeyframe

/-- An event of a client; events of clients that were replaced mean nothing any more. -/
def onClientEvent (g : Generation) (now : Nat) : ClientEvent → Outcome
  | .outbound m => .ok (none, g.sendToHost now m)
  | .resetRequested instanceId _ =>
    if instanceId = g.client.instanceId then (g.rebuildClient now).map (none, ·)
    else .ok (none, g)
  | .renderStopped instanceId cause =>
    if instanceId = g.client.instanceId then
      if cause.requiresRebuild then (g.rebuildClient now).map (none, ·)
      else .ok (some (.finished (.renderStopped cause)), g)
    else .ok (none, g)

/-- The link's figures go to the client. -/
def feedTelemetry (g : Generation) (now : Nat) : Generation :=
  let (r, link) := g.link.report now
  let telemetry := g.client.telemetry.update
    { rttMs := some r.rttMs, bandwidth := some (UInt64.ofNat r.bandwidth)
      lossRate := some r.lossRate
      nack := if r.nack = 0 then none else some (UInt32.ofNat r.nack) }
  { g with link, client := { g.client with telemetry } }

/-- The owner's reaction to one input. An arrival on an empty line is none. -/
def react (g : Generation) (now : Nat) : GenerationInput → Outcome
  | .hostEvent e => g.onHostEvent now e
  | .clientReceives =>
    match g.toClient with
    | [] => .ok (none, g)
    | bytes :: rest => { g with toClient := rest }.deliverToClient now bytes
  | .hostReceives =>
    match g.toHost with
    | [] => .ok (none, g)
    | bytes :: rest => { g with toHost := rest }.deliverToHost bytes
  | .clientEvent e => g.onClientEvent now e
  | .ackTimer => .ok (g.ackTimedOut now)
  | .telemetry => .ok (none, g.feedTelemetry now)

/-- Reactions to inputs one after the other, up to the first that ends the generation. -/
def reactAll (g : Generation) (now : Nat) : List GenerationInput → Outcome
  | [] => .ok (none, g)
  | i :: is => do
    match ← g.react now i with
    | (none, g) => g.reactAll now is
    | ended => return ended

end Generation

end Screencast
