import Screencast.Client.Pipeline
import Screencast.Host.Pipeline
import Screencast.Link.Meter

/-! # Settings of a session

Everything a session can be told beforehand, with the values it starts from, and what follows for
the two pipelines. Settings are never refused: what is out of range is moved to the nearest value
that makes sense.
-/

namespace Screencast

namespace Config

/-- The display that is captured. -/
structure Display where
  width : UInt32 := 1280
  height : UInt32 := 720
  refreshRate : UInt32 := 60
deriving DecidableEq, Repr, Inhabited

/-- What the client would like to receive. -/
structure Codecs where
  /-- The most preferred first. -/
  preferences : List Codec := [.h264, .h265, .zstd]
  /-- Whether the picture fills the client's surface instead of keeping its shape. -/
  stretch : Bool := false
deriving DecidableEq, Repr, Inhabited

/-- The host's pipeline. Bitrates are in bits a second. -/
structure Host where
  initialBitrate : Nat := 8000000
  maxBitrate : Nat := 50000000
  /-- A bitrate that the client asks for at once, which turns automatic control off. -/
  manualBitrate : Option Nat := none
  tuning : HostTuning := {}
deriving DecidableEq, Repr, Inhabited

/-- The client's pipeline. -/
structure Client where
  statsLogIntervalMs : Nat := 2000
  tuning : ClientTuning := {}
deriving DecidableEq, Repr, Inhabited

/-- The link between the two. -/
structure Link where
  params : LinkParams := ⟨100000000, 2, .zero, 200⟩
  telemetryIntervalMs : Nat := 250
deriving DecidableEq, Repr, Inhabited

/-- A change of the display mode to come. -/
structure ModeChange where
  /-- Pictures that one host's pipeline captures before the change. -/
  afterFrames : Nat
  width : UInt32
  height : UInt32
  refreshRate : UInt32
deriving DecidableEq, Repr, Inhabited

/-- The course of a session. -/
structure Course where
  /-- Zero stands for a session without end. -/
  durationSecs : Nat := 10
  ackTimeoutMs : Nat := 1000
  /-- One for each host's pipeline, in this order. -/
  modeChanges : List ModeChange := []
deriving DecidableEq, Repr, Inhabited

end Config

/-- The settings of a session. -/
structure Config where
  display : Config.Display := {}
  codec : Config.Codecs := {}
  host : Config.Host := {}
  client : Config.Client := {}
  link : Config.Link := {}
  session : Config.Course := {}
  /-- The level of detail of log records. -/
  logLevel : String := "info"
deriving DecidableEq, Repr, Inhabited

/-- The smallest edge of a picture that can be captured. -/
def minEdge : UInt32 := 16

/-- The greatest refresh rate of a session. -/
def maxRefreshRate : UInt32 := 240

/-- The nearest mode that can be captured. -/
def DisplayMode.clamped (width height refreshRate : UInt32) : DisplayMode :=
  ⟨max width minEdge, max height minEdge, min (max refreshRate 1) maxRefreshRate, .deg0⟩

def Config.ModeChange.mode (c : ModeChange) : DisplayMode :=
  .clamped c.width c.height c.refreshRate

namespace Config

/-- The mode that a session begins with. -/
def displayMode (c : Config) : DisplayMode :=
  .clamped c.display.width c.display.height c.display.refreshRate

/-- How long a session lasts, if it ends by itself. -/
def duration (c : Config) : Option Span :=
  if c.session.durationSecs = 0 then none else some (.ofSeconds c.session.durationSecs)

def ackTimeout (c : Config) : Span := .ofMillis (max c.session.ackTimeoutMs 1)

def statsLogInterval (c : Config) : Span := .ofMillis (max c.client.statsLogIntervalMs 100)

def telemetryInterval (c : Config) : Span := .ofMillis (max c.link.telemetryIntervalMs 10)

/-- The ceiling of every bitrate, which is never below the lower bound. -/
def maxBitrate (c : Config) : Nat := max c.host.maxBitrate c.host.tuning.minBitrate

/-- What a host's pipeline is made for; it offers only the codec that was agreed on. -/
def hostParams (c : Config) (mode : DisplayMode) (codec : Codec) : HostParams :=
  { mode, preferences := [codec]
    initialBitrate := min (max c.host.initialBitrate c.host.tuning.minBitrate) c.maxBitrate
    maxBitrate := c.maxBitrate, tuning := c.host.tuning }

/-- What a client's pipeline is made for. -/
def clientParams (c : Config) (n : Negotiated) : ClientParams :=
  ⟨some n, true, true, c.client.tuning⟩

end Config

end Screencast
