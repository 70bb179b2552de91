import Screencast.Number.Double
import Screencast.Tuning
import Screencast.Wire.Message

/-! # Controlling the encoder's rates

Two sources change the rates: requests of the client and what the transport reports. A request
that carries a trigger switches between manual and automatic mode; in manual mode requests
without a trigger and reports change nothing. Loss makes the bitrate go down, spare bandwidth
makes it go up. Whatever is asked for, the bitrate stays between a minimum and a cap and the frame
rate between one and a maximum.
-/

namespace Screencast

open Wire

/-- The rates in force and the bounds on them. -/
structure RateController where
  cap : Nat
  min : Nat
  bitrate : Nat
  maxFps : Nat
  fps : Nat
  /-- Whether the user has chosen the bitrate. -/
  manual : Bool
  backoffLoss : Single
  backoffNack : Nat
  backoffRatio : Single
  probeRatio : Single
deriving DecidableEq, Repr

namespace RateController

/-- The number between `low` and `high` closest to `n`. -/
def clampRate (n low high : Nat) : Nat := Nat.min (Nat.max n low) high

/-- A controller in automatic mode. The factors of the tuning are kept to where they make sense: the
one on the way down lies between a tenth and one, the one on the way up is at least one. -/
def new (initial cap maxFps : Nat) (tuning : HostTuning) : RateController :=
  let cap := Nat.max cap 1
  let min := Nat.min tuning.minBitrate cap
  let maxFps := Nat.max maxFps 1
  { cap, min, bitrate := clampRate initial min cap, maxFps, fps := maxFps, manual := false,
    backoffLoss := tuning.backoffLoss, backoffNack := tuning.backoffNack,
    backoffRatio := tuning.backoffRatio.clamp .tenth .one,
    probeRatio := tuning.probeRatio.max .one }

/-- Sets the rates that are given and tells which of them are new. -/
def setRates (c : RateController) (bitrate fps : Option Nat) : Option RatePatch × RateController :=
  let newBitrate := bitrate.filter (· != c.bitrate)
  let newFps := fps.filter (· != c.fps)
  let patch : RatePatch := ⟨newBitrate, newFps⟩
  (if patch.isEmpty then none else some patch,
    { c with bitrate := newBitrate.getD c.bitrate, fps := newFps.getD c.fps })

/-- Sets the rates that are given, each brought within its bounds. -/
def requestRates (c : RateController) (p : RatePatch) : Option RatePatch × RateController :=
  c.setRates (p.bitrate.map (clampRate · c.min c.cap)) (p.fps.map (clampRate · 1 c.maxFps))

/-- Answers a request: the patch for the encoder, if any rate changes. -/
def reconfigure (c : RateController) (r : RateRequest) : Option RatePatch × RateController :=
  match r.trigger with
  | some .turnOffAuto => { c with manual := true }.requestRates r.patch
  | some .turnOnAuto => { c with manual := false }.requestRates r.patch
  | none => if c.manual then (none, c) else c.requestRates r.patch

/-- Whether a report tells of too much loss. -/
def isCongested (c : RateController) (s : TransportStat) : Bool :=
  c.backoffLoss.lt s.lossRate || decide (c.backoffNack < s.nack.toNat)

/-- The bitrate that the state of the transport suggests, before any bounds. -/
def scaled (c : RateController) (s : TransportStat) : Nat :=
  if c.isCongested s then scaleRate c.bitrate c.backoffRatio
  else if exceedsScaled s.bandwidth.toNat c.bitrate c.probeRatio then
    scaleRate c.bitrate c.probeRatio
  else toDouble c.bitrate

/-- A bitrate kept below the estimated bandwidth, if there is an estimate, and within the bounds. -/
def bounded (c : RateController) (s : TransportStat) (bitrate : Nat) : Nat :=
  let bitrate := if s.bandwidth = 0 then bitrate else Nat.min bitrate s.bandwidth.toNat
  clampRate bitrate c.min c.cap

/-- Answers a report of the transport: the patch for the encoder, if the bitrate changes. -/
def networkChanged (c : RateController) (s : TransportStat) : Option RatePatch × RateController :=
  if c.manual then (none, c) else c.setRates (some (c.bounded s (c.scaled s))) none

end RateController

end Screencast
