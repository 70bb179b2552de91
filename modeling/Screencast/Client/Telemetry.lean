import Screencast.Wire.Message

/-! # What the client knows of the transport

Figures the owner feeds in. From time to time they become a report for the host; a report is due
only if a figure it carries has been set since the last one.
-/

namespace Screencast

open Wire

/-- Figures of the transport. -/
structure Telemetry where
  /-- The client's clock minus the host's, in microseconds. -/
  timeDiff : Int := 0
  rttMs : Nat := 0
  /-- Estimated bandwidth in bits a second, 0 when there is no estimate. -/
  bandwidth : UInt64 := 0
  /-- Packets asked for again since the last report. -/
  nack : UInt32 := 0
  lossRate : Single := .zero
  /-- Whether a report is due. -/
  dirty : Bool := false
deriving DecidableEq, Repr

/-- Figures that are set together; the absent ones stay as they are. -/
structure TransportFigures where
  timeDiff : Option Int := none
  rttMs : Option Nat := none
  bandwidth : Option UInt64 := none
  nack : Option UInt32 := none
  lossRate : Option Single := none
deriving DecidableEq, Repr

namespace Telemetry

instance : Inhabited Telemetry := ⟨{}⟩

def setTimeDiff (t : Telemetry) (us : Int) : Telemetry := { t with timeDiff := us }

def setRtt (t : Telemetry) (ms : Nat) : Telemetry := { t with rttMs := ms }

def setBandwidth (t : Telemetry) (bps : UInt64) : Telemetry :=
  { t with bandwidth := bps, dirty := true }

/-- Counts repeated packets; the count stays at its greatest value once it is reached. -/
def addNacks (t : Telemetry) (count : UInt32) : Telemetry :=
  { t with
    nack := UInt32.ofNat (min (t.nack.toNat + count.toNat) (UInt32.size - 1))
    dirty := true }

/-- Sets the loss rate, kept between zero and one. -/
def setLossRate (t : Telemetry) (rate : Single) : Telemetry :=
  { t with lossRate := rate.clamp .zero .one, dirty := true }

def update (t : Telemetry) (f : TransportFigures) : Telemetry :=
  let t := f.timeDiff.elim t t.setTimeDiff
  let t := f.rttMs.elim t t.setRtt
  let t := f.bandwidth.elim t t.setBandwidth
  let t := f.nack.elim t t.addNacks
  f.lossRate.elim t t.setLossRate

/-- The report that is due. Taking it starts the count of repeated packets over. -/
def takeReport (t : Telemetry) : Option TransportStat × Telemetry :=
  if t.dirty then (some ⟨t.nack, t.bandwidth, t.lossRate⟩, { t with nack := 0, dirty := false })
  else (none, t)

/-- A bitrate the link should sustain: nine tenths of the estimate, less the share that is lost (but
at most half of it), and never above `cap`. -/
def suggestedBitrate (t : Telemetry) (cap : Nat) : Option Nat :=
  if t.bandwidth = 0 then none else
    let loss := (t.lossRate.clamp .zero .half).toFloat
    some (min (t.bandwidth.toFloat * (0.9 * (1.0 - loss))).toUInt64.toNat cap)

end Telemetry

end Screencast
