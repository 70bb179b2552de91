import Screencast.Number.Double

/-! # A link that is only metered

Everything sent goes through a queue that drains at the link's capacity. What does not fit into
the queue counts as lost, and so does a share of everything else, spread evenly; lost packets are
taken to be sent again, so that nothing is missing in the end. From queue and losses come the
figures that a real transport would report. Moments and spans are in nanoseconds.
-/

namespace Screencast

/-- The properties of a link. -/
structure LinkParams where
  /-- Bits a second. -/
  capacity : Nat
  baseRttMs : Nat
  lossRate : Single
  /-- The longest time in the queue. -/
  maxQueueMs : Nat
deriving DecidableEq, Repr, Inhabited

/-- What a link reports to the client. -/
structure LinkReport where
  bandwidth : Nat
  rttMs : Nat
  lossRate : Single
  /-- Packets lost since the last report. -/
  nack : Nat
deriving DecidableEq, Repr

/-- The state of a metered link. -/
structure LinkMeter where
  capacity : Nat
  baseRtt : Nat
  lossRate : Float
  maxQueue : Nat
  /-- Moments and sizes of what was sent within the last second, the oldest first. -/
  samples : List (Nat × Nat) := []
  /-- Bytes in the samples. -/
  windowBytes : Nat := 0
  bytesSent : Nat := 0
  /-- Bits in the queue. -/
  backlog : Float := 0.0
  lastDrain : Option Nat := none
  /-- The moving average of round trips in microseconds, zero before the first; a 64-bit word. -/
  averageRtt : UInt64 := 0
  /-- The part of a packet that is due to be lost. -/
  lossCredit : Float := 0.0
  /-- Packets since the last report. -/
  packets : Nat := 0
  /-- Packets lost since the last report. -/
  lost : Nat := 0

namespace LinkMeter

def packetBytes : Nat := 1200

/-- The length of the window that throughput is measured over. -/
def window : Nat := 1000000000

def new (p : LinkParams) : LinkMeter :=
  { capacity := max p.capacity 1, baseRtt := p.baseRttMs * 1000000,
    lossRate := (p.lossRate.clamp .zero .one).toFloat, maxQueue := p.maxQueueMs * 1000000 }

/-- The queue drains up to the moment `now`. -/
def drain (l : LinkMeter) (now : Nat) : LinkMeter :=
  let backlog := match l.lastDrain with
    | none => l.backlog
    | some last => positivePart (l.backlog - doubleOfNat l.capacity * secondsOfNanos (now - last))
  { l with backlog, lastDrain := some now }

/-- Drops samples from the front that are more than a second old. -/
def evict (now : Nat) : List (Nat × Nat) → Nat → List (Nat × Nat) × Nat
  | [], bytes => ([], bytes)
  | (time, size) :: rest, bytes =>
    if window < now - time then evict now rest (bytes - size) else ((time, size) :: rest, bytes)

/-- Takes note of bytes sent at the moment `now`. -/
def sample (l : LinkMeter) (now bytes : Nat) : LinkMeter :=
  let (samples, windowBytes) := evict now (l.samples ++ [(now, bytes)]) (l.windowBytes + bytes)
  { l with samples, windowBytes, bytesSent := l.bytesSent + bytes }

/-- Packets needed for bytes; there is always one. -/
def packetsFor (bytes : Nat) : Nat := max ((bytes + packetBytes - 1) / packetBytes) 1

/-- Loses a share of the packets, as whole packets fall due. -/
def loseShare (l : LinkMeter) (packets : Nat) : LinkMeter :=
  let credit := l.lossCredit + l.lossRate * doubleOfNat packets
  let due := (credit + 1e-9).floor
  { l with
    packets := l.packets + packets
    lossCredit := positivePart (credit - due)
    lost := l.lost + due.toUInt64.toNat }

/-- Puts bytes into the queue and loses what is too much for it. -/
def enqueue (l : LinkMeter) (bytes : Nat) : LinkMeter :=
  let backlog := l.backlog + doubleOfNat (bytes * 8)
  let limit := doubleOfNat l.capacity * secondsOfNanos l.maxQueue
  if backlog > limit then
    let excess := ((backlog - limit) / doubleOfNat (packetBytes * 8)).ceil
    { l with lost := l.lost + excess.toUInt64.toNat, backlog := limit }
  else { l with backlog }

/-- No more packets are lost than were sent. -/
def boundLost (l : LinkMeter) : LinkMeter := { l with lost := min l.lost l.packets }

/-- How long the newest byte waits in the queue. -/
def queueDelay (l : LinkMeter) : Nat := nanosOfSeconds (l.backlog / doubleOfNat l.capacity)

/-- One round trip, in microseconds, goes into the average with the weight of one eighth. -/
def recordRtt (l : LinkMeter) (rtt : UInt64) : LinkMeter :=
  { l with averageRtt := if l.averageRtt = 0 then rtt else l.averageRtt * 7 / 8 + rtt / 8 }

/-- A message of some bytes is sent at the moment `now`. -/
def transmit (l : LinkMeter) (now bytes : Nat) : LinkMeter :=
  let l := (((l.drain now).sample now bytes).loseShare (packetsFor bytes)).enqueue bytes
  let l := l.boundLost
  l.recordRtt (UInt64.ofNat ((l.baseRtt + l.queueDelay) / 1000))

/-- Bits a second over the samples. -/
def throughput (l : LinkMeter) : Nat :=
  match l.samples.head?, l.samples.getLast? with
  | some (first, _), some (last, _) =>
    let elapsed := max (last - first) 1000000
    (doubleOfNat l.windowBytes * 8.0 / secondsOfNanos elapsed).toUInt64.toNat
  | _, _ => 0

/-- The average round trip, or the shortest one possible before anything was sent. -/
def rtt (l : LinkMeter) : Nat := if l.averageRtt = 0 then l.baseRtt else l.averageRtt.toNat * 1000

/-- All of the capacity while the queue is empty, and what was measured while it is not. -/
def bandwidth (l : LinkMeter) : Nat :=
  if l.backlog > 0.0 then max (min l.throughput l.capacity) 1 else l.capacity

/-- The share of packets lost since the last report. -/
def lossShare (l : LinkMeter) : Single :=
  if l.packets = 0 then .zero
  else .ofFloat32 ((UInt64.ofNat l.lost).toFloat32 / (UInt64.ofNat l.packets).toFloat32)

/-- The report at the moment `now`. It starts the counts of packets over. -/
def report (l : LinkMeter) (now : Nat) : LinkReport × LinkMeter :=
  let l := l.drain now
  (⟨l.bandwidth, min (l.rtt / 1000000) (UInt32.size - 1), l.lossShare,
      min l.lost (UInt32.size - 1)⟩,
    { l with packets := 0, lost := 0 })

/-- Forgets the queue and the history, as after a new connection. -/
def reset (l : LinkMeter) : LinkMeter :=
  { l with
    samples := [], windowBytes := 0, backlog := 0.0, lastDrain := none, averageRtt := 0
    lossCredit := 0.0, packets := 0, lost := 0 }

end LinkMeter

end Screencast
