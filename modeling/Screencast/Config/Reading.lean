import Screencast.Config.Basic
import Screencast.Toml.Grammar

/-! # Reading settings from a file

Settings that a file leaves out keep the values they start from, and keys that mean nothing are
passed over. A value of the wrong kind spoils the whole file: then all settings are the ones they
start from.
-/

namespace Screencast

namespace Toml

/-- A whole number within bounds. -/
def Value.bounded? (limit : Nat) : Value → Option Nat
  | .integer n => if 0 ≤ n ∧ n < limit then some n.toNat else none
  | _ => none

/-- A whole number of 64 bits. -/
def Value.nat? (v : Value) : Option Nat := v.bounded? UInt64.size

/-- A whole number of 32 bits. -/
def Value.word? (v : Value) : Option UInt32 := (v.bounded? UInt32.size).map UInt32.ofNat

def Value.boolean? : Value → Option Bool
  | .boolean b => some b
  | _ => none

def Value.string? : Value → Option String
  | .string s => some s
  | _ => none

/-- Any number, rounded to single precision. -/
def Value.single? : Value → Option Single
  | .integer n => some (.ofInt n)
  | .real (.decimal x) => some x.toSingle
  | .real (.infinity negative) => some (.infinity negative)
  | .real .nan => some .nan
  | _ => none

/-- The items of an array, each read the same way. -/
def Value.list? {α : Type} (item? : Value → Option α) : Value → Option (List α)
  | .array items => items.mapM item?
  | .tables items => items.mapM fun entries => item? (.table .header entries)
  | _ => none

def Value.isEmpty : Value → Bool
  | .array items => items.isEmpty
  | .table _ entries => entries.isEmpty
  | _ => false

/-- A codec's name, or a table whose only key is that name, with nothing in it. -/
def Value.codec? : Value → Option Codec
  | .string s => Codec.ofName? s
  | .table _ [(name, inner)] => if inner.isEmpty then Codec.ofName? name else none
  | _ => none

/-- The fields of a section, which are told apart by name in a table and by place in an array. -/
structure Section where
  field? : String → Nat → Option Value

/-- A section of a file. A date or a time has no field that means anything. -/
def Value.section? : Value → Option Section
  | .table _ entries => some ⟨fun name _ => entries.lookup name⟩
  | .array items => some ⟨fun _ place => items[place]?⟩
  | .tables items => some ⟨fun _ place => items[place]?.map (.table .header)⟩
  | .dateTime => some ⟨fun _ _ => none⟩
  | _ => none

/-- A field that may be left out. -/
def Section.get? {α : Type} (s : Section) (name : String) (place : Nat) (read? : Value → Option α)
    (usual : α) : Option α :=
  (s.field? name place).elim (some usual) read?

/-- A field that has to be there. -/
def Section.need? {α : Type} (s : Section) (name : String) (place : Nat)
    (read? : Value → Option α) : Option α :=
  (s.field? name place).bind read?

end Toml

open Toml (Value)

def HostTuning.ofValue? (v : Value) : Option HostTuning := do
  let s ← v.section?
  let d : HostTuning := {}
  let count (v : Value) : Option Nat := v.bounded? UInt32.size
  return {
    softFpsCeiling := ← s.get? "soft_fps_ceiling" 0 count d.softFpsCeiling
    throttleHysteresis := ← s.get? "throttle_hysteresis_fps" 1 count d.throttleHysteresis
    minBitrate := ← s.get? "min_bitrate_bps" 2 Value.nat? d.minBitrate
    captureTimeoutMs := ← s.get? "capture_timeout_ms" 3 Value.nat? d.captureTimeoutMs
    startTimeoutMs := ← s.get? "start_timeout_ms" 4 Value.nat? d.startTimeoutMs
    backoffLoss := ← s.get? "backoff_loss_rate" 5 Value.single? d.backoffLoss
    backoffNack := ← s.get? "backoff_nack_count" 6 count d.backoffNack
    backoffRatio := ← s.get? "backoff_ratio" 7 Value.single? d.backoffRatio
    probeRatio := ← s.get? "probe_ratio" 8 Value.single? d.probeRatio }

def ClientTuning.ofValue? (v : Value) : Option ClientTuning := do
  let s ← v.section?
  let d : ClientTuning := {}
  return {
    decodeWaitMs := ← s.get? "decode_wait_ms" 0 Value.nat? d.decodeWaitMs
    renderWaitMs := ← s.get? "render_wait_ms" 1 Value.nat? d.renderWaitMs
    statIntervalMs := ← s.get? "stat_interval_ms" 2 Value.nat? d.statIntervalMs
    queueWarnDepth := ← s.get? "queue_warn_depth" 3 Value.nat? d.queueWarnDepth }

namespace Config

def Display.ofValue? (v : Value) : Option Display := do
  let s ← v.section?
  let d : Display := {}
  return {
    width := ← s.get? "width" 0 Value.word? d.width
    height := ← s.get? "height" 1 Value.word? d.height
    refreshRate := ← s.get? "refresh_rate" 2 Value.word? d.refreshRate }

def Codecs.ofValue? (v : Value) : Option Codecs := do
  let s ← v.section?
  let d : Codecs := {}
  return {
    preferences := ← s.get? "preferences" 0 (Value.list? Value.codec?) d.preferences
    stretch := ← s.get? "stretch" 1 Value.boolean? d.stretch }

def Host.ofValue? (v : Value) : Option Host := do
  let s ← v.section?
  let d : Host := {}
  return {
    initialBitrate := ← s.get? "initial_bitrate_bps" 0 Value.nat? d.initialBitrate
    maxBitrate := ← s.get? "max_bitrate_bps" 1 Value.nat? d.maxBitrate
    manualBitrate := ← s.get? "manual_bitrate_bps" 2 (some <$> Value.nat? ·) d.manualBitrate
    tuning := ← s.get? "tuning" 3 HostTuning.ofValue? d.tuning }

def Client.ofValue? (v : Value) : Option Client := do
  let s ← v.section?
  let d : Client := {}
  return {
    statsLogIntervalMs := ← s.get? "stats_log_interval_ms" 0 Value.nat? d.statsLogIntervalMs
    tuning := ← s.get? "tuning" 1 ClientTuning.ofValue? d.tuning }

def Link.ofValue? (v : Value) : Option Link := do
  let s ← v.section?
  let d : Link := {}
  return {
    params := {
      capacity := ← s.get? "capacity_bps" 0 Value.nat? d.params.capacity
      baseRttMs := ← s.get? "base_rtt_ms" 1 Value.nat? d.params.baseRttMs
      lossRate := ← s.get? "loss_rate" 2 Value.single? d.params.lossRate
      maxQueueMs := ← s.get? "max_queue_ms" 3 Value.nat? d.params.maxQueueMs }
    telemetryIntervalMs := ← s.get? "telemetry_interval_ms" 4 Value.nat? d.telemetryIntervalMs }

def ModeChange.ofValue? (v : Value) : Option ModeChange := do
  let s ← v.section?
  return {
    afterFrames := ← s.need? "after_frames" 0 Value.nat?
    width := ← s.need? "width" 1 Value.word?
    height := ← s.need? "height" 2 Value.word?
    refreshRate := ← s.need? "refresh_rate" 3 Value.word? }

def Course.ofValue? (v : Value) : Option Course := do
  let s ← v.section?
  let d : Course := {}
  return {
    durationSecs := ← s.get? "duration_secs" 0 Value.nat? d.durationSecs
    ackTimeoutMs := ← s.get? "ack_timeout_ms" 1 Value.nat? d.ackTimeoutMs
    modeChanges := ← s.get? "mode_changes" 2 (Value.list? ModeChange.ofValue?) d.modeChanges }

/-- The level of log records, which is the only setting of its section. -/
def logLevelOfValue? (v : Value) : Option String := do
  (← v.section?).get? "level" 0 Value.string? ({} : Config).logLevel

/-- The settings in the tables of a file. -/
def ofEntries? (entries : Toml.Entries) : Option Config := do
  let s ← (Value.table .header entries).section?
  let d : Config := {}
  return {
    display := ← s.get? "display" 0 Display.ofValue? d.display
    codec := ← s.get? "codec" 1 Codecs.ofValue? d.codec
    host := ← s.get? "host" 2 Host.ofValue? d.host
    client := ← s.get? "client" 3 Client.ofValue? d.client
    link := ← s.get? "link" 4 Link.ofValue? d.link
    session := ← s.get? "session" 5 Course.ofValue? d.session
    logLevel := ← s.get? "logging" 6 logLevelOfValue? d.logLevel }

/-- The settings in a text. -/
def ofText? (text : String) : Option Config := do ofEntries? (← Toml.Entries.ofText? text)

/-- The settings in a file's content; without a file they are the ones to start from. -/
def load (content : Option Bytes) : Config :=
  (do ofText? (← String.fromUTF8? ⟨(← content).toArray⟩)).getD {}

end Config

end Screencast
