import Screencast.Report.Basic
import Screencast.Wire.Message
import Screencast.Zstd.Frame

/-! # Reports of pictures, cursors and messages
-/

namespace Screencast

open Wire

instance : Reportable Codec := ⟨fun c => c.name⟩
instance : Reportable Backend := ⟨fun b => b.name⟩
instance : Reportable PixelFormat := ⟨fun p => p.name⟩
instance : Reportable DecodeStatus := ⟨fun s => s.label⟩
instance : Reportable Ability := ⟨fun a => .list [report a.codec, report a.backend]⟩

instance : Reportable DisplayMode := ⟨fun m => .record
  [("width", report m.width), ("height", report m.height),
    ("refresh_rate", report m.refreshRate), ("rotation", report m.rotation.degrees)]⟩

instance : Reportable Negotiated := ⟨fun n => (report n.mode).add
  [("codec", report n.ability.codec), ("backend", report n.ability.backend),
    ("stretch", report n.stretch)]⟩

instance : Reportable CaptureFormat := ⟨fun f => .record
  [("pixel", report f.pixel), ("cpu_readable", report f.cpuReadable)]⟩

instance : Reportable Pixels := ⟨fun p => .record <| match p with
  | .surface handle => [("surface", report handle)]
  | .memory stride data => [("stride", report stride), ("data", reportBytes data)]⟩

instance : Reportable CapturedFrame := ⟨fun f => .record
  [("width", report f.width), ("height", report f.height), ("format", report f.format),
    ("data", report f.pixels)]⟩

instance : Reportable DecodedFrame := ⟨fun d => .record
  [("status", report d.status), ("resource", report d.resource)]⟩

instance : Reportable RatePatch := ⟨fun p => .record
  [("bitrate_bps", report p.bitrate), ("fps", report p.fps)]⟩

instance : Reportable StreamError := ⟨fun e => .record
  [("error", e.kind), ("message", e.message)]⟩

instance {α : Type} [Reportable α] : Reportable (Except StreamError α) := ⟨fun r =>
  match r with
  | .ok a => report a
  | .error e => report e⟩

instance : Reportable CursorBitmap := ⟨fun b => .record
  [("width", report b.width), ("height", report b.height), ("hotspot_x", report b.hotspotX),
    ("hotspot_y", report b.hotspotY), ("data", reportBytes b.data)]⟩

instance : Reportable CursorImage := ⟨fun i => .record <| match i with
  | .preset id => [("preset", report id)]
  | .bitmap b => [("bitmap", report b)]⟩

instance : Reportable CursorState := ⟨fun c => .record
  [("x", report c.x), ("y", report c.y), ("visible", report c.visible),
    ("image", report c.image)]⟩

instance : Reportable CursorShape := ⟨fun s => .record <| match s with
  | .preset id => [("preset", report id)]
  | .bitmap b id => [("bitmap", report b), ("dedup_id", report id)]
  | .cached id => [("cached", report id)]⟩

instance : Reportable CursorInfo := ⟨fun c => .record
  [("x", report c.x), ("y", report c.y), ("visible", report c.visible),
    ("shape", report c.shape)]⟩

def Wire.RateTrigger.label : RateTrigger → String
  | turnOnAuto => "TurnOnAuto"
  | turnOffAuto => "TurnOffAuto"

instance : Reportable RateRequest := ⟨fun r => .record
  [("trigger", report (r.trigger.map RateTrigger.label)), ("bitrate_bps", report r.bitrate),
    ("fps", report r.fps)]⟩

instance : Reportable TransportStat := ⟨fun s => .record
  [("nack", report s.nack), ("bwe_bps", report s.bandwidth), ("loss_rate", report s.lossRate)]⟩

/-- An encoded picture without the times that depend on the speed of the encoder. -/
def EncodedFrame.timelessReport (f : EncodedFrame) (payload : Report) : Report := .record
  [("codec", report f.codec), ("width", report f.width), ("height", report f.height),
    ("is_keyframe", report f.isKeyframe), ("picture_id", report f.pictureId),
    ("capture_ts_us", report f.captureTime), ("payload", payload)]

instance : Reportable EncodedFrame := ⟨fun f => (f.timelessReport (reportBytes f.payload)).add
  [("start_encode_ts_us", report f.encodeStart), ("end_encode_ts_us", report f.encodeEnd),
    ("encode_duration_us", report f.encodeDuration)]⟩

/-- What a message carries. -/
def Wire.Message.content : Message → Report
  | .encodedFrame frame => report frame
  | .requestKeyframe => .record []
  | .reconfigureEncoder request => report request
  | .changeStreamingParams mode => report mode
  | .changeStreamingParamsAck mode => report mode
  | .sendSideStat stat => report stat
  | .cursorInfo info => report info

instance : Reportable Message := ⟨fun m => m.content.add [("type", m.kind)]⟩

/-- What a compressed payload expands to. -/
def reportExpanded (payload : Bytes) : Report :=
  report ((Compression.stored.decompress payload).map reportBytes)

end Screencast
