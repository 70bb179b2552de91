import Screencast.Capture.Pattern
import Screencast.Client.Stats
import Screencast.Cursor.Cache
import Screencast.Encoder.Selection
import Screencast.Host.Control
import Screencast.Lifecycle
import Screencast.Link.Meter
import Screencast.Lossless.Decoder
import Screencast.Rate.Controller
import Screencast.Rate.Throttle
import Screencast.Render.Headless
import Screencast.Render.StatsOverlay
import Screencast.Report.Media

/-! # Reports of the parts of a stream

What can be seen of the state of each part.
-/

namespace Screencast

instance : Reportable Lifecycle := ⟨fun s => s.label⟩
instance : Reportable MouseMode := ⟨fun m => m.label⟩
instance : Reportable RenderOutcome := ⟨fun o => o.label⟩

instance : Reportable HostTuning := ⟨fun t => .record
  [("soft_fps_ceiling", report t.softFpsCeiling),
    ("throttle_hysteresis_fps", report t.throttleHysteresis),
    ("min_bitrate_bps", report t.minBitrate), ("capture_timeout_ms", report t.captureTimeoutMs),
    ("start_timeout_ms", report t.startTimeoutMs), ("backoff_loss_rate", report t.backoffLoss),
    ("backoff_nack_count", report t.backoffNack), ("backoff_ratio", report t.backoffRatio),
    ("probe_ratio", report t.probeRatio)]⟩

instance : Reportable Attempt := ⟨fun ⟨⟨backend, p⟩, succeeded⟩ => .record
  [("call", if backend.isHardware then "create_hard" else "create_soft"),
    ("backend", report backend), ("codec", report p.codec), ("width", report p.width),
    ("height", report p.height), ("fps", report p.fps), ("bitrate_bps", report p.bitrate),
    ("ok", report succeeded)]⟩

instance {ε : Type} [Encoder ε] : Reportable (SelectedEncoder ε) := ⟨fun s => .record
  [("ability", report s.ability), ("fps", report s.fps), ("debug", s.label),
    ("encoder", report (Encoder.ability s.encoder)),
    ("capture_format", report (Encoder.captureFormat s.encoder))]⟩

instance : Reportable LosslessEncoder := ⟨fun e => .record
  [("frames", report e.outputs), ("level", report e.level), ("fps", report e.params.fps),
    ("bitrate_bps", report e.params.bitrate)]⟩

instance : Reportable LosslessDecoder := ⟨fun d => .record
  [("decoded", report d.decoded), ("failures", report d.failures),
    ("lock", report d.hasContextLock)]⟩

/-- What the texture holds that a decoded picture went into, if it did. -/
def LosslessDecoder.textureFields (d : LosslessDecoder) (r : DecodedFrame) :
    List (String × Report) :=
  r.resource.toList.map fun resource =>
    ("texture", report ((d.texture? resource).map reportBytes))

instance : Reportable Throttle := ⟨fun t => .record
  [("observed", report t.observed), ("target", report t.target)]⟩

instance : Reportable RateController := ⟨fun c => .record
  [("bps", report c.bitrate), ("fps", report c.fps), ("manual", report c.manual)]⟩

instance : Reportable CursorCache := ⟨fun c => .record
  [("len", report c.size), ("empty", report (c.size == 0))]⟩

instance : Reportable CursorStore := ⟨fun s => .record
  [("len", report s.size), ("empty", report (s.size == 0))]⟩

instance : Reportable WaitingFrame := ⟨fun f => .record
  [("resource", report f.resource), ("capture_ts_us", report f.captureTime),
    ("arrival_ts_us", report f.arrivalTime)]⟩

instance : Reportable Smoother := ⟨fun s => .record
  [("size", report s.size), ("pushed", report s.pushed), ("dropped", report s.dropped)]⟩

instance : Reportable RenderSlot := ⟨fun s => .record
  [("wake", report s.wake.toBits), ("size", report s.smoother.size), ("stretch", report s.stretch),
    ("mouse_mode", report s.mouseMode), ("cursors", report s.store.size)]⟩

instance : Reportable Telemetry := ⟨fun t => .record
  [("time_diff_us", report t.timeDiff), ("rtt_ms", report t.rttMs), ("bwe_bps", report t.bandwidth),
    ("nack", report t.nack), ("loss_rate", report t.lossRate)]⟩

/-- The figures that do not depend on the speed of the machine. -/
def RenderStats.timelessReport (s : RenderStats) : Report := .record
  [("decoded", report s.decoded), ("dropped", report s.dropped), ("rendered", report s.rendered),
    ("rtt_ms", report s.rttMs), ("bwe_bps", report s.bandwidth), ("loss_rate", report s.lossRate)]

instance : Reportable RenderStats := ⟨fun s => s.timelessReport.add
  [("fps", report s.fps), ("latency_ms", report s.latencyMs)]⟩

instance : Reportable StatsReport := ⟨fun r => .record
  [("fps", r.fps), ("latency_ms", r.latencyMs), ("decoded", r.decoded), ("dropped", r.dropped),
    ("rtt_ms", r.rttMs), ("bwe_kbps", r.bandwidthKbps)]⟩

instance : Reportable PatternCapturer := ⟨fun c => .record
  [("mode", report c.mode), ("frames", report c.frames)]⟩

/-- The counters of a headless renderer. -/
instance : Reportable HeadlessRenderer := ⟨fun r => .record
  [("rendered", report r.rendered), ("presented", report r.presented),
    ("cursor_updates", report r.cursorUpdates), ("target_resets", report r.targetResets),
    ("stretch", report r.stretch), ("last_cursor", report r.lastCursor)]⟩

instance : Reportable TaskQueue := ⟨fun q => .record
  [("pending", report q.pending), ("closed", report q.closed)]⟩

instance : Reportable LinkReport := ⟨fun r => .record
  [("bwe_bps", report r.bandwidth), ("rtt_ms", report r.rttMs), ("loss_rate", report r.lossRate),
    ("nack", report r.nack)]⟩

instance : Reportable LinkMeter := ⟨fun l => .record
  [("queue_delay_ns", report (Span.mk l.queueDelay)), ("throughput_bps", report l.throughput),
    ("rtt_ns", report (Span.mk l.rtt)), ("bytes_sent", report l.bytesSent),
    ("bwe_bps", report l.bandwidth)]⟩

end Screencast
