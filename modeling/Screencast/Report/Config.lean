import Screencast.Config.Basic
import Screencast.Report.Parts

/-! # Reports of settings
-/

namespace Screencast

instance : Reportable ClientTuning := ⟨fun t => .record
  [("decode_wait_ms", report t.decodeWaitMs), ("render_wait_ms", report t.renderWaitMs),
    ("stat_interval_ms", report t.statIntervalMs), ("queue_warn_depth", report t.queueWarnDepth)]⟩

instance : Reportable HostParams := ⟨fun p => .record
  [("mode", report p.mode), ("codec_preferences", report p.preferences),
    ("initial_bitrate_bps", report p.initialBitrate), ("max_bitrate_bps", report p.maxBitrate),
    ("tuning", report p.tuning)]⟩

namespace Config

instance : Reportable Display := ⟨fun d => .record
  [("width", report d.width), ("height", report d.height),
    ("refresh_rate", report d.refreshRate)]⟩

instance : Reportable Codecs := ⟨fun c => .record
  [("preferences", report c.preferences), ("stretch", report c.stretch)]⟩

instance : Reportable Host := ⟨fun h => .record
  [("initial_bitrate_bps", report h.initialBitrate), ("max_bitrate_bps", report h.maxBitrate),
    ("manual_bitrate_bps", report h.manualBitrate), ("tuning", report h.tuning)]⟩

instance : Reportable Client := ⟨fun c => .record
  [("stats_log_interval_ms", report c.statsLogIntervalMs), ("tuning", report c.tuning)]⟩

instance : Reportable Link := ⟨fun l => .record
  [("capacity_bps", report l.params.capacity), ("base_rtt_ms", report l.params.baseRttMs),
    ("loss_rate", report l.params.lossRate), ("max_queue_ms", report l.params.maxQueueMs),
    ("telemetry_interval_ms", report l.telemetryIntervalMs)]⟩

instance : Reportable ModeChange := ⟨fun c => .record
  [("after_frames", report c.afterFrames), ("width", report c.width), ("height", report c.height),
    ("refresh_rate", report c.refreshRate), ("clamped", report c.mode)]⟩

instance : Reportable Course := ⟨fun c => .record
  [("duration_secs", report c.durationSecs), ("ack_timeout_ms", report c.ackTimeoutMs),
    ("mode_changes", report c.modeChanges)]⟩

/-- What follows from settings, when the client gets the codec it likes best. -/
def derived (c : Config) : Report :=
  .record
    [("display_mode", report c.displayMode), ("duration_ns", report c.duration),
      ("ack_timeout_ns", report c.ackTimeout), ("stats_log_interval_ns", report c.statsLogInterval),
      ("telemetry_interval_ns", report c.telemetryInterval),
      ("host_params",
        report (c.hostParams c.displayMode (c.codec.preferences.headD .zstd)))]

end Config

instance : Reportable Config := ⟨fun c => .record
  [("display", report c.display), ("codec", report c.codec), ("host", report c.host),
    ("client", report c.client), ("link", report c.link), ("session", report c.session),
    ("logging", .record [("level", report c.logLevel)]), ("derived", c.derived)]⟩

end Screencast
