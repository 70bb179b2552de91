import Screencast.Config.Basic
import Screencast.Number.Shortest
import Screencast.Toml.Quoted

/-! # Writing settings to a file

One section after the other, with all settings in a fixed order. A list of two or more items has
one item on each line. A bitrate that is not fixed is left out.
-/

namespace Screencast

namespace Toml

/-- A list of values that are written already. -/
def listText (items : List String) : String :=
  match items with
  | [] => "[]"
  | [item] => "[" ++ item ++ "]"
  | _ => "[\n" ++ String.join (items.map fun item => "    " ++ item ++ ",\n") ++ "]"

/-- A header and the assignments below it, whose values are written already. -/
def sectionText (header : String) (entries : List (String × String)) : String :=
  header ++ "\n" ++ String.join (entries.map fun (key, value) => key ++ " = " ++ value ++ "\n")

end Toml

namespace Config

open Toml (listText quoted sectionText)

def ModeChange.text (c : ModeChange) : String :=
  sectionText "[[session.mode_changes]]"
    [("after_frames", toString c.afterFrames), ("width", toString c.width),
      ("height", toString c.height), ("refresh_rate", toString c.refreshRate)]

/-- The sections of a file with all settings. -/
def sections (c : Config) : List String :=
  let host := c.host.tuning
  let client := c.client.tuning
  let link := c.link.params
  [sectionText "[display]"
      [("width", toString c.display.width), ("height", toString c.display.height),
        ("refresh_rate", toString c.display.refreshRate)],
    sectionText "[codec]"
      [("preferences", listText (c.codec.preferences.map fun p => quoted p.name)),
        ("stretch", toString c.codec.stretch)],
    sectionText "[host]"
      ([("initial_bitrate_bps", toString c.host.initialBitrate),
        ("max_bitrate_bps", toString c.host.maxBitrate)] ++
        c.host.manualBitrate.toList.map fun bps => ("manual_bitrate_bps", toString bps)),
    sectionText "[host.tuning]"
      [("soft_fps_ceiling", toString host.softFpsCeiling),
        ("throttle_hysteresis_fps", toString host.throttleHysteresis),
        ("min_bitrate_bps", toString host.minBitrate),
        ("capture_timeout_ms", toString host.captureTimeoutMs),
        ("start_timeout_ms", toString host.startTimeoutMs),
        ("backoff_loss_rate", host.backoffLoss.text),
        ("backoff_nack_count", toString host.backoffNack),
        ("backoff_ratio", host.backoffRatio.text), ("probe_ratio", host.probeRatio.text)],
    sectionText "[client]"
      [("stats_log_interval_ms", toString c.client.statsLogIntervalMs)],
    sectionText "[client.tuning]"
      [("decode_wait_ms", toString client.decodeWaitMs),
        ("render_wait_ms", toString client.renderWaitMs),
        ("stat_interval_ms", toString client.statIntervalMs),
        ("queue_warn_depth", toString client.queueWarnDepth)],
    sectionText "[link]"
      [("capacity_bps", toString link.capacity), ("base_rtt_ms", toString link.baseRttMs),
        ("loss_rate", link.lossRate.text), ("max_queue_ms", toString link.maxQueueMs),
        ("telemetry_interval_ms", toString c.link.telemetryIntervalMs)],
    sectionText "[session]"
      ([("duration_secs", toString c.session.durationSecs),
        ("ack_timeout_ms", toString c.session.ackTimeoutMs)] ++
        if c.session.modeChanges.isEmpty then [("mode_changes", listText [])] else [])] ++
    c.session.modeChanges.map ModeChange.text ++
    [sectionText "[logging]" [("level", quoted c.logLevel)]]

/-- A file with all settings. -/
def text (c : Config) : String := String.intercalate "\n" c.sections

end Config

end Screencast
