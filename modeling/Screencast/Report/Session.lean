import Screencast.Report.Parts
import Screencast.Session.Run

/-! # What is told of a session

The report of a session that has ended, and the log records before and after it.
-/

namespace Screencast

/-- Why a session ended, in a word. -/
def SessionEnd.label : SessionEnd → String
  | elapsed => "Elapsed"
  | stopped => "Stopped"
  | renderStopped _ => "RenderStopped"
  | hostTerminated _ => "HostTerminated"

/-- What of a summary does not depend on the speed of the machine. -/
instance : Reportable SessionSummary := ⟨fun s => .record
  [("codec", report s.codec), ("final_mode", report s.finalMode),
    ("keyframe_requests", report s.tally.keyframeRequests),
    ("client_resets", report s.tally.clientResets), ("renegotiations", report s.renegotiations),
    ("hard_restarts", report s.hardRestarts), ("end", s.reason.label)]⟩

/-- What is said of a session before it begins. -/
def Config.opening (c : Config) : List String :=
  ["display: " ++ c.displayMode.text,
    "codec preferences: " ++ Codec.listLabel c.codec.preferences,
    match c.duration with
    | some _ => "duration: " ++ toString c.session.durationSecs ++ "s"
    | none => "duration: until Ctrl-C"]

/-- What is said of a session after it has ended. -/
def SessionSummary.closing (s : SessionSummary) : List String :=
  ["session finished end=" ++ s.reason.label ++
      " codec=" ++ s.codec.elim "none" Codec.label ++ " mode=" ++ s.finalMode.text ++
      " encoded=" ++ toString s.framesEncoded ++
      " delivered=" ++ toString s.tally.framesDelivered ++
      " wire_kb=" ++ toString (s.bytesOnWire / 1024) ++
      " keyframe_requests=" ++ toString s.tally.keyframeRequests ++
      " client_resets=" ++ toString s.tally.clientResets ++
      " renegotiations=" ++ toString s.renegotiations ++
      " hard_restarts=" ++ toString s.hardRestarts,
    "last client stats fps=" ++ s.stats.fps.toOnePlace ++
      " latency_ms=" ++ s.stats.latencyMs.toOnePlace ++ " dropped=" ++ toString s.stats.dropped]

/-- Whether records of ordinary events are wanted at a level of detail. -/
def showsInfo (level : String) : Bool := ["trace", "debug", "info"].contains level

end Screencast
