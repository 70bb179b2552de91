import Screencast.Host.Pipeline
import Screencast.Report.Parts

/-! # Playing a script to the host's pipeline

A script says turn by turn what the collaborators answer and which messages come in before. The
record is kept in groups: a group ends when a picture is handed back or none was captured, and
the messages before a turn come in as soon as the group before it has ended.
-/

namespace Screencast

open Wire

/-- A turn of a script, with the messages that come in before it. -/
structure ScriptedTurn where
  messages : List Message := []
  turn : Turn
deriving Repr

/-- An entry of the record. -/
inductive HostRecord
  | message (kind : String) (taken : Bool) (pending : Nat)
  | action (a : HostAction)
deriving DecidableEq, Repr

/-- Whether a group of the record ends here. -/
def HostAction.endsGroup : HostAction → Bool
  | .handedBack _ | .captured false => true
  | _ => false

namespace HostLoop

variable {ε : Type} [Encoder ε]

/-- Passes on messages and records how they were taken. -/
def receive (l : HostLoop ε) : List Message → List HostRecord × HostLoop ε
  | [] => ([], l)
  | m :: ms =>
    let (taken, queue) := l.queue.handle m
    let (more, l) := { l with queue }.receive ms
    (.message m.kind taken queue.pending :: more, l)

/-- Plays a script from a group that has begun; the messages before the first turn are in it
already. -/
def play (l : HostLoop ε) (group : List HostRecord) :
    List ScriptedTurn → List (List HostRecord) × HostLoop ε
  | [] => ([group], l)
  | t :: rest =>
    let (goesOn, done, l) := l.turn t.turn
    let group := group ++ done.map .action
    let leave (l : HostLoop ε) := if goesOn then l else l.leave
    if done.any HostAction.endsGroup then
      let (next, l) := l.receive (rest.head?.elim [] ScriptedTurn.messages)
      if goesOn then
        let (groups, l) := l.play next rest
        (group :: groups, l)
      else ([group, next], leave l)
    else ([group], leave l)

end HostLoop

/-- How an event is shown. The payload of the lossless codec is shown as what it expands to. -/
def HostEvent.report : HostEvent → Report
  | .outbound (.encodedFrame f) =>
    let payload := match f.codec, Compression.stored.decompress f.payload with
      | .zstd, some content => Report.record [("raw", reportBytes content)]
      | _, _ => reportBytes f.payload
    (f.timelessReport payload).add [("type", "EncodedFrame")]
  | .outbound m => Reportable.report m
  | .terminated cause =>
    .record [("type", "Terminated"), ("cause", Reportable.report cause)]

/-- How an action is shown; `verbose` tells whether the encoder keeps an account of its calls. -/
def HostAction.call? (verbose : Bool) (timeoutMs : Nat) : HostAction → Option Report
  | .reconfigured patch _ =>
    if verbose then some (.record [("call", "reconfigure"), ("patch", report patch)]) else none
  | .keyframeRequested => if verbose then some (.record [("call", "request_keyframe")]) else none
  | .compositorAsked found =>
    some (.record [("call", "cursor_compositor"), ("some", report found)])
  | .legacyAsked found => some (.record [("call", "cursor_legacy"), ("some", report found)])
  | .captured found => some (.record
      [("call", "capture"), ("timeout_ms", report timeoutMs), ("frame", report found)])
  | .encoded time =>
    if verbose then some (.record [("call", "encode"), ("ts", report time)]) else none
  | .handedBack time => some (.record [("call", "done"), ("ts", report time)])
  | .sent _ => none

/-- How an entry of the record is shown among the calls. -/
def HostRecord.call? (verbose : Bool) (timeoutMs : Nat) : HostRecord → Option Report
  | .message kind taken pending => some (.record
      [("call", "control"), ("kind", kind), ("taken", report taken), ("pending", report pending)])
  | .action a => a.call? verbose timeoutMs

/-- How a group of the record is shown: the calls, and the events that were sent. -/
def HostRecord.groupReport (verbose : Bool) (timeoutMs : Nat) (group : List HostRecord) :
    Report :=
  .record
    [("calls", .list (group.filterMap (HostRecord.call? verbose timeoutMs))),
      ("events", .list (group.filterMap fun
        | .action (.sent e) => some e.report
        | _ => none))]

end Screencast
