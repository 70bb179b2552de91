import Screencast.Host.Pipeline
import Screencast.Proofs.Host.Custody

/-! # The events of a capture loop

What the loop tells its owner is a stream of cursors and encoded pictures. The pictures are
numbered without a gap, whatever was not captured, not of the right size, throttled or left out by
the encoder, for the number counts outputs and nothing else. Only a mode that differs from the
negotiated one adds something to the stream: the proposal of that mode and the reason for the end,
after which nothing is told (`Screencast.HostLoop.events_of_run`).
-/

namespace Screencast

open Wire HostAction

/-- The encoded pictures among events. -/
def HostEvent.frames (events : List HostEvent) : List EncodedFrame :=
  events.filterMap fun
    | .outbound (.encodedFrame f) => some f
    | _ => none

@[simp] theorem HostEvent.frames_append (earlier later : List HostEvent) :
    frames (earlier ++ later) = frames earlier ++ frames later :=
  List.filterMap_append

/-- A message of a stream that goes on. -/
inductive HostEvent.Streamed : HostEvent → Prop
  | cursor (info : CursorInfo) : Streamed (.outbound (.cursorInfo info))
  | picture (f : EncodedFrame) : Streamed (.outbound (.encodedFrame f))

/-- What is told of a mode that differs from the negotiated one. -/
def HostEvent.farewell (m : DisplayMode) : List HostEvent :=
  [.outbound (.changeStreamingParams m),
    .terminated (.resolutionChanged m.width m.height m.refreshRate)]

namespace HostWorker

open HostEvent

variable {ε : Type}

/-- From `w` to `w'` the loop sent these events of a stream. The counter of `w'` is ahead of them
only if a picture found its receiver gone, with which the loop does not go on. -/
structure Streams (w : HostWorker ε) (goesOn : Bool) (sent : List HostEvent)
    (w' : HostWorker ε) : Prop where
  mode : w'.mode = w.mode
  codec : w'.codec = w.codec
  streamed : ∀ e ∈ sent, e.Streamed
  shapes : ∀ f ∈ frames sent,
    f.width = w.mode.width ∧ f.height = w.mode.height ∧ f.codec = w.codec
  numbers : (frames sent).map (·.pictureId) =
    (List.range' w.pictures (frames sent).length).map UInt64.ofNat
  counted : w'.pictures = w.pictures + (frames sent).length ∨
    goesOn = false ∧ w'.audience = some 0 ∧
      w'.pictures = w.pictures + (frames sent).length + 1

variable {w w₁ w₂ : HostWorker ε} {goesOn : Bool} {sent later : List HostEvent}

/-- A stretch that says nothing and leaves mode, codec and count alone keeps to the stream. -/
theorem Streams.silent (mode : w₁.mode = w.mode) (codec : w₁.codec = w.codec)
    (pictures : w₁.pictures = w.pictures) : w.Streams goesOn [] w₁ where
  mode := mode
  codec := codec
  streamed := fun _ told => nomatch told
  shapes := fun _ told => nomatch told
  numbers := rfl
  counted := .inl pictures

/-- Two stretches of the stream, one behind the other. -/
theorem Streams.trans (first : w.Streams true sent w₁) (second : w₁.Streams goesOn later w₂) :
    w.Streams goesOn (sent ++ later) w₂ := by
  have ahead : w₁.pictures = w.pictures + (frames sent).length := by
    rcases first.counted with counted | ⟨goesOn, -⟩
    · exact counted
    · cases goesOn
  constructor
  · rw [second.mode, first.mode]
  · rw [second.codec, first.codec]
  · intro e told
    rcases List.mem_append.mp told with early | late
    · exact first.streamed e early
    · exact second.streamed e late
  · intro f told
    rw [frames_append] at told
    rcases List.mem_append.mp told with early | late
    · exact first.shapes f early
    · rw [← first.mode, ← first.codec]
      exact second.shapes f late
  · rw [frames_append, List.map_append, first.numbers, second.numbers, ahead, ← List.map_append,
      List.range'_append_1, List.length_append]
  · rw [frames_append, List.length_append, ← Nat.add_assoc, ← ahead]
    exact second.counted

/-- Whether the loop goes on afterwards does not matter to what was sent. -/
theorem Streams.last (streams : w.Streams goesOn sent w₁) : w.Streams false sent w₁ :=
  { streams with counted := streams.counted.imp_right fun ahead => ⟨rfl, ahead.2⟩ }

/-- Asking about the cursor sends nothing by itself. -/
theorem events_asked (t : Turn) : events t.cursor.1 = [] := by
  apply events_eq_nil
  rintro a did e rfl
  obtain ⟨found, same | same⟩ := mem_asked did
  · cases same
  · cases same

variable [Encoder ε]

/-- Obeying tasks sends nothing. -/
theorem events_drain (w : HostWorker ε) (tasks : List HostTask) :
    events (w.drain tasks).1 = [] := by
  apply events_eq_nil
  rintro a did e rfl
  rcases mem_drain did with ⟨patch, accepted, same⟩ | same
  · cases same
  · cases same

private theorem drain_streams (w : HostWorker ε) (tasks : List HostTask) :
    w.Streams true [] (w.drain tasks).2 := by
  obtain ⟨encoder, throttle, rates, cursor, drained⟩ := w.exists_drain_eq tasks
  rw [drained]
  exact .silent rfl rfl rfl

omit [Encoder ε] in
private theorem pollCursor_streams (w : HostWorker ε) (t : Turn) :
    w.Streams (w.pollCursor t).1 (events (w.pollCursor t).2.1) (w.pollCursor t).2.2 := by
  obtain ⟨cursor, polled | ⟨info, polled⟩⟩ := w.pollCursor_cases t
  · rw [polled, events_asked]
    exact .silent rfl rfl rfl
  · rw [polled, events_append, events_asked, List.nil_append]
    rcases send_cases { w with cursor } (.outbound (.cursorInfo info)) with
      ⟨-, unheard⟩ | ⟨audience, heard⟩
    · rw [unheard]
      exact .silent rfl rfl rfl
    · rw [heard]
      exact {
        mode := rfl
        codec := rfl
        streamed := fun e told => List.mem_singleton.mp told ▸ .cursor info
        shapes := fun f told => nomatch told
        numbers := rfl
        counted := .inl rfl }

private theorem encodeFrame_streams (w : HostWorker ε) {f : CapturedFrame}
    (width : f.width = w.mode.width)
    (height : f.height = w.mode.height) (t : Turn) :
    w.Streams (w.encodeFrame t f).1 (events (w.encodeFrame t f).2.1) (w.encodeFrame t f).2.2 := by
  cases output : (Encoder.encode w.encoder f).1 with
  | none =>
      rw [encodeFrame_of_none output]
      exact .silent rfl rfl rfl
  | some out =>
      rw [encodeFrame_of_some output]
      rcases send_cases { w with
        encoder := (Encoder.encode w.encoder f).2, pictures := w.pictures + 1 }
        (.outbound (.encodedFrame (w.frame t f out))) with ⟨gone, unheard⟩ | ⟨audience, heard⟩
      · -- the picture has been counted and nobody got it
        rw [unheard]
        exact {
          mode := rfl
          codec := rfl
          streamed := fun e told => nomatch told
          shapes := fun f told => nomatch told
          numbers := rfl
          counted := .inr ⟨rfl, gone, rfl⟩ }
      · rw [heard]
        exact {
          mode := rfl
          codec := rfl
          streamed := fun e told => List.mem_singleton.mp told ▸ .picture _
          shapes := fun g told => List.mem_singleton.mp told ▸ ⟨width, height, rfl⟩
          numbers := rfl
          counted := .inl rfl }

private theorem handleFrame_streams (w : HostWorker ε) (t : Turn) (f : CapturedFrame) :
    w.Streams (w.handleFrame t f).1 (events (w.handleFrame t f).2.1) (w.handleFrame t f).2.2 := by
  obtain ⟨throttle, handled | ⟨width, height, handled⟩⟩ := w.handleFrame_cases t f
  · rw [handled]
    exact .silent rfl rfl rfl
  · rw [handled]
    have throttled : w.Streams true [] { w with throttle } := .silent rfl rfl rfl
    exact throttled.trans (encodeFrame_streams { w with throttle } width height t)

/-- Nothing but what is done with a captured picture tells anything. -/
theorem events_captureFrame {t : Turn} {f : CapturedFrame} (taken : t.capture = some f) :
    events (w.captureFrame t).2.1 = events (w.handleFrame t f).2.1 := by
  rw [captureFrame_of_some taken]
  change events ((w.handleFrame t f).2.1 ++ _) = _
  rw [events_append]
  exact List.append_nil _

private theorem captureFrame_streams (w : HostWorker ε) (t : Turn) :
    w.Streams (w.captureFrame t).1 (events (w.captureFrame t).2.1) (w.captureFrame t).2.2 := by
  cases capture : t.capture with
  | none =>
      rw [captureFrame_of_none capture]
      exact .silent rfl rfl rfl
  | some f =>
      rw [events_captureFrame capture, captureFrame_of_some capture]
      exact w.handleFrame_streams t f

private theorem look_streams {t : Turn} (same : t.mode = w.mode) :
    w.Streams (w.look t).1 (events (w.look t).2.1) (w.look t).2.2 := by
  have polled := w.pollCursor_streams t
  rw [look_of_eq same]
  cases goesOn : (w.pollCursor t).1 with
  | true =>
      rw [goesOn] at polled
      rw [if_pos rfl, events_append]
      exact polled.trans ((w.pollCursor t).2.2.captureFrame_streams t)
  | false =>
      rw [if_neg Bool.false_ne_true]
      exact polled

/-- A worker about to look at its display has said nothing in this turn. -/
theorem ready_streams (w : HostWorker ε) (tasks : List HostTask) (t : Turn) :
    w.Streams true [] ((w.drain tasks).2.heed t) :=
  have heeded : (w.drain tasks).2.Streams true [] ((w.drain tasks).2.heed t) := .silent rfl rfl rfl
  (w.drain_streams tasks).trans heeded

/-- A turn in the worker's own mode sends a stretch of the stream. -/
theorem turn_streams (tasks : List HostTask) {t : Turn} (same : t.mode = w.mode) :
    w.Streams (w.turn tasks t).1 (events (w.turn tasks t).2.1) (w.turn tasks t).2.2 := by
  have ready := w.ready_streams tasks t
  have looked := look_streams (same.trans ready.mode.symm)
  rw [turn_eq, events_append, events_drain]
  exact ready.trans looked

omit [Encoder ε] in
/-- What is sent of a new mode is all there is to say of it, unless the receiver goes. -/
theorem announce_farewell (w : HostWorker ε) (m : DisplayMode) :
    ∃ audience, (w.announce m).2 = { w with audience } ∧
      events (w.announce m).1 <+: farewell m ∧
      (audience ≠ some 0 → events (w.announce m).1 = farewell m) := by
  by_cases gone : w.audience = some 0
  · rw [announce_of_gone gone]
    exact ⟨w.audience, rfl, List.nil_prefix, fun present => absurd gone present⟩
  · rw [announce_of_heard gone]
    rcases { w with audience := w.audience.map (· - 1) }.send_cases
        (.terminated (.resolutionChanged m.width m.height m.refreshRate)) with
      ⟨left, unheard⟩ | ⟨audience, ended⟩
    · rw [unheard]
      exact ⟨_, rfl, List.prefix_append .., fun present => absurd left present⟩
    · rw [ended]
      exact ⟨audience, rfl, List.prefix_rfl, fun _ => rfl⟩

/-- A turn in another mode ends the loop, with the farewell as far as anyone hears it. -/
theorem turn_of_ne (tasks : List HostTask) {t : Turn} (changed : t.mode ≠ w.mode) :
    (w.turn tasks t).1 = false ∧ w.Streams true [] (w.turn tasks t).2.2 ∧
      events (w.turn tasks t).2.1 <+: farewell t.mode ∧
      ((w.turn tasks t).2.2.audience ≠ some 0 →
        events (w.turn tasks t).2.1 = farewell t.mode) := by
  have ready := w.ready_streams tasks t
  have differs : t.mode ≠ ((w.drain tasks).2.heed t).mode := by
    rw [ready.mode]
    exact changed
  obtain ⟨audience, announced, told, complete⟩ :=
    ((w.drain tasks).2.heed t).announce_farewell t.mode
  have after : ((w.drain tasks).2.heed t).Streams true []
      (((w.drain tasks).2.heed t).announce t.mode).2 := by
    rw [announced]
    exact .silent rfl rfl rfl
  rw [turn_eq, look_of_ne differs, events_append, events_drain]
  refine ⟨rfl, ready.trans after, told, ?_⟩
  intro present
  apply complete
  rw [announced] at present
  exact present

/-! ### As long as the receiver stays -/

/-- What there is to tell of a turn's capture: what the encoder puts out for it, if it is wanted. -/
def pictureNews? (w : HostWorker ε) (t : Turn) : Option EncodedFrame :=
  (t.capture.filter fun f => w.Wants f).bind fun f =>
    (Encoder.encode w.encoder f).1.map (w.frame t f)

omit [Encoder ε] in
/-- News of the cursor are sent. -/
theorem pollCursor_of_stays (stays : w.audience = none) (t : Turn) :
    ∃ cursor, (w.pollCursor t).1 = true ∧ (w.pollCursor t).2.2 = { w with cursor } ∧
      events (w.pollCursor t).2.1 =
        (w.cursorNews? t).toList.map (.outbound <| .cursorInfo ·) := by
  cases news : w.cursorNews? t with
  | none =>
      obtain ⟨cursor, polled⟩ := pollCursor_of_none news
      rw [polled]
      exact ⟨cursor, rfl, rfl, events_asked t⟩
  | some info =>
      obtain ⟨cursor, polled⟩ := pollCursor_of_some news
      have heard := send_of_stays (w := { w with cursor }) stays (.outbound (.cursorInfo info))
      rw [polled, heard, events_append, events_asked]
      exact ⟨cursor, rfl, rfl, rfl⟩

/-- What the encoder puts out is sent. -/
theorem encodeFrame_of_stays (stays : w.audience = none) (t : Turn) (f : CapturedFrame) :
    (w.encodeFrame t f).1 = true ∧ events (w.encodeFrame t f).2.1 =
      ((Encoder.encode w.encoder f).1.map (w.frame t f)).toList.map
        (.outbound <| .encodedFrame ·) := by
  cases output : (Encoder.encode w.encoder f).1 with
  | none =>
      rw [encodeFrame_of_none output]
      exact ⟨rfl, rfl⟩
  | some out =>
      have heard := send_of_stays (w := { w with
        encoder := (Encoder.encode w.encoder f).2, pictures := w.pictures + 1 }) stays
        (.outbound (.encodedFrame (w.frame t f out)))
      rw [encodeFrame_of_some output, heard]
      exact ⟨rfl, rfl⟩

/-- A wanted picture is sent if the encoder puts something out for it. -/
theorem captureFrame_of_stays (stays : w.audience = none) (t : Turn) :
    (w.captureFrame t).1 = true ∧ events (w.captureFrame t).2.1 =
      (w.pictureNews? t).toList.map (.outbound <| .encodedFrame ·) := by
  unfold pictureNews?
  cases capture : t.capture with
  | none =>
      rw [captureFrame_of_none capture]
      exact ⟨rfl, rfl⟩
  | some f =>
      rw [events_captureFrame capture, captureFrame_of_some capture, Option.filter_some]
      by_cases wants : w.Wants f
      · obtain ⟨throttle, encoded⟩ := handleFrame_of_wants wants t
        rw [encoded, if_pos (decide_eq_true wants)]
        exact encodeFrame_of_stays (w := { w with throttle }) stays t f
      · obtain ⟨throttle, left⟩ := handleFrame_of_not_wants wants t
        rw [left, if_neg (by simpa using wants)]
        exact ⟨rfl, rfl⟩

/-- In the negotiated mode a turn tells of the cursor and of the picture that it captures. -/
theorem look_of_stays {t : Turn} (same : t.mode = w.mode) (stays : w.audience = none) :
    (w.look t).1 = true ∧ events (w.look t).2.1 =
      (w.cursorNews? t).toList.map (.outbound <| .cursorInfo ·) ++
        (w.pictureNews? t).toList.map (.outbound <| .encodedFrame ·) ∧
      custody (w.look t).2.1 = t.custody := by
  obtain ⟨cursor, goesOn, after, told⟩ := pollCursor_of_stays stays t
  obtain ⟨further, sent⟩ := captureFrame_of_stays (w := { w with cursor }) stays t
  rw [look_of_eq same, if_pos goesOn, after, events_append, told, sent, custody_append,
    custody_pollCursor, custody_captureFrame]
  exact ⟨further, rfl, rfl⟩

omit [Encoder ε] in
/-- A receiver that stays gets the whole farewell. -/
theorem announce_of_stays (stays : w.audience = none) (m : DisplayMode) :
    w.announce m = ((farewell m).map .sent, w) := by
  simp only [announce, send_of_stays stays]
  rfl

/-- What a turn comes to as long as the receiver stays. -/
theorem turn_of_stays (tasks : List HostTask) {t : Turn}
    (stays : t.audience.or w.audience = none) :
    let ready := (w.drain tasks).2
    if t.mode = w.mode then
      (w.turn tasks t).1 = true ∧ custody (w.turn tasks t).2.1 = t.custody ∧
        events (w.turn tasks t).2.1 =
          (ready.cursorNews? t).toList.map (.outbound <| .cursorInfo ·) ++
            (ready.pictureNews? t).toList.map (.outbound <| .encodedFrame ·)
    else (w.turn tasks t).1 = false ∧ events (w.turn tasks t).2.1 = farewell t.mode := by
  intro ready
  have mode : (ready.heed t).mode = w.mode := (w.ready_streams tasks t).mode
  have audience : ready.audience = w.audience := by
    obtain ⟨encoder, throttle, rates, cursor, drained⟩ := w.exists_drain_eq tasks
    change (w.drain tasks).2.audience = w.audience
    rw [drained]
  have stays' : (ready.heed t).audience = none := by
    rw [← stays, ← audience]
    rfl
  rw [turn_eq, events_append, events_drain, custody_append, custody_drain]
  split
  next same =>
    obtain ⟨goesOn, told, kept⟩ := look_of_stays (same.trans mode.symm) stays'
    exact ⟨goesOn, kept, told⟩
  next changed =>
    rw [look_of_ne (mode.symm ▸ changed), announce_of_stays stays']
    exact ⟨rfl, rfl⟩

end HostWorker

/-- The events that reached the owner in turns. -/
def TakenTurn.sent (taken : List TakenTurn) : List HostEvent :=
  taken.flatMap fun τ => events τ.actions

/-- The first mode found in turns that is not the negotiated one. -/
def TakenTurn.newMode? (negotiated : DisplayMode) (taken : List TakenTurn) : Option DisplayMode :=
  (taken.map (·.turn.mode)).find? (· ≠ negotiated)

namespace TakenTurn

/-- What is sent is read off turn by turn. -/
theorem sent_append (earlier later : List TakenTurn) :
    sent (earlier ++ later) = sent earlier ++ sent later :=
  List.flatMap_append

/-- Of a single turn, it is the events among its actions. -/
theorem sent_singleton (τ : TakenTurn) : sent [τ] = events τ.actions :=
  List.flatMap_singleton ..

variable {negotiated : DisplayMode} {taken : List TakenTurn}

private theorem newMode?_append_of_ne (unchanged : newMode? negotiated taken = none) {τ : TakenTurn}
    (changed : τ.turn.mode ≠ negotiated) :
    newMode? negotiated (taken ++ [τ]) = some τ.turn.mode := by
  unfold newMode? at unchanged ⊢
  rw [List.map_append, List.find?_append, unchanged, Option.none_or]
  exact List.find?_cons_of_pos (decide_eq_true changed)

private theorem newMode?_append_of_eq (unchanged : newMode? negotiated taken = none) {τ : TakenTurn}
    (same : τ.turn.mode = negotiated) : newMode? negotiated (taken ++ [τ]) = none := by
  unfold newMode? at unchanged ⊢
  rw [List.map_append, List.find?_append, unchanged, Option.none_or]
  exact List.find?_cons_of_neg (by simp [same])

end TakenTurn

namespace HostLoop

open HostEvent HostWorker TakenTurn

variable {ε : Type}

/-- The events after the stream are those that announce a new mode, if one was found. -/
def Ends (ending : List HostEvent) (audience : Option Nat) : Option DisplayMode → Prop
  | none => ending = []
  | some m => ending <+: farewell m ∧ (audience ≠ some 0 → ending = farewell m)

/-- The events in turns are a stream that led to a worker, and what announces a new mode. -/
def Traces (w : HostWorker ε) (taken : List TakenTurn) (w' : HostWorker ε) : Prop :=
  ∃ stream ending, sent taken = stream ++ ending ∧ w.Streams false stream w' ∧
    Ends ending w'.audience (newMode? w.mode taken)

/-- What has been told since a loop began with worker `w`. -/
structure Told (w : HostWorker ε) (taken : List TakenTurn) (l : HostLoop ε) : Prop where
  live : l.running = true →
    w.Streams true (sent taken) l.worker ∧ newMode? w.mode taken = none
  traces : Traces w taken l.worker
  closed : l.running = false → l.queue = ⟨[], true⟩

variable {w w' : HostWorker ε} {taken : List TakenTurn} {l : HostLoop ε}

private theorem traces_of_streams {goesOn : Bool} (streams : w.Streams goesOn (sent taken) w')
    (same : newMode? w.mode taken = none) : Traces w taken w' := by
  refine ⟨sent taken, [], (List.append_nil _).symm, streams.last, ?_⟩
  rw [same]
  rfl

/-- A loop that runs in its first mode has told nothing but the stream. -/
theorem told_of_running (running : l.running = true)
    (streams : w.Streams true (sent taken) l.worker) (same : newMode? w.mode taken = none) :
    l.Told w taken where
  live := fun _ => ⟨streams, same⟩
  traces := traces_of_streams streams same
  closed := by
    intro stopped
    rw [running] at stopped
    cases stopped

private theorem told_leave (traces : Traces w taken l.worker) : l.leave.Told w taken where
  live := fun running => nomatch running
  traces := traces
  closed := fun _ => rfl

variable [Encoder ε]

/-- One more turn keeps the account of what was told. -/
theorem Told.turn (told : l.Told w taken) (running : l.running = true) (t : Turn) :
    (l.step t).2.Told w (taken ++ [⟨l.queue.tasks, t, (l.step t).1⟩]) := by
  obtain ⟨before, unchanged⟩ := told.live running
  rw [step_of_running running]
  dsimp only
  generalize taken' : taken ++ [⟨l.queue.tasks, t, (l.worker.turn l.queue.tasks t).2.1⟩] = turns
  have sentNow : sent turns = sent taken ++ events (l.worker.turn l.queue.tasks t).2.1 := by
    rw [← taken', sent_append, sent_singleton]
  -- A turn adds to the stream; in another mode it adds the farewell instead and is the last.
  by_cases mode : t.mode = l.worker.mode
  · have streams := before.trans (turn_streams l.queue.tasks mode)
    have same : newMode? w.mode turns = none :=
      taken' ▸ newMode?_append_of_eq unchanged (mode.trans before.mode)
    rw [← sentNow] at streams
    cases goesOn : (l.worker.turn l.queue.tasks t).1 with
    | true =>
        rw [goesOn] at streams
        exact told_of_running running streams same
    | false => exact told_leave (traces_of_streams streams same)
  · obtain ⟨last, silent, farewell, complete⟩ := turn_of_ne l.queue.tasks mode
    have changed : newMode? w.mode turns = some t.mode :=
      taken' ▸ newMode?_append_of_ne unchanged (before.mode ▸ mode)
    rw [last]
    apply told_leave
    refine ⟨_, _, sentNow, ?_, ?_⟩
    · have streams := before.trans silent
      rw [List.append_nil] at streams
      exact streams.last
    · rw [changed]
      exact ⟨farewell, complete⟩

/-- A message or a turn keeps the account of what was told. -/
theorem Told.respond (told : l.Told w taken) (i : HostInput) :
    (l.respond i).2.Told w (taken ++ (l.respond i).1.toList) := by
  cases i with
  | message m =>
      have closed : l.running = false → (l.queue.handle m).2 = ⟨[], true⟩ := by
        intro stopped
        rw [told.closed stopped]
        exact TaskQueue.handle_closed m
      rw [HostLoop.respond, Option.toList_none, List.append_nil]
      exact ⟨told.live, told.traces, closed⟩
  | turn t =>
      cases running : l.running with
      | true =>
          rw [respond_turn_of_running running]
          exact told.turn running t
      | false =>
          rw [respond_turn_of_stopped running, Option.toList_none, List.append_nil]
          exact told
  | stop =>
      rw [HostLoop.respond, Option.toList_none, List.append_nil]
      exact told_leave told.traces

/-- The next turn of a loop that runs, as long as the receiver stays. -/
theorem step_of_stays (running : l.running = true) {t : Turn}
    (stays : t.audience.or l.worker.audience = none) :
    let ready := (l.worker.drain l.queue.tasks).2
    if t.mode = l.worker.mode then
      (l.step t).2.running = true ∧ custody (l.step t).1 = t.custody ∧
        events (l.step t).1 =
          (ready.cursorNews? t).toList.map (.outbound <| .cursorInfo ·) ++
            (ready.pictureNews? t).toList.map (.outbound <| .encodedFrame ·)
    else (l.step t).2.running = false ∧ events (l.step t).1 = farewell t.mode := by
  intro ready
  have took := turn_of_stays l.queue.tasks stays
  rw [step_of_running running]
  dsimp only
  by_cases same : t.mode = l.worker.mode
  · rw [if_pos same] at took ⊢
    obtain ⟨goesOn, kept, told⟩ := took
    rw [if_pos goesOn]
    exact ⟨running, kept, told⟩
  · rw [if_neg same] at took ⊢
    obtain ⟨last, told⟩ := took
    rw [last]
    exact ⟨rfl, told⟩

omit [Encoder ε] in
private theorem told_fresh (w : HostWorker ε) : ({ worker := w } : HostLoop ε).Told w [] :=
  told_of_running rfl (.silent rfl rfl rfl) rfl

omit [Encoder ε] in
/-- No picture is part of a farewell. -/
theorem frames_of_ends {ending : List HostEvent} {audience : Option Nat} {m? : Option DisplayMode}
    (ends : Ends ending audience m?) : frames ending = [] := by
  cases m? with
  | none =>
      rw [show ending = [] from ends]
      rfl
  | some m =>
      apply List.filterMap_eq_nil_iff.mpr
      intro e told
      have among := ends.1.subset told
      simp only [farewell, List.mem_cons, List.not_mem_nil, or_false] at among
      rcases among with rfl | rfl
      · rfl
      · rfl

/-- **The events of a run are a stream of cursors and gapless pictures, then at most one farewell.**
Whatever reaches the loop and whatever the collaborators answer, the first mode that differs from
the negotiated one ends the stream with its proposal and the cause, and nothing follows; the two, or
the second of them, are missing only if the receiver goes. Pictures are numbered from zero without a
gap, have the negotiated size and the selected codec, and are as many as the loop has counted,
unless the last one found nobody to take it. Each captured picture is handed back before the next
capture, once. A loop that was left takes no tasks. The next turn of a loop that runs, with a
receiver that stays, looks for a picture in the negotiated mode, and sends the cursor if that
changed and the picture if it is wanted and the encoder puts something out for it; in any other mode
it sends both parts of the farewell and is the last. -/
theorem events_of_run (p : HostParams) (s : SelectedEncoder ε) (inputs : List HostInput) :
    let taken := (({ worker := p.worker s } : HostLoop ε).follow inputs).1
    let l := (({ worker := p.worker s } : HostLoop ε).follow inputs).2
    (∃ stream ending, sent taken = stream ++ ending ∧ (∀ e ∈ stream, e.Streamed) ∧
      Ends ending l.worker.audience (newMode? p.mode taken)) ∧
    (frames (sent taken)).map (·.pictureId) =
      (List.range (frames (sent taken)).length).map UInt64.ofNat ∧
    (∀ f ∈ frames (sent taken),
      f.width = p.mode.width ∧ f.height = p.mode.height ∧ f.codec = s.ability.codec) ∧
    (l.worker.pictures = (frames (sent taken)).length ∨
      l.worker.audience = some 0 ∧ l.worker.pictures = (frames (sent taken)).length + 1) ∧
    custody (taken.flatMap (·.actions)) = (taken.filter captures).flatMap (·.turn.custody) ∧
    (l.running = false → l.queue = ⟨[], true⟩) ∧
    (l.running = true → ∀ t : Turn, t.audience.or l.worker.audience = none →
      let ready := (l.worker.drain l.queue.tasks).2
      if t.mode = p.mode then
        (l.step t).2.running = true ∧ custody (l.step t).1 = t.custody ∧
          events (l.step t).1 =
            (ready.cursorNews? t).toList.map (.outbound <| .cursorInfo ·) ++
              (ready.pictureNews? t).toList.map (.outbound <| .encodedFrame ·)
      else (l.step t).2.running = false ∧ events (l.step t).1 = farewell t.mode) := by
  intro taken l
  have kept (past : List TakenTurn) (l : HostLoop ε) (i : HostInput)
      (told : l.Told (p.worker s) past) := told.respond i
  have told : l.Told (p.worker s) taken := follow_invariant kept (told_fresh _) inputs
  obtain ⟨stream, ending, split, streams, ends⟩ := told.traces
  have pictures : frames (sent taken) = frames stream := by
    rw [split, frames_append, frames_of_ends ends, List.append_nil]
  rw [pictures]
  refine ⟨⟨stream, ending, split, streams.streamed, ends⟩, ?_, streams.shapes, ?_,
    custody_of_run _ inputs, told.closed, fun running t stays => ?_⟩
  · rw [List.range_eq_range']
    exact streams.numbers
  · have counted := streams.counted
    rw [show (p.worker s).pictures = 0 from rfl, Nat.zero_add] at counted
    exact counted.imp_right And.right
  · have mode : l.worker.mode = p.mode := (told.live running).1.mode
    rw [← mode]
    exact step_of_stays running stays

end HostLoop

end Screencast
