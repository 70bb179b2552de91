import Screencast.Host.Worker

/-! # The parts of a turn

For each part of a turn of the capture loop: what it comes to in each case, what it may do, and what
it leaves alone. Statements about runs are proved from these and need not open the loop.
-/

namespace Screencast

namespace HostAction

/-- Events are read off action by action. -/
@[simp] theorem events_append (earlier later : List HostAction) :
    events (earlier ++ later) = events earlier ++ events later :=
  List.filterMap_append

/-- Actions that send nothing have no events. -/
theorem events_eq_nil {actions : List HostAction} (silent : ∀ a ∈ actions, ∀ e, a ≠ .sent e) :
    events actions = [] := by
  apply List.filterMap_eq_nil_iff.mpr
  intro a did
  cases a with
  | sent e => exact absurd rfl (silent _ did e)
  | _ => rfl

/-- Whether an action is done for a task. -/
def isTask : HostAction → Bool
  | .reconfigured .. | .keyframeRequested => true
  | _ => false

end HostAction

namespace HostWorker

open HostAction

variable {ε : Type} {w : HostWorker ε}

private theorem send_of_gone (gone : w.audience = some 0) (e : HostEvent) :
    w.send e = (false, [], w) := by
  simp only [send, gone]

private theorem send_of_heard (heard : w.audience ≠ some 0) (e : HostEvent) :
    w.send e = (true, [.sent e], { w with audience := w.audience.map (· - 1) }) := by
  cases audience : w.audience with
  | none =>
      simp only [send, audience, Option.map_none]
      rw [← audience]
  | some n =>
      cases n with
      | zero => exact absurd audience heard
      | succ n => simp only [send, audience, Option.map_some, Nat.add_sub_cancel]

/-- A receiver that stays hears everything. -/
theorem send_of_stays (stays : w.audience = none) (e : HostEvent) :
    w.send e = (true, [.sent e], w) := by
  simp only [send, stays]

/-- What is sent has been heard, or the receiver has gone. -/
theorem send_cases (w : HostWorker ε) (e : HostEvent) :
    w.audience = some 0 ∧ w.send e = (false, [], w) ∨
      ∃ audience, w.send e = (true, [.sent e], { w with audience }) := by
  by_cases gone : w.audience = some 0
  · exact .inl ⟨gone, send_of_gone gone e⟩
  · exact .inr ⟨_, send_of_heard gone e⟩

private theorem mem_send {e : HostEvent} {a : HostAction} (did : a ∈ (w.send e).2.1) :
    a = .sent e := by
  rcases w.send_cases e with ⟨-, unheard⟩ | ⟨audience, heard⟩
  · rw [unheard] at did
    cases did
  · rw [heard] at did
    exact List.mem_singleton.mp did

/-- With nobody left to hear it, a new mode is not announced. -/
theorem announce_of_gone {m : DisplayMode} (gone : w.audience = some 0) :
    w.announce m = ([], w) := by
  simp only [announce, send_of_gone gone]

/-- While somebody listens, the new mode is announced, and the end of the stream after it. -/
theorem announce_of_heard (heard : w.audience ≠ some 0) (m : DisplayMode) :
    w.announce m =
      let told := { w with audience := w.audience.map (· - 1) }.send
        (.terminated (.resolutionChanged m.width m.height m.refreshRate))
      (.sent (.outbound (.changeStreamingParams m)) :: told.2.1, told.2.2) := by
  simp only [announce, send_of_heard heard]
  rfl

/-- An announcement consists of sent events. -/
theorem mem_announce {m : DisplayMode} {a : HostAction} (did : a ∈ (w.announce m).1) :
    ∃ e, a = .sent e := by
  by_cases gone : w.audience = some 0
  · rw [announce_of_gone gone] at did
    cases did
  · rw [announce_of_heard gone] at did
    rcases List.mem_cons.mp did with proposal | cause
    · exact ⟨_, proposal⟩
    · exact ⟨_, mem_send cause⟩

/-- An announcement uses up the audience and nothing else. -/
theorem exists_announce_eq (w : HostWorker ε) (m : DisplayMode) :
    ∃ audience, (w.announce m).2 = { w with audience } := by
  by_cases gone : w.audience = some 0
  · rw [announce_of_gone gone]
    exact ⟨w.audience, rfl⟩
  · rw [announce_of_heard gone]
    rcases { w with audience := w.audience.map (· - 1) }.send_cases
        (.terminated (.resolutionChanged m.width m.height m.refreshRate)) with
      ⟨-, unheard⟩ | ⟨audience, heard⟩
    · exact ⟨_, by rw [unheard]⟩
    · exact ⟨audience, by rw [heard]⟩

/-- A look for the cursor asks the compositor or the older interface. -/
theorem mem_asked {t : Turn} {a : HostAction} (did : a ∈ t.cursor.1) :
    ∃ found, a = .compositorAsked found ∨ a = .legacyAsked found := by
  unfold Turn.cursor at did
  cases shown : t.compositor with
  | none =>
      rw [shown] at did
      rcases List.mem_cons.mp did with rfl | did
      · exact ⟨false, .inl rfl⟩
      · exact ⟨_, .inr (List.mem_singleton.mp did)⟩
  | some state =>
      rw [shown] at did
      exact ⟨true, .inl (List.mem_singleton.mp did)⟩

/-- What there is to tell of the cursor in a turn: the message that the cache makes of what is
shown. -/
def cursorNews? (w : HostWorker ε) (t : Turn) : Option CursorInfo :=
  t.cursor.2.bind fun state => (w.cursor.update state).1

/-- Without news the cursor is asked for and nothing is told. -/
theorem pollCursor_of_none {t : Turn} (unchanged : w.cursorNews? t = none) :
    ∃ cursor, w.pollCursor t = (true, t.cursor.1, { w with cursor }) := by
  unfold cursorNews? at unchanged
  cases shown : t.cursor.2 with
  | none =>
      refine ⟨w.cursor, ?_⟩
      simp only [pollCursor, shown]
  | some state =>
      rw [shown, Option.bind_some] at unchanged
      rcases updated : w.cursor.update state with ⟨news, cursor⟩
      obtain rfl : news = none := by rw [← unchanged, updated]
      refine ⟨cursor, ?_⟩
      simp only [pollCursor, shown, updated]

/-- News of the cursor are told in one message. -/
theorem pollCursor_of_some {t : Turn} {info : CursorInfo}
    (changed : w.cursorNews? t = some info) :
    ∃ cursor, w.pollCursor t =
      let told := { w with cursor }.send (.outbound (.cursorInfo info))
      (told.1, t.cursor.1 ++ told.2.1, told.2.2) := by
  obtain ⟨state, shown, told⟩ := Option.bind_eq_some_iff.mp changed
  rcases updated : w.cursor.update state with ⟨news, cursor⟩
  obtain rfl : news = some info := by rw [← told, updated]
  refine ⟨cursor, ?_⟩
  simp only [pollCursor, shown, updated]

/-- After the cursor has been asked for, it is told of in one message at most. -/
theorem pollCursor_cases (w : HostWorker ε) (t : Turn) :
    ∃ cursor, w.pollCursor t = (true, t.cursor.1, { w with cursor }) ∨
      ∃ info, w.pollCursor t =
        let told := { w with cursor }.send (.outbound (.cursorInfo info))
        (told.1, t.cursor.1 ++ told.2.1, told.2.2) := by
  cases news : w.cursorNews? t with
  | none =>
      obtain ⟨cursor, polled⟩ := pollCursor_of_none news
      exact ⟨cursor, .inl polled⟩
  | some info =>
      obtain ⟨cursor, polled⟩ := pollCursor_of_some news
      exact ⟨cursor, .inr ⟨info, polled⟩⟩

/-- A poll for the cursor asks for it and may send it. -/
theorem mem_pollCursor {t : Turn} {a : HostAction} (did : a ∈ (w.pollCursor t).2.1) :
    (∃ found, a = .compositorAsked found ∨ a = .legacyAsked found) ∨ ∃ e, a = .sent e := by
  obtain ⟨cursor, polled | ⟨info, polled⟩⟩ := w.pollCursor_cases t
  · rw [polled] at did
    exact .inl (mem_asked did)
  · rw [polled] at did
    rcases List.mem_append.mp did with asked | told
    · exact .inl (mem_asked asked)
    · exact .inr ⟨_, mem_send told⟩

/-- A poll changes the cursor's memory and the audience only. -/
theorem exists_pollCursor_eq (w : HostWorker ε) (t : Turn) :
    ∃ cursor audience, (w.pollCursor t).2.2 = { w with cursor, audience } := by
  obtain ⟨cursor, polled | ⟨info, polled⟩⟩ := w.pollCursor_cases t
  · exact ⟨cursor, w.audience, by rw [polled]⟩
  · rcases { w with cursor }.send_cases (.outbound (.cursorInfo info)) with
      ⟨-, unheard⟩ | ⟨audience, heard⟩
    · exact ⟨cursor, w.audience, by rw [polled, unheard]⟩
    · exact ⟨cursor, audience, by rw [polled, heard]⟩

variable [Encoder ε]

/-- A task without a patch only sets the rates. -/
theorem perform_of_none {task : HostTask} (unchanged : (plan w.rates task).1 = none) :
    w.perform task = ([], { w with rates := (plan w.rates task).2 }) := by
  simp only [perform, unchanged]

/-- A patch goes to the encoder and the throttle, accepted or not. -/
theorem perform_of_some {task : HostTask} {patch : RatePatch}
    (changed : (plan w.rates task).1 = some patch) :
    w.perform task =
      ([.reconfigured patch (Encoder.reconfigure w.encoder patch).1],
        ({ w with rates := (plan w.rates task).2 }.apply patch).2) := by
  simp only [perform, changed]
  rfl

/-- The first task is obeyed before the others. -/
theorem performAll_cons (w : HostWorker ε) (task : HostTask) (tasks : List HostTask) :
    w.performAll (task :: tasks) =
      ((w.perform task).1 ++ ((w.perform task).2.performAll tasks).1,
        ((w.perform task).2.performAll tasks).2) := rfl

/-- Two lists of tasks are obeyed one after the other. -/
theorem performAll_append (w : HostWorker ε) (tasks later : List HostTask) :
    w.performAll (tasks ++ later) =
      ((w.performAll tasks).1 ++ ((w.performAll tasks).2.performAll later).1,
        ((w.performAll tasks).2.performAll later).2) := by
  induction tasks generalizing w with
  | nil => rfl
  | cons task tasks ih =>
      rw [List.cons_append, performAll_cons, performAll_cons, ih, List.append_assoc]

/-- Requests for a keyframe are nothing to be performed. -/
theorem performAll_requests_aside (w : HostWorker ε) (tasks : List HostTask) :
    w.performAll (tasks.filter (· ≠ .requestKeyframe)) = w.performAll tasks := by
  induction tasks generalizing w with
  | nil => rfl
  | cons task tasks ih =>
      by_cases request : task = .requestKeyframe
      · subst request
        rw [List.filter_cons_of_neg (by decide), ih, performAll_cons]
        rfl
      · rw [List.filter_cons_of_pos (by simpa using request), performAll_cons, ih,
          ← performAll_cons]

/-- Tasks touch rates and the encoder only. -/
theorem exists_performAll_eq (w : HostWorker ε) (tasks : List HostTask) :
    ∃ encoder throttle rates, (w.performAll tasks).2 = { w with encoder, throttle, rates } := by
  induction tasks generalizing w with
  | nil => exact ⟨w.encoder, w.throttle, w.rates, rfl⟩
  | cons task tasks ih =>
      rw [performAll_cons]
      obtain ⟨encoder, throttle, rates, later⟩ := ih (w.perform task).2
      refine ⟨encoder, throttle, rates, ?_⟩
      rw [later]
      cases planned : (plan w.rates task).1 with
      | none => rw [perform_of_none planned]
      | some patch =>
          rw [perform_of_some planned]
          rfl

/-- With a keyframe request among the tasks, the restart comes after all of them, once. -/
theorem drain_of_mem {tasks : List HostTask} (asked : .requestKeyframe ∈ tasks) :
    w.drain tasks =
      ((w.performAll tasks).1 ++ [.keyframeRequested], (w.performAll tasks).2.restart) := by
  simp only [drain, List.contains_iff_mem, if_pos asked]

/-- Without a request for a keyframe, a batch is its tasks one after the other. -/
theorem drain_of_not_mem {tasks : List HostTask} (unasked : .requestKeyframe ∉ tasks) :
    w.drain tasks = w.performAll tasks := by
  simp only [drain, List.contains_iff_mem, if_neg unasked]

/-- Obeying tasks changes the encoder, the throttle, the rates and the cursor's memory only. -/
theorem exists_drain_eq (w : HostWorker ε) (tasks : List HostTask) :
    ∃ encoder throttle rates cursor,
      (w.drain tasks).2 = { w with encoder, throttle, rates, cursor } := by
  obtain ⟨encoder, throttle, rates, performed⟩ := w.exists_performAll_eq tasks
  by_cases asked : .requestKeyframe ∈ tasks
  · rw [drain_of_mem asked, performed]
    exact ⟨Encoder.requestKeyframe encoder, throttle, rates, w.cursor.invalidate, rfl⟩
  · rw [drain_of_not_mem asked, performed]
    exact ⟨encoder, throttle, rates, w.cursor, rfl⟩

/-- Obeying tasks shows in patches handed to the encoder only. -/
theorem mem_performAll {tasks : List HostTask} {a : HostAction}
    (did : a ∈ (w.performAll tasks).1) : ∃ patch accepted, a = .reconfigured patch accepted := by
  induction tasks generalizing w with
  | nil => cases did
  | cons task tasks ih =>
      rw [performAll_cons] at did
      rcases List.mem_append.mp did with now | later
      · cases planned : (plan w.rates task).1 with
        | none =>
            rw [perform_of_none planned] at now
            cases now
        | some patch =>
            rw [perform_of_some planned] at now
            exact ⟨_, _, List.mem_singleton.mp now⟩
      · exact ih later

/-- A batch of tasks shows in patches handed to the encoder and in a request for a keyframe. -/
theorem mem_drain {tasks : List HostTask} {a : HostAction} (did : a ∈ (w.drain tasks).1) :
    (∃ patch accepted, a = .reconfigured patch accepted) ∨ a = .keyframeRequested := by
  by_cases asked : .requestKeyframe ∈ tasks
  · rw [drain_of_mem asked] at did
    rcases List.mem_append.mp did with performed | request
    · exact .inl (mem_performAll performed)
    · exact .inr (List.mem_singleton.mp request)
  · rw [drain_of_not_mem asked] at did
    exact .inl (mem_performAll did)

/-- Without output the encoder alone has changed. -/
theorem encodeFrame_of_none {f : CapturedFrame} (left : (Encoder.encode w.encoder f).1 = none)
    (t : Turn) : w.encodeFrame t f =
      (true, [.encoded f.timestamp], { w with encoder := (Encoder.encode w.encoder f).2 }) := by
  simp only [encodeFrame, left]

/-- A picture that comes out of the encoder is numbered and sent. -/
theorem encodeFrame_of_some {f : CapturedFrame} {out : EncodedOutput}
    (output : (Encoder.encode w.encoder f).1 = some out) (t : Turn) :
    w.encodeFrame t f =
      let sent := { w with
        encoder := (Encoder.encode w.encoder f).2, pictures := w.pictures + 1 }.send
          (.outbound (.encodedFrame (w.frame t f out)))
      (sent.1, .encoded f.timestamp :: sent.2.1, sent.2.2) := by
  simp only [encodeFrame, output]
  rfl

private theorem mem_encodeFrame {t : Turn} {f : CapturedFrame} {a : HostAction}
    (did : a ∈ (w.encodeFrame t f).2.1) : a = .encoded f.timestamp ∨ ∃ e, a = .sent e := by
  cases output : (Encoder.encode w.encoder f).1 with
  | none =>
      rw [encodeFrame_of_none output] at did
      exact .inl (List.mem_singleton.mp did)
  | some out =>
      rw [encodeFrame_of_some output] at did
      rcases List.mem_cons.mp did with encoded | told
      · exact .inl encoded
      · exact .inr ⟨_, mem_send told⟩

/-- Encoding changes the encoder, the count of pictures and the audience only. -/
theorem exists_encodeFrame_eq (w : HostWorker ε) (t : Turn) (f : CapturedFrame) :
    ∃ pictures audience, (w.encodeFrame t f).2.2 =
      { w with encoder := (Encoder.encode w.encoder f).2, pictures, audience } := by
  cases output : (Encoder.encode w.encoder f).1 with
  | none =>
      rw [encodeFrame_of_none output]
      exact ⟨w.pictures, w.audience, rfl⟩
  | some out =>
      rw [encodeFrame_of_some output]
      rcases { w with
        encoder := (Encoder.encode w.encoder f).2, pictures := w.pictures + 1 }.send_cases
        (.outbound (.encodedFrame (w.frame t f out))) with ⟨-, unheard⟩ | ⟨audience, heard⟩
      · exact ⟨w.pictures + 1, w.audience, by rw [unheard]⟩
      · exact ⟨w.pictures + 1, audience, by rw [heard]⟩

/-- Whether a capture is to be encoded: it has the negotiated size, and the throttle wants it. -/
def Wants (w : HostWorker ε) (f : CapturedFrame) : Prop :=
  f.width = w.mode.width ∧ f.height = w.mode.height ∧ (w.throttle.offer f.timestamp.toNat).1 = true

instance (w : HostWorker ε) (f : CapturedFrame) : Decidable (w.Wants f) :=
  inferInstanceAs (Decidable (_ ∧ _ ∧ _))

/-- A capture that is wanted is encoded, once the throttle has been asked. -/
theorem handleFrame_of_wants {f : CapturedFrame} (wants : w.Wants f) (t : Turn) :
    ∃ throttle, w.handleFrame t f = { w with throttle }.encodeFrame t f := by
  obtain ⟨width, height, wanted⟩ := wants
  refine ⟨(w.throttle.offer f.timestamp.toNat).2, ?_⟩
  simp only [handleFrame, if_pos (And.intro width height), wanted, if_true]

/-- A capture that is not wanted is left alone. -/
theorem handleFrame_of_not_wants {f : CapturedFrame} (unwanted : ¬w.Wants f) (t : Turn) :
    ∃ throttle, w.handleFrame t f = (true, [], { w with throttle }) := by
  by_cases fits : f.width = w.mode.width ∧ f.height = w.mode.height
  · have refused : (w.throttle.offer f.timestamp.toNat).1 = false :=
      Bool.eq_false_iff.mpr fun wanted => unwanted ⟨fits.1, fits.2, wanted⟩
    refine ⟨(w.throttle.offer f.timestamp.toNat).2, ?_⟩
    simp only [handleFrame, if_pos fits, refused, Bool.false_eq_true, if_false]
  · refine ⟨w.throttle, ?_⟩
    simp only [handleFrame, if_neg fits]

/-- A capture is encoded, or left alone because of its size or the throttle. -/
theorem handleFrame_cases (w : HostWorker ε) (t : Turn) (f : CapturedFrame) :
    ∃ throttle, w.handleFrame t f = (true, [], { w with throttle }) ∨
      f.width = w.mode.width ∧ f.height = w.mode.height ∧
        w.handleFrame t f = { w with throttle }.encodeFrame t f := by
  by_cases wants : w.Wants f
  · obtain ⟨throttle, encoded⟩ := handleFrame_of_wants wants t
    exact ⟨throttle, .inr ⟨wants.1, wants.2.1, encoded⟩⟩
  · obtain ⟨throttle, left⟩ := handleFrame_of_not_wants wants t
    exact ⟨throttle, .inl left⟩

/-- A captured frame shows as an encoded one and an event sent, if at all. -/
theorem mem_handleFrame {t : Turn} {f : CapturedFrame} {a : HostAction}
    (did : a ∈ (w.handleFrame t f).2.1) : a = .encoded f.timestamp ∨ ∃ e, a = .sent e := by
  obtain ⟨throttle, handled | ⟨-, -, handled⟩⟩ := w.handleFrame_cases t f
  · rw [handled] at did
    cases did
  · rw [handled] at did
    exact mem_encodeFrame did

/-- An encoder either is left alone by a part of a turn or has encoded a picture. -/
def Encodes (e e' : ε) : Prop := e' = e ∨ ∃ f, e' = (Encoder.encode e f).2

/-- A captured frame reaches the throttle, the encoder, the count and the audience only. -/
theorem exists_handleFrame_eq (w : HostWorker ε) (t : Turn) (f : CapturedFrame) :
    ∃ encoder throttle pictures audience, Encodes w.encoder encoder ∧
      (w.handleFrame t f).2.2 = { w with encoder, throttle, pictures, audience } := by
  obtain ⟨throttle, handled | ⟨-, -, handled⟩⟩ := w.handleFrame_cases t f
  · exact ⟨w.encoder, throttle, w.pictures, w.audience, .inl rfl, by rw [handled]⟩
  · obtain ⟨pictures, audience, encoded⟩ := { w with throttle }.exists_encodeFrame_eq t f
    exact ⟨_, throttle, pictures, audience, .inr ⟨f, rfl⟩, by rw [handled, encoded]⟩

/-- A missed capture is reported and changes nothing. -/
theorem captureFrame_of_none {t : Turn} (missed : t.capture = none) :
    w.captureFrame t = (true, [.captured false], w) := by
  simp only [captureFrame, missed]

/-- A captured frame is handed on, and its size decides what becomes of it. -/
theorem captureFrame_of_some {t : Turn} {f : CapturedFrame} (taken : t.capture = some f) :
    w.captureFrame t =
      let handled := w.handleFrame t f
      (handled.1, .captured true :: handled.2.1 ++ [.handedBack f.timestamp], handled.2.2) := by
  simp only [captureFrame, taken]

/-- A capture, taken or missed, changes no more than a frame handed on does. -/
theorem exists_captureFrame_eq (w : HostWorker ε) (t : Turn) :
    ∃ encoder throttle pictures audience, Encodes w.encoder encoder ∧
      (w.captureFrame t).2.2 = { w with encoder, throttle, pictures, audience } := by
  cases capture : t.capture with
  | none =>
      rw [captureFrame_of_none capture]
      exact ⟨w.encoder, w.throttle, w.pictures, w.audience, .inl rfl, rfl⟩
  | some f =>
      rw [captureFrame_of_some capture]
      exact w.exists_handleFrame_eq t f

private theorem captureFrame_not_task {t : Turn} {a : HostAction}
    (did : a ∈ (w.captureFrame t).2.1) :
    a.isTask = false := by
  cases capture : t.capture with
  | none =>
      rw [captureFrame_of_none capture] at did
      rw [List.mem_singleton.mp did]
      rfl
  | some f =>
      rw [captureFrame_of_some capture] at did
      rcases List.mem_append.mp did with handled | back
      · rcases List.mem_cons.mp handled with rfl | handled
        · rfl
        · rcases mem_handleFrame handled with rfl | ⟨e, rfl⟩
          · rfl
          · rfl
      · rw [List.mem_singleton.mp back]
        rfl

/-- In a mode other than its own the worker announces it and ends. -/
theorem look_of_ne {t : Turn} (changed : t.mode ≠ w.mode) :
    w.look t = (false, (w.announce t.mode).1, (w.announce t.mode).2) := by
  simp only [look, if_neg changed]

/-- In its own mode the worker polls the cursor and then captures. -/
theorem look_of_eq {t : Turn} (same : t.mode = w.mode) :
    w.look t =
      if (w.pollCursor t).1 then
        let captured := (w.pollCursor t).2.2.captureFrame t
        (captured.1, (w.pollCursor t).2.1 ++ captured.2.1, captured.2.2)
      else w.pollCursor t := by
  simp only [look, if_pos same]
  rcases polled : w.pollCursor t with ⟨goesOn, done, after⟩
  cases goesOn with
  | true => rfl
  | false => rfl

/-- Nothing is done for a task once all tasks are done. -/
theorem look_not_task {t : Turn} {a : HostAction} (did : a ∈ (w.look t).2.1) :
    a.isTask = false := by
  have polled {a : HostAction} (did : a ∈ (w.pollCursor t).2.1) : a.isTask = false := by
    rcases mem_pollCursor did with ⟨found, rfl | rfl⟩ | ⟨e, rfl⟩
    · rfl
    · rfl
    · rfl
  by_cases same : t.mode = w.mode
  · rw [look_of_eq same] at did
    by_cases goesOn : (w.pollCursor t).1 = true
    · rw [if_pos goesOn] at did
      rcases List.mem_append.mp did with asked | captured
      · exact polled asked
      · exact captureFrame_not_task captured
    · rw [if_neg goesOn] at did
      exact polled did
  · rw [look_of_ne same] at did
    obtain ⟨e, rfl⟩ := mem_announce did
    rfl

/-- What follows the tasks in a turn leaves the rates alone, and has the encoder encode at most. -/
theorem exists_look_eq (w : HostWorker ε) (t : Turn) :
    ∃ encoder throttle cursor pictures audience, Encodes w.encoder encoder ∧
      (w.look t).2.2 = { w with encoder, throttle, cursor, pictures, audience } := by
  by_cases same : t.mode = w.mode
  · obtain ⟨cursor, audience, polled⟩ := w.exists_pollCursor_eq t
    rw [look_of_eq same]
    by_cases goesOn : (w.pollCursor t).1 = true
    · rw [if_pos goesOn, polled]
      obtain ⟨encoder, throttle, pictures, audience, encodes, captured⟩ :=
        { w with cursor, audience }.exists_captureFrame_eq t
      exact ⟨encoder, throttle, cursor, pictures, audience, encodes, captured⟩
    · rw [if_neg goesOn, polled]
      exact ⟨w.encoder, w.throttle, cursor, w.pictures, audience, .inl rfl, rfl⟩
  · obtain ⟨audience, announced⟩ := w.exists_announce_eq t.mode
    rw [look_of_ne same, announced]
    exact ⟨w.encoder, w.throttle, w.cursor, w.pictures, audience, .inl rfl, rfl⟩

/-- A turn obeys the tasks and then looks at the display. -/
theorem turn_eq (w : HostWorker ε) (tasks : List HostTask) (t : Turn) :
    w.turn tasks t =
      let looked := ((w.drain tasks).2.heed t).look t
      (looked.1, (w.drain tasks).1 ++ looked.2.1, looked.2.2) := rfl

end HostWorker

end Screencast
