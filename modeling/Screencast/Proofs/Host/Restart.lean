import Screencast.Proofs.Cursor.Update
import Screencast.Proofs.Encoder.Requests
import Screencast.Proofs.Host.EventTrace

/-! # Starting the stream over

A request for a keyframe takes effect at the start of a turn, and is served whenever the next
picture and the next cursor come. Until then it is kept, by the encoder as a duty and by the memory
of cursors as a blank, and none of what may happen to captures in between touches either
(`Screencast.HostLoop.stream_starts_over`).
-/

namespace Screencast

open Wire HostAction HostEvent

/-- The cursors among events. -/
def HostEvent.cursors (events : List HostEvent) : List CursorInfo :=
  events.filterMap fun
    | .outbound (.cursorInfo info) => some info
    | _ => none

private theorem HostEvent.cursors_append (earlier later : List HostEvent) :
    cursors (earlier ++ later) = cursors earlier ++ cursors later :=
  List.filterMap_append

/-- A memory that holds no bitmap and nothing told. -/
structure CursorCache.Blank (c : CursorCache) : Prop where
  numbers : c.numbers = []
  last : c.last = none

namespace CursorCache

private theorem blank_invalidate (c : CursorCache) : c.invalidate.Blank := ⟨rfl, rfl⟩

/-- A blank memory tells of a bitmap in full. -/
theorem Blank.update {c : CursorCache} (blank : c.Blank) {s : CursorState} {bitmap : CursorBitmap}
    (image : s.image = .bitmap bitmap) :
    (c.update s).1 = some ⟨s.x, s.y, s.visible, .bitmap bitmap c.next⟩ := by
  have described : c.describe s.image =
      (.numbered c.next, .bitmap bitmap c.next, c.remember bitmap) := by
    rw [image]
    simp only [describe, blank.numbers, List.lookup_nil]
  have untold : (c.remember bitmap).last ≠ some (s.x, s.y, s.visible, .numbered c.next) := by
    change c.last ≠ _
    rw [blank.last]
    intro told
    cases told
  rw [update_of_describe described, if_neg untold]

end CursorCache

/-- Requests for a keyframe that are queued stay queued. -/
theorem TaskQueue.mem_handle {q : TaskQueue} {task : HostTask} (queued : task ∈ q.tasks)
    (m : Message) : task ∈ (q.handle m).2.tasks := by
  unfold handle
  cases HostTask.ofMessage? m with
  | none => exact queued
  | some new =>
      change task ∈ (q.push new).tasks
      unfold push
      by_cases closed : q.closed = true
      · rw [if_pos closed]
        exact queued
      · rw [if_neg closed]
        exact List.mem_append_left _ queued

namespace HostWorker

variable {ε : Type} {w : HostWorker ε}

private theorem cursors_asked (t : Turn) : cursors (events t.cursor.1) = [] := by
  rw [events_asked]
  rfl

/-- What does not see an event sees nothing of sending it. -/
theorem filterMap_send {α : Type} (w : HostWorker ε) {e : HostEvent} (view : HostEvent → Option α)
    (unseen : view e = none) : (events (w.send e).2.1).filterMap view = [] := by
  rcases w.send_cases e with ⟨-, unheard⟩ | ⟨audience, heard⟩
  · rw [unheard]
    rfl
  · rw [heard]
    exact List.filterMap_cons_none unseen

variable [Encoder ε] {pending : ε → Prop}

private theorem perform_pending (keeps : Encoder.KeepsRequests pending) (due : pending w.encoder)
    (task : HostTask) : pending (w.perform task).2.encoder := by
  cases planned : (plan w.rates task).1 with
  | none =>
      rw [perform_of_none planned]
      exact due
  | some patch =>
      rw [perform_of_some planned]
      exact keeps.reconfigured w.encoder patch due

private theorem performAll_pending (keeps : Encoder.KeepsRequests pending) (due : pending w.encoder)
    (tasks : List HostTask) : pending (w.performAll tasks).2.encoder := by
  induction tasks generalizing w with
  | nil => exact due
  | cons task tasks ih =>
      rw [performAll_cons]
      exact ih (perform_pending keeps due task)

/-- Once the tasks of a turn are done, a request is pending that was before or is among them. -/
theorem drain_pending (keeps : Encoder.KeepsRequests pending) {tasks : List HostTask}
    (due : pending w.encoder ∨ .requestKeyframe ∈ tasks) :
    pending (w.drain tasks).2.encoder := by
  by_cases asked : .requestKeyframe ∈ tasks
  · rw [drain_of_mem asked]
    exact keeps.requested _
  · rw [drain_of_not_mem asked]
    exact performAll_pending keeps (due.resolve_right asked) tasks

/-- Tasks leave a blank memory blank, and a request for a keyframe among them makes it so. -/
theorem drain_blank {tasks : List HostTask}
    (due : w.cursor.Blank ∨ .requestKeyframe ∈ tasks) : (w.drain tasks).2.cursor.Blank := by
  obtain ⟨encoder, throttle, rates, performed⟩ := w.exists_performAll_eq tasks
  by_cases asked : .requestKeyframe ∈ tasks
  · rw [drain_of_mem asked]
    exact CursorCache.blank_invalidate _
  · rw [drain_of_not_mem asked, performed]
    exact due.resolve_right asked

/-- Any number of requests among tasks act as one. -/
theorem drain_requests_as_one (w : HostWorker ε) {tasks : List HostTask}
    (asked : .requestKeyframe ∈ tasks) :
    w.drain tasks = w.drain (.requestKeyframe :: tasks.filter (· ≠ .requestKeyframe)) := by
  rw [drain_of_mem asked, drain_of_mem List.mem_cons_self, performAll_cons,
    performAll_requests_aside]
  rfl

/-- Of what was sent, the first picture is a keyframe; if there was none and the loop goes on, a
request is still pending. -/
structure Serves (pending : ε → Prop) (goesOn : Bool) (sent : List HostEvent)
    (w : HostWorker ε) : Prop where
  first : ∀ f, (frames sent).head? = some f → f.isKeyframe = true
  pending : goesOn = true → frames sent = [] → pending w.encoder

omit [Encoder ε] in
private theorem serves_silent {goesOn : Bool} {sent : List HostEvent} (silent : frames sent = [])
    (due : goesOn = true → pending w.encoder) : Serves pending goesOn sent w where
  first := by
    intro f head
    rw [silent] at head
    cases head
  pending := fun on _ => due on

private theorem encodeFrame_serves (keeps : Encoder.KeepsRequests pending) (due : pending w.encoder)
    (t : Turn) (f : CapturedFrame) :
    Serves pending (w.encodeFrame t f).1 (events (w.encodeFrame t f).2.1)
      (w.encodeFrame t f).2.2 := by
  cases output : (Encoder.encode w.encoder f).1 with
  | none =>
      rw [encodeFrame_of_none output]
      exact serves_silent rfl fun _ => keeps.withheld w.encoder f due output
  | some out =>
      rw [encodeFrame_of_some output]
      rcases send_cases { w with
        encoder := (Encoder.encode w.encoder f).2, pictures := w.pictures + 1 }
        (.outbound (.encodedFrame (w.frame t f out))) with ⟨-, unheard⟩ | ⟨audience, heard⟩
      · rw [unheard]
        exact serves_silent rfl fun on => nomatch on
      · rw [heard]
        exact {
          first := by
            intro g head
            obtain rfl : w.frame t f out = g := Option.some.inj head
            exact keeps.output w.encoder f out due output
          pending := fun _ none => nomatch none }

private theorem handleFrame_serves (keeps : Encoder.KeepsRequests pending) (due : pending w.encoder)
    (t : Turn) (f : CapturedFrame) :
    Serves pending (w.handleFrame t f).1 (events (w.handleFrame t f).2.1)
      (w.handleFrame t f).2.2 := by
  obtain ⟨throttle, handled | ⟨-, -, handled⟩⟩ := w.handleFrame_cases t f
  · rw [handled]
    exact serves_silent rfl fun _ => due
  · rw [handled]
    exact encodeFrame_serves (w := { w with throttle }) keeps due t f

private theorem captureFrame_serves (keeps : Encoder.KeepsRequests pending)
    (due : pending w.encoder)
    (t : Turn) :
    Serves pending (w.captureFrame t).1 (events (w.captureFrame t).2.1)
      (w.captureFrame t).2.2 := by
  cases capture : t.capture with
  | none =>
      rw [captureFrame_of_none capture]
      exact serves_silent rfl fun _ => due
  | some f =>
      rw [events_captureFrame capture, captureFrame_of_some capture]
      exact handleFrame_serves keeps due t f

omit [Encoder ε] in
private theorem frames_pollCursor (w : HostWorker ε) (t : Turn) :
    frames (events (w.pollCursor t).2.1) = [] := by
  obtain ⟨cursor, polled | ⟨info, polled⟩⟩ := w.pollCursor_cases t
  · rw [polled, events_asked]
    rfl
  · rw [polled, events_append, events_asked, List.nil_append]
    exact filterMap_send _ _ rfl

omit [Encoder ε] in
private theorem frames_announce (w : HostWorker ε) (m : DisplayMode) :
    frames (events (w.announce m).1) = [] := by
  obtain ⟨audience, -, told, complete⟩ := w.announce_farewell m
  exact @HostLoop.frames_of_ends _ audience (some m) ⟨told, complete⟩

private theorem look_serves (keeps : Encoder.KeepsRequests pending) (due : pending w.encoder)
    (t : Turn) :
    Serves pending (w.look t).1 (events (w.look t).2.1) (w.look t).2.2 := by
  by_cases same : t.mode = w.mode
  · obtain ⟨cursor, audience, polled⟩ := w.exists_pollCursor_eq t
    rw [look_of_eq same]
    by_cases goesOn : (w.pollCursor t).1 = true
    · rw [if_pos goesOn]
      have captured := captureFrame_serves (w := (w.pollCursor t).2.2) keeps
        (polled ▸ due) t
      have sent : frames (events ((w.pollCursor t).2.1 ++
          ((w.pollCursor t).2.2.captureFrame t).2.1)) =
            frames (events ((w.pollCursor t).2.2.captureFrame t).2.1) := by
        rw [events_append, frames_append, frames_pollCursor, List.nil_append]
      exact ⟨sent ▸ captured.first, fun on none => captured.pending on (sent ▸ none)⟩
    · rw [if_neg goesOn]
      exact serves_silent (w.frames_pollCursor t) fun on => absurd on goesOn
  · rw [look_of_ne same]
    exact serves_silent (w.frames_announce t.mode) fun on => nomatch on

/-- After a request for a keyframe, the first picture a turn sends is one; a turn without a picture
leaves the request pending. -/
theorem turn_serves (keeps : Encoder.KeepsRequests pending) {tasks : List HostTask}
    (due : pending w.encoder ∨ .requestKeyframe ∈ tasks) (t : Turn) :
    Serves pending (w.turn tasks t).1 (events (w.turn tasks t).2.1) (w.turn tasks t).2.2 := by
  rw [turn_eq, events_append, events_drain, List.nil_append]
  exact look_serves keeps (w := (w.drain tasks).2.heed t) (drain_pending keeps due) t

private theorem cursors_encodeFrame (w : HostWorker ε) (t : Turn) (f : CapturedFrame) :
    cursors (events (w.encodeFrame t f).2.1) = [] := by
  cases output : (Encoder.encode w.encoder f).1 with
  | none =>
      rw [encodeFrame_of_none output]
      rfl
  | some out =>
      rw [encodeFrame_of_some output]
      exact filterMap_send _ _ rfl

private theorem cursors_captureFrame (w : HostWorker ε) (t : Turn) :
    cursors (events (w.captureFrame t).2.1) = [] := by
  cases capture : t.capture with
  | none =>
      rw [captureFrame_of_none capture]
      rfl
  | some f =>
      rw [events_captureFrame capture]
      obtain ⟨throttle, handled | ⟨-, -, handled⟩⟩ := w.handleFrame_cases t f
      · rw [handled]
        rfl
      · rw [handled]
        exact cursors_encodeFrame _ t f

/-- A bitmap that a blank memory is shown is told in full, unless nobody is there any more. -/
theorem look_tells (blank : w.cursor.Blank) {t : Turn} (same : t.mode = w.mode) {s : CursorState}
    (shown : t.cursor.2 = some s) {bitmap : CursorBitmap} (image : s.image = .bitmap bitmap) :
    cursors (events (w.look t).2.1) = [⟨s.x, s.y, s.visible, .bitmap bitmap w.cursor.next⟩] ∨
      (w.look t).1 = false ∧ events (w.look t).2.1 = [] ∧ (w.look t).2.2.audience = some 0 := by
  have updated := blank.update image
  have polled : w.pollCursor t =
      let told := { w with cursor := (w.cursor.update s).2 }.send
        (.outbound (.cursorInfo ⟨s.x, s.y, s.visible, .bitmap bitmap w.cursor.next⟩))
      (told.1, t.cursor.1 ++ told.2.1, told.2.2) := by
    rcases update : w.cursor.update s with ⟨told, cursor⟩
    rw [update] at updated
    obtain rfl := updated
    simp only [pollCursor, shown, update]
  rw [look_of_eq same, polled]
  rcases send_cases { w with cursor := (w.cursor.update s).2 }
      (.outbound (.cursorInfo ⟨s.x, s.y, s.visible, .bitmap bitmap w.cursor.next⟩)) with
    ⟨gone, unheard⟩ | ⟨audience, heard⟩
  · right
    rw [unheard]
    refine ⟨rfl, ?_, gone⟩
    change events (t.cursor.1 ++ []) = []
    rw [List.append_nil]
    exact events_asked t
  · left
    rw [heard, if_pos rfl, events_append, events_append, cursors_append, cursors_append,
      cursors_asked, cursors_captureFrame]
    rfl

/-- Where no cursor is shown, a blank memory stays blank. -/
theorem look_blank (blank : w.cursor.Blank) {t : Turn} (same : t.mode = w.mode)
    (unseen : t.cursor.2 = none) : (w.look t).2.2.cursor.Blank := by
  have polled : w.pollCursor t = (true, t.cursor.1, w) := by
    simp only [pollCursor, unseen]
  rw [look_of_eq same, polled, if_pos rfl]
  obtain ⟨encoder, throttle, pictures, audience, -, captured⟩ := w.exists_captureFrame_eq t
  rw [captured]
  exact blank

private theorem mode_ready (w : HostWorker ε) (tasks : List HostTask) (t : Turn) :
    ((w.drain tasks).2.heed t).mode = w.mode := (w.ready_streams tasks t).mode

/-- A turn leaves the worker's mode alone, also when it ends the loop. -/
theorem mode_turn (w : HostWorker ε) (tasks : List HostTask) (t : Turn) :
    (w.turn tasks t).2.2.mode = w.mode := by
  obtain ⟨encoder, throttle, cursor, pictures, audience, -, looked⟩ :=
    ((w.drain tasks).2.heed t).exists_look_eq t
  rw [turn_eq, looked]
  exact w.mode_ready tasks t

/-- With a blank memory, a bitmap on the screen is sent in full, unless nobody is left to hear
it. -/
theorem turn_tells {tasks : List HostTask} (due : w.cursor.Blank ∨ .requestKeyframe ∈ tasks)
    {t : Turn} (same : t.mode = w.mode) {s : CursorState} (shown : t.cursor.2 = some s)
    {bitmap : CursorBitmap} (image : s.image = .bitmap bitmap) :
    (∃ id, cursors (events (w.turn tasks t).2.1) = [⟨s.x, s.y, s.visible, .bitmap bitmap id⟩]) ∨
      (w.turn tasks t).1 = false ∧ events (w.turn tasks t).2.1 = [] ∧
        (w.turn tasks t).2.2.audience = some 0 := by
  rw [turn_eq, events_append, events_drain, List.nil_append]
  have blank : ((w.drain tasks).2.heed t).cursor.Blank := drain_blank due
  rcases look_tells blank (same.trans (w.mode_ready tasks t).symm) shown image with told | gone
  · exact .inl ⟨_, told⟩
  · exact .inr gone

/-- While no cursor is seen, the memory stays blank. -/
theorem turn_blank {tasks : List HostTask} (due : w.cursor.Blank ∨ .requestKeyframe ∈ tasks)
    {t : Turn} (same : t.mode = w.mode) (unseen : t.cursor.2 = none) :
    (w.turn tasks t).2.2.cursor.Blank :=
  look_blank (w := (w.drain tasks).2.heed t) (drain_blank due)
    (same.trans (w.mode_ready tasks t).symm) unseen

end HostWorker

/-- The cursor that a turn looks at; in a new mode it looks at none. -/
def TakenTurn.cursor? (negotiated : DisplayMode) (τ : TakenTurn) : Option CursorState :=
  if τ.turn.mode = negotiated then τ.turn.cursor.2 else none

namespace HostLoop

open HostWorker LosslessEncoder TakenTurn

variable {ε : Type} [Encoder ε] {pending : ε → Prop} {l : HostLoop ε}

/-- In a running loop a request is pending, or among the tasks for the next turn. -/
theorem follow_serves (keeps : Encoder.KeepsRequests pending)
    (due : l.running = true → pending l.worker.encoder ∨ .requestKeyframe ∈ l.queue.tasks)
    (inputs : List HostInput) (f : EncodedFrame)
    (first : (frames (sent (l.follow inputs).1)).head? = some f) : f.isKeyframe = true := by
  induction inputs generalizing l with
  | nil => cases first
  | cons i inputs ih =>
      rw [follow_cons] at first
      cases i with
      | message m =>
          refine ih (fun running => ?_) first
          exact (due running).imp_right fun queued => TaskQueue.mem_handle queued m
      | stop =>
          refine ih (fun running => ?_) first
          cases running
      | turn t =>
          by_cases running : l.running = true
          · have served := turn_serves keeps (due running) t
            rw [respond_turn_of_running running, Option.toList_some, sent_append, sent_singleton,
              frames_append, step_of_running running] at first
            dsimp only at first
            cases sentNow : frames (events (l.worker.turn l.queue.tasks t).2.1) with
            | cons g gs =>
                rw [sentNow] at first
                apply served.first f
                rw [sentNow]
                exact first
            | nil =>
                rw [sentNow, List.nil_append] at first
                refine ih (fun running' => ?_) first
                cases goesOn : (l.worker.turn l.queue.tasks t).1 with
                | true =>
                    rw [goesOn] at running'
                    exact .inl (served.pending goesOn sentNow)
                | false =>
                    rw [goesOn] at running'
                    cases running'
          · rw [respond_turn_of_stopped (Bool.eq_false_iff.mpr running)] at first
            exact ih due first

private theorem worker_respond_turn {t : Turn} (running : l.running = true) :
    (l.respond (.turn t)).2.worker = (l.worker.turn l.queue.tasks t).2.2 := by
  rw [respond_turn_of_running running, step_of_running running]
  dsimp only
  cases (l.worker.turn l.queue.tasks t).1 with
  | true => rfl
  | false => rfl

/-- From any turn taken on, a run is a run of the loop as it was then. -/
theorem exists_follow_eq_of_taken {inputs : List HostInput} {past later : List TakenTurn}
    {τ : TakenTurn} (taken : (l.follow inputs).1 = past ++ τ :: later) :
    ∃ (l' : HostLoop ε) (inputs' : List HostInput), τ.tasks = l'.queue.tasks ∧
      l'.worker.mode = l.worker.mode ∧ l'.follow inputs' = (τ :: later, (l.follow inputs).2) := by
  induction inputs generalizing l past with
  | nil => exact absurd taken.symm (List.append_ne_nil_of_right_ne_nil _ (List.cons_ne_nil _ _))
  | cons i inputs ih =>
      rw [follow_cons] at taken ⊢
      cases i with
      | message m => exact ih taken
      | stop => exact ih taken
      | turn t =>
          by_cases running : l.running = true
          · have took : (l.respond (.turn t)).1.toList =
                [⟨l.queue.tasks, t, (l.step t).1⟩] := by
              rw [respond_turn_of_running running]
              rfl
            cases past with
            | nil =>
                refine ⟨l, .turn t :: inputs, ?_, rfl, ?_⟩
                · rw [took] at taken
                  obtain ⟨rfl, -⟩ := List.cons.inj taken
                  rfl
                · rw [follow_cons]
                  exact Prod.ext taken rfl
            | cons τ₀ past =>
                rw [took] at taken
                obtain ⟨-, later⟩ := List.cons.inj taken
                obtain ⟨l', inputs', tasks, mode, followed⟩ := ih later
                refine ⟨l', inputs', tasks, mode.trans ?_, followed⟩
                rw [worker_respond_turn running]
                exact l.worker.mode_turn l.queue.tasks t
          · rw [respond_turn_of_stopped (Bool.eq_false_iff.mpr running)] at taken ⊢
            exact ih taken

private theorem follow_of_last {t : Turn} (running : l.running = true)
    (last : (l.worker.turn l.queue.tasks t).1 = false) (inputs : List HostInput) :
    (l.respond (.turn t)).2.follow inputs = ([], (l.respond (.turn t)).2) := by
  rw [respond_turn_of_running running, step_of_running running]
  dsimp only
  rw [last]
  exact follow_leave _ inputs

/-- What becomes of the first cursor that is looked at while a memory is blank, or is to be made
so in the next turn. -/
theorem follow_tells
    (due : l.running = true → l.worker.cursor.Blank ∨ .requestKeyframe ∈ l.queue.tasks)
    (inputs : List HostInput) {between rest : List TakenTurn} {τ : TakenTurn} {s : CursorState}
    {bitmap : CursorBitmap} (taken : (l.follow inputs).1 = between ++ τ :: rest)
    (unseen : ∀ τ' ∈ between, τ'.cursor? l.worker.mode = none)
    (seen : τ.cursor? l.worker.mode = some s) (image : s.image = .bitmap bitmap) :
    (∃ id, cursors (events τ.actions) = [⟨s.x, s.y, s.visible, .bitmap bitmap id⟩]) ∨
      rest = [] ∧ events τ.actions = [] ∧ (l.follow inputs).2.worker.audience = some 0 := by
  induction inputs generalizing l between with
  | nil => exact absurd taken.symm (List.append_ne_nil_of_right_ne_nil _ (List.cons_ne_nil _ _))
  | cons i inputs ih =>
      rw [follow_cons] at taken ⊢
      cases i with
      | message m =>
          refine ih (fun running => ?_) taken unseen seen
          exact (due running).imp_right fun queued => TaskQueue.mem_handle queued m
      | stop =>
          refine ih (fun running => ?_) taken unseen seen
          cases running
      | turn t =>
          by_cases running : l.running = true
          · have worker := worker_respond_turn (t := t) running
            have ends (last : (l.worker.turn l.queue.tasks t).1 = false) :=
              follow_of_last running last inputs
            have took : (l.respond (.turn t)).1.toList =
                [⟨l.queue.tasks, t, (l.worker.turn l.queue.tasks t).2.1⟩] := by
              rw [respond_turn_of_running running, step_of_running running]
              rfl
            rw [took] at taken
            cases between with
            | nil =>
                -- The turn in question: the memory is blank when it looks for the cursor.
                obtain ⟨rfl, rfl⟩ := List.cons.inj taken
                obtain ⟨same, shown⟩ : t.mode = l.worker.mode ∧ t.cursor.2 = some s := by
                  unfold TakenTurn.cursor? at seen
                  split at seen
                  next same => exact ⟨same, seen⟩
                  next => cases seen
                rcases turn_tells (due running) same shown image with told | ⟨last, silent, gone⟩
                · exact .inl told
                · right
                  rw [ends last]
                  exact ⟨rfl, silent, worker ▸ gone⟩
            | cons τ₀ between =>
                -- An earlier turn: it saw no cursor and leaves the memory blank, for in another
                -- mode it would have been the last one.
                obtain ⟨rfl, later⟩ := List.cons.inj taken
                have unseenNow := unseen _ List.mem_cons_self
                have unseenLater := fun τ' among => unseen τ' (List.mem_cons_of_mem _ among)
                rw [← l.worker.mode_turn l.queue.tasks t, ← worker] at seen unseenLater
                refine ih (fun running' => ?_) later unseenLater seen
                rw [worker]
                left
                unfold TakenTurn.cursor? at unseenNow
                split at unseenNow
                next same => exact turn_blank (due running) same unseenNow
                next changed =>
                  rw [ends (turn_of_ne l.queue.tasks changed).1] at later
                  exact absurd later.symm
                    (List.append_ne_nil_of_right_ne_nil _ (List.cons_ne_nil _ _))
          · rw [respond_turn_of_stopped (Bool.eq_false_iff.mpr running)] at taken ⊢
            exact ih due taken unseen seen

/-- **A request for a keyframe starts the whole stream over.** Whatever happens in a run from the
turn that finds a request among its tasks, the first picture sent is a keyframe. The first cursor
looked at, if a bitmap, is told in full whether or not it has changed; only if the receiver has gone
by then it is not told, and the loop ends with that turn. Requests among the tasks of one turn act
as one. The compressor may fail on any picture. -/
theorem stream_starts_over (compress? : Nat → Bytes → Option Bytes) (l : HostLoop LosslessEncoder)
    (inputs : List HostInput) {past later : List TakenTurn} {τ : TakenTurn}
    (taken : (@HostLoop.follow _ (packing compress?) l inputs).1 = past ++ τ :: later)
    (asked : .requestKeyframe ∈ τ.tasks) :
    (∀ f, (frames (sent (τ :: later))).head? = some f → f.isKeyframe = true) ∧
    (∀ between τ' rest s bitmap, τ :: later = between ++ τ' :: rest →
      (∀ earlier ∈ between, earlier.cursor? l.worker.mode = none) →
      τ'.cursor? l.worker.mode = some s → s.image = .bitmap bitmap →
      (∃ id, cursors (events τ'.actions) = [⟨s.x, s.y, s.visible, .bitmap bitmap id⟩]) ∨
        rest = [] ∧ events τ'.actions = [] ∧
          (@HostLoop.follow _ (packing compress?) l inputs).2.worker.audience = some 0) ∧
    (∀ w tasks, .requestKeyframe ∈ tasks → @HostWorker.drain _ (packing compress?) w tasks =
      @HostWorker.drain _ (packing compress?) w
        (.requestKeyframe :: tasks.filter (· ≠ .requestKeyframe))) := by
  obtain ⟨l', inputs', tasks, mode, followed⟩ :=
    @exists_follow_eq_of_taken _ (packing compress?) l inputs past later τ taken
  rw [tasks] at asked
  refine ⟨?_, ?_, ?_⟩
  · intro f first
    have served := @follow_serves _ (packing compress?) _ l'
      (keepsRequests_packing compress?) (fun _ => .inr asked) inputs' f
    rw [followed] at served
    exact served first
  · intro between τ' rest s bitmap split unseen seen image
    rw [← mode] at unseen seen
    have told := @follow_tells _ (packing compress?) l' (fun _ => .inr asked) inputs' between rest
      τ' s bitmap (followed ▸ split) unseen seen image
    rw [followed] at told
    exact told
  · intro w tasks asked
    exact @drain_requests_as_one _ (packing compress?) w tasks asked

/-- A screen of one pixel, sent losslessly. -/
def pixelLoop : HostLoop LosslessEncoder :=
  { worker :=
      { encoder := .new ⟨.zstd, 1, 1, 30, 10000000, .none⟩, codec := .zstd,
        mode := ⟨1, 1, 60, .deg0⟩,
        throttle := .new 30 2, rates := .new 10000000 20000000 30 {} } }

/-- A pointer that never changes. -/
def pixelPointer : CursorState := ⟨0, 0, true, .bitmap ⟨1, 1, 0, 0, [1, 2, 3, 4]⟩⟩

/-- Pointer and picture are sent once; then two requests come in with a change of rates, and after
a capture of the wrong size and one that cannot be read both are seen again as they were. -/
def requestedTwice : List HostInput :=
  let pixel (width : UInt32) (pixels : Pixels) : CapturedFrame := ⟨width, 1, .bgra8, pixels, 0⟩
  let seen : Turn :=
    { mode := pixelLoop.worker.mode, compositor := some pixelPointer
      capture := some (pixel 1 (.memory 4 [5, 6, 7, 8])) }
  [.turn seen, .message .requestKeyframe, .message (.reconfigureEncoder ⟨none, none, some 5⟩),
    .message .requestKeyframe,
    .turn { mode := pixelLoop.worker.mode, capture := some (pixel 2 (.memory 8 [])) },
    .turn { mode := pixelLoop.worker.mode, capture := some (pixel 1 (.surface 0)) }, .turn seen]

/-- The next picture is a keyframe, and the pointer is sent in full although it has not changed. -/
theorem requestedTwice_starts_over :
    let run := @HostLoop.follow _ (packing fun _ content => some content) pixelLoop requestedTwice
    ∃ τ₁ τ₂ τ₃ τ₄, run.1 = [τ₁, τ₂, τ₃, τ₄] ∧ .requestKeyframe ∈ τ₂.tasks ∧
      (∃ f, (frames (sent [τ₂, τ₃, τ₄])).head? = some f ∧ f.isKeyframe = true) ∧
      ∃ id, cursors (events τ₄.actions) =
        [⟨0, 0, true, .bitmap ⟨1, 1, 0, 0, [1, 2, 3, 4]⟩ id⟩] := by
  intro run
  refine ⟨run.1.get ⟨0, by decide⟩, run.1.get ⟨1, by decide⟩, run.1.get ⟨2, by decide⟩,
    run.1.get ⟨3, by decide⟩, rfl, by decide, ?_⟩
  have taken : run.1 = [run.1.get ⟨0, by decide⟩] ++ run.1.get ⟨1, by decide⟩ ::
      [run.1.get ⟨2, by decide⟩, run.1.get ⟨3, by decide⟩] := rfl
  obtain ⟨first, told, -⟩ := stream_starts_over (fun _ content => some content) pixelLoop
    requestedTwice taken (by decide)
  refine ⟨⟨_, rfl, first _ rfl⟩, ?_⟩
  rcases told [run.1.get ⟨1, by decide⟩, run.1.get ⟨2, by decide⟩] _ [] pixelPointer _ rfl
    (by decide) rfl rfl with shown | gone
  · exact shown
  · exact absurd gone.2.2 (by decide)

end HostLoop

end Screencast
