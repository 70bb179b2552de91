import Screencast.Proofs.Host.Run

/-! # Who holds a captured picture

A turn waits for a picture once at most. What it gets it gives back before it ends, and so before
anything else is captured (`Screencast.HostLoop.custody_of_run`).
-/

namespace Screencast

/-- Whether an action moves a picture between the capturer and the loop, or tried to. -/
def HostAction.isCustody : HostAction → Bool
  | .captured _ | .handedBack _ => true
  | _ => false

/-- The captures and hand-backs among the things the loop did. -/
def HostAction.custody (actions : List HostAction) : List HostAction := actions.filter isCustody

/-- How a capturer's answer is recorded: what was captured is handed back next. -/
def Turn.custody (t : Turn) : List HostAction :=
  match t.capture with
  | none => [.captured false]
  | some f => [.captured true, .handedBack f.timestamp]

/-- Whether the action is a capture, taken or missed. -/
def HostAction.isCapture : HostAction → Bool
  | .captured _ => true
  | _ => false

/-- Whether the loop got as far as waiting for a picture. -/
def TakenTurn.captures (τ : TakenTurn) : Bool := τ.actions.any HostAction.isCapture

namespace HostAction

/-- Custody is read off action by action. -/
theorem custody_append (earlier later : List HostAction) :
    custody (earlier ++ later) = custody earlier ++ custody later :=
  List.filter_append ..

private theorem custody_eq_nil {actions : List HostAction}
    (elsewhere : ∀ a ∈ actions, a.isCustody = false) : custody actions = [] := by
  apply List.filter_eq_nil_iff.mpr
  intro a did
  rw [elsewhere a did]
  exact Bool.false_ne_true

private theorem any_isCapture_custody (actions : List HostAction) :
    (custody actions).any isCapture = actions.any isCapture := by
  unfold custody
  rw [List.any_filter]
  congr 1
  funext a
  cases a with
  | _ => rfl

end HostAction

namespace HostWorker

open HostAction

variable {ε : Type}

/-- Asking for the cursor hands no frame on. -/
theorem custody_pollCursor (w : HostWorker ε) (t : Turn) :
    custody (w.pollCursor t).2.1 = [] := by
  apply custody_eq_nil
  intro a did
  rcases mem_pollCursor did with ⟨found, rfl | rfl⟩ | ⟨e, rfl⟩
  · rfl
  · rfl
  · rfl

private theorem custody_announce (w : HostWorker ε) (m : DisplayMode) :
    custody (w.announce m).1 = [] := by
  apply custody_eq_nil
  intro a did
  obtain ⟨e, rfl⟩ := mem_announce did
  rfl

variable [Encoder ε]

/-- Obeying the tasks hands no frame on. -/
theorem custody_drain (w : HostWorker ε) (tasks : List HostTask) :
    custody (w.drain tasks).1 = [] := by
  apply custody_eq_nil
  intro a did
  rcases mem_drain did with ⟨patch, accepted, rfl⟩ | rfl
  · rfl
  · rfl

private theorem custody_handleFrame (w : HostWorker ε) (t : Turn) (f : CapturedFrame) :
    custody (w.handleFrame t f).2.1 = [] := by
  apply custody_eq_nil
  intro a did
  rcases mem_handleFrame did with rfl | ⟨e, rfl⟩
  · rfl
  · rfl

/-- A capture is handed on as the turn says, whatever becomes of the frame. -/
theorem custody_captureFrame (w : HostWorker ε) (t : Turn) :
    custody (w.captureFrame t).2.1 = t.custody := by
  unfold Turn.custody
  cases capture : t.capture with
  | none =>
      rw [captureFrame_of_none capture]
      rfl
  | some f =>
      rw [captureFrame_of_some capture]
      change .captured true :: custody ((w.handleFrame t f).2.1 ++ [.handedBack f.timestamp]) = _
      rw [custody_append, custody_handleFrame]
      rfl

/-- A turn either captures nothing or passes on what it captured. -/
theorem custody_turn (w : HostWorker ε) (tasks : List HostTask) (t : Turn) :
    custody (w.turn tasks t).2.1 = [] ∨ custody (w.turn tasks t).2.1 = t.custody := by
  rw [turn_eq, custody_append, custody_drain, List.nil_append]
  generalize (w.drain tasks).2.heed t = ready
  by_cases same : t.mode = ready.mode
  · rw [look_of_eq same]
    by_cases goesOn : (ready.pollCursor t).1 = true
    · rw [if_pos goesOn, custody_append, custody_pollCursor, custody_captureFrame]
      exact .inr rfl
    · rw [if_neg goesOn]
      exact .inl (custody_pollCursor ready t)
  · rw [look_of_ne same]
    exact .inl (custody_announce ready t.mode)

end HostWorker

namespace HostLoop

open HostAction

variable {ε : Type} [Encoder ε] {l : HostLoop ε}

/-- A running loop's step either captures nothing or passes on what it captured. -/
theorem custody_step (running : l.running = true) (t : Turn) :
    custody (l.step t).1 = [] ∨ custody (l.step t).1 = t.custody := by
  rw [step_of_running running]
  exact l.worker.custody_turn l.queue.tasks t

private theorem custody_of_captures {τ : TakenTurn}
    (kept : custody τ.actions = [] ∨ custody τ.actions = τ.turn.custody) :
    custody τ.actions = if τ.captures then τ.turn.custody else [] := by
  have captures : τ.captures = (custody τ.actions).any isCapture :=
    (any_isCapture_custody τ.actions).symm
  rw [captures]
  rcases kept with nothing | answered
  · rw [nothing]
    rfl
  · rw [answered]
    unfold Turn.custody
    cases τ.turn.capture with
    | none => rfl
    | some f => rfl

/-- Each picture is handed back before the next capture, and is handed back once. -/
theorem custody_of_run (l : HostLoop ε) (inputs : List HostInput) :
    custody ((l.follow inputs).1.flatMap (·.actions)) =
      ((l.follow inputs).1.filter TakenTurn.captures).flatMap (·.turn.custody) := by
  have kept : ∀ τ ∈ (l.follow inputs).1,
      custody τ.actions = if τ.captures then τ.turn.custody else [] := by
    intro τ taken
    obtain ⟨l', running, acted⟩ := mem_follow taken
    apply custody_of_captures
    rw [acted]
    exact custody_step running τ.turn
  generalize (l.follow inputs).1 = taken at kept
  induction taken with
  | nil => rfl
  | cons τ taken ih =>
      rw [List.flatMap_cons, custody_append, kept τ List.mem_cons_self,
        ih fun τ' later => kept τ' (List.mem_cons_of_mem τ later)]
      cases captures : τ.captures with
      | true => rw [if_pos rfl, List.filter_cons_of_pos captures, List.flatMap_cons]
      | false =>
          rw [if_neg Bool.false_ne_true, List.filter_cons_of_neg (ne_true_of_eq_false captures),
            List.nil_append]

end HostLoop

end Screencast
