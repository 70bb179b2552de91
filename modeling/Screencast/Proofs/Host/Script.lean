import Screencast.Host.Script
import Screencast.Proofs.Host.Run

/-! # A scripted run is a run

Playing a script takes the turns and passes on the messages that the script names, in that order:
what is recorded in groups is, put together, what the loop did
(`Screencast.HostLoop.play_eq_follow`).
-/

namespace Screencast

open Wire

/-- What a script brings, once the messages before its first turn are in. -/
def ScriptedTurn.inputs : List ScriptedTurn → List HostInput
  | [] => []
  | t :: rest =>
    .turn t.turn :: ((rest.head?.elim [] messages).map .message ++ inputs rest)

/-- The things the loop did, as they stand in a record. -/
def HostRecord.actions (record : List HostRecord) : List HostAction :=
  record.filterMap fun
    | .action a => some a
    | .message .. => none

namespace HostRecord

private theorem actions_append (earlier later : List HostRecord) :
    actions (earlier ++ later) = actions earlier ++ actions later :=
  List.filterMap_append

private theorem actions_map_action (done : List HostAction) :
    actions (done.map .action) = done := by
  unfold actions
  rw [List.filterMap_map]
  exact List.filterMap_some

end HostRecord

namespace HostWorker

variable {ε : Type} [Encoder ε] {w : HostWorker ε}

/-- A turn that another one follows has come to the end of a capture. -/
theorem any_endsGroup_of_look {t : Turn} (goesOn : (w.look t).1 = true) :
    (w.look t).2.1.any HostAction.endsGroup = true := by
  have ends (w : HostWorker ε) : (w.captureFrame t).2.1.any HostAction.endsGroup = true := by
    cases capture : t.capture with
    | none =>
        rw [captureFrame_of_none capture]
        rfl
    | some f =>
        rw [captureFrame_of_some capture, List.any_append, Bool.or_eq_true]
        exact .inr rfl
  by_cases same : t.mode = w.mode
  · rw [look_of_eq same] at goesOn ⊢
    by_cases polled : (w.pollCursor t).1 = true
    · rw [if_pos polled, List.any_append, Bool.or_eq_true]
      exact .inr (ends _)
    · rw [if_neg polled] at goesOn
      exact absurd goesOn polled
  · rw [look_of_ne same] at goesOn
    cases goesOn

end HostWorker

namespace HostLoop

open HostRecord

variable {ε : Type} [Encoder ε] {l : HostLoop ε}

private theorem any_endsGroup_of_turn {t : Turn} (goesOn : (l.turn t).1 = true) :
    (l.turn t).2.1.any HostAction.endsGroup = true := by
  unfold turn at goesOn ⊢
  cases running : l.running with
  | false =>
      rw [running] at goesOn
      cases goesOn
  | true =>
      rw [running] at goesOn
      rw [if_pos rfl] at goesOn ⊢
      change (l.worker.turn l.queue.tasks t).2.1.any _ = true
      rw [HostWorker.turn_eq, List.any_append, Bool.or_eq_true]
      exact .inr (HostWorker.any_endsGroup_of_look goesOn)

omit [Encoder ε] in
private theorem exists_receive_eq (l : HostLoop ε) (ms : List Message) :
    ∃ queue, (l.receive ms).2 = { l with queue } := by
  induction ms generalizing l with
  | nil => exact ⟨l.queue, rfl⟩
  | cons m ms ih => exact ih { l with queue := (l.queue.handle m).2 }

omit [Encoder ε] in
private theorem actions_receive (l : HostLoop ε) (ms : List Message) :
    actions (l.receive ms).1 = [] := by
  induction ms generalizing l with
  | nil => rfl
  | cons m ms ih => exact ih { l with queue := (l.queue.handle m).2 }

omit [Encoder ε] in
private theorem running_receive (l : HostLoop ε) (ms : List Message) :
    (l.receive ms).2.running = l.running := by
  obtain ⟨queue, received⟩ := l.exists_receive_eq ms
  rw [received]

/-- Messages between two turns only fill the queue. -/
theorem follow_messages (l : HostLoop ε) (ms : List Message) (inputs : List HostInput) :
    l.follow (ms.map .message ++ inputs) = (l.receive ms).2.follow inputs := by
  induction ms generalizing l with
  | nil => rfl
  | cons m ms ih => exact ih { l with queue := (l.queue.handle m).2 }

private theorem running_turn (l : HostLoop ε) (t : Turn) : (l.turn t).2.2.running = l.running := by
  unfold turn
  by_cases running : l.running = true
  · rw [if_pos running]
  · rw [if_neg running]

/-- A step is a turn, and leaving the loop when the turn was the last. -/
theorem step_eq (l : HostLoop ε) (t : Turn) :
    l.step t = ((l.turn t).2.1, if (l.turn t).1 then (l.turn t).2.2 else (l.turn t).2.2.leave) :=
  rfl

/-- As long as another turn follows, a group of the record ends and the next one begins. -/
theorem play_of_goesOn {t : ScriptedTurn} (goesOn : (l.turn t.turn).1 = true)
    (group : List HostRecord) (rest : List ScriptedTurn) :
    l.play group (t :: rest) =
      let got := (l.turn t.turn).2.2.receive (rest.head?.elim [] ScriptedTurn.messages)
      let later := got.2.play got.1 rest
      ((group ++ (l.turn t.turn).2.1.map .action) :: later.1, later.2) := by
  simp only [play, any_endsGroup_of_turn goesOn, goesOn, if_true]

/-- After the turn that ends the loop, the rest of a script is not played. -/
theorem play_of_last {t : ScriptedTurn} (last : (l.turn t.turn).1 = false)
    (group : List HostRecord) (rest : List ScriptedTurn) :
    actions (l.play group (t :: rest)).1.flatten = actions group ++ (l.turn t.turn).2.1 ∧
      (l.play group (t :: rest)).2 = (l.turn t.turn).2.2.leave := by
  obtain ⟨queue, received⟩ := (l.turn t.turn).2.2.exists_receive_eq
    (rest.head?.elim [] ScriptedTurn.messages)
  by_cases ended : (l.turn t.turn).2.1.any HostAction.endsGroup = true
  · simp only [play, ended, last, if_true, Bool.false_eq_true, if_false, received,
      List.flatten_cons, List.flatten_nil, List.append_nil, actions_append, actions_map_action,
      actions_receive, true_and]
    rfl
  · simp only [play, ended, last, Bool.false_eq_true, if_false, List.flatten_cons,
      List.flatten_nil, List.append_nil, actions_append, actions_map_action, true_and]

/-- A script that is played has the loop do what it does for the script's inputs. -/
theorem play_eq_follow (running : l.running = true) (group : List HostRecord)
    (script : List ScriptedTurn) :
    actions (l.play group script).1.flatten =
        actions group ++ (l.follow (ScriptedTurn.inputs script)).1.flatMap (·.actions) ∧
      (l.play group script).2 = (l.follow (ScriptedTurn.inputs script)).2 := by
  induction script generalizing l group with
  | nil =>
      refine ⟨?_, rfl⟩
      change actions [group].flatten = _
      rw [List.flatten_singleton]
      exact (List.append_nil _).symm
  | cons t rest ih =>
      rw [ScriptedTurn.inputs, follow_cons, respond_turn_of_running running, Option.toList_some,
        List.flatMap_append, List.flatMap_singleton, step_eq]
      cases goesOn : (l.turn t.turn).1 with
      | true =>
          rw [play_of_goesOn goesOn, if_pos rfl, follow_messages, List.flatten_cons,
            actions_append, actions_append, actions_map_action]
          have runs := ((l.turn t.turn).2.2.running_receive
            (rest.head?.elim [] ScriptedTurn.messages)).trans
              ((l.running_turn t.turn).trans running)
          obtain ⟨did, after⟩ := ih runs ((l.turn t.turn).2.2.receive
            (rest.head?.elim [] ScriptedTurn.messages)).1
          rw [actions_receive, List.nil_append] at did
          rw [did, after, List.append_assoc]
          exact ⟨rfl, rfl⟩
      | false =>
          obtain ⟨did, after⟩ := play_of_last goesOn group rest
          rw [did, after, if_neg Bool.false_ne_true, follow_leave, List.flatMap_nil,
            List.append_nil]
          exact ⟨rfl, rfl⟩

end HostLoop

end Screencast
