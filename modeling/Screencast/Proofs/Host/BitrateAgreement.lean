import Screencast.Proofs.Encoder.Selection
import Screencast.Proofs.History
import Screencast.Proofs.Host.Creation
import Screencast.Proofs.Host.Run
import Screencast.Proofs.Lossless.Codec
import Screencast.Proofs.Rate.Patches

/-! # The bitrates of encoder and controller

Two parts of the host remember the bitrate: the encoder, which runs at it, and the controller, which
leaves a patch out when it believes nothing would change. Both take over what patches name. They
do not begin alike: the encoder is created at the initial bitrate brought below the ceiling, and the
controller brings it above the minimum besides. An initial bitrate below the minimum therefore keeps
the two apart until a patch names a bitrate, and until then a request for the minimum is left out
although the encoder runs below it (`Screencast.HostPipeline.bitrates_agree_iff`).
-/

namespace Screencast

open HostAction RatePatch

/-- The bitrates named in patches, in order. -/
def HostAction.bitrates (actions : List HostAction) : List Nat :=
  actions.filterMap fun
    | .reconfigured patch _ => patch.bitrate
    | _ => none

namespace HostAction

private theorem bitrates_append (earlier later : List HostAction) :
    bitrates (earlier ++ later) = bitrates earlier ++ bitrates later :=
  List.filterMap_append

private theorem bitrates_eq_nil {actions : List HostAction}
    (others : ∀ a ∈ actions, a.isTask = false) :
    bitrates actions = [] := by
  apply List.filterMap_eq_nil_iff.mpr
  intro a did
  cases a with
  | reconfigured patch accepted => cases others _ did
  | _ => rfl

end HostAction

namespace LosslessEncoder

private theorem advance_params (e : LosslessEncoder) (packed : Bytes) :
    (e.advance packed).params = e.params := by
  unfold advance
  by_cases wants : e.wantsKeyframe packed = true
  · rw [if_pos wants]
  · rw [if_neg wants]

private theorem params_of_encodes {e e' : LosslessEncoder} (encodes : HostWorker.Encodes e e') :
    e'.params = e.params := by
  rcases encodes with rfl | ⟨f, rfl⟩
  · rfl
  · change (encode .stored e f).2.params = e.params
    cases packed : f.packed? with
    | none => rw [encode_of_not_packed packed]
    | some picture =>
        rw [encode_of_packed packed]
        exact e.advance_params picture

end LosslessEncoder

namespace HostWorker

/-- From `w` to `w'` both parts took over the bitrates that patches named. -/
structure Replays (w : HostWorker LosslessEncoder) (named : List Nat)
    (w' : HostWorker LosslessEncoder) : Prop where
  encoder : w'.encoder.params.bitrate = named.getLast?.getD w.encoder.params.bitrate
  rates : w'.rates.bitrate = named.getLast?.getD w.rates.bitrate
  min : w'.rates.min = w.rates.min
  cap : w'.rates.cap = w.rates.cap
  within : w.rates.min ≤ w.rates.cap → ∀ b ∈ named, w.rates.min ≤ b ∧ b ≤ w.rates.cap

variable {w w₁ w₂ : HostWorker LosslessEncoder} {named later : List Nat}

/-- A step that names no bitrate leaves the encoder's and the controller's as they were. -/
theorem Replays.unnamed (encoder : w₁.encoder.params.bitrate = w.encoder.params.bitrate)
    (rates : w₁.rates = w.rates) : w.Replays [] w₁ where
  encoder := encoder
  rates := congrArg RateController.bitrate rates
  min := congrArg RateController.min rates
  cap := congrArg RateController.cap rates
  within := fun _ _ none => nomatch none

/-- The bitrates named by two stretches of a run follow each other. -/
theorem Replays.trans (first : w.Replays named w₁) (second : w₁.Replays later w₂) :
    w.Replays (named ++ later) w₂ where
  encoder := by
    rw [second.encoder, first.encoder, List.getLast?_append, Option.getD_or]
  rates := by
    rw [second.rates, first.rates, List.getLast?_append, Option.getD_or]
  min := second.min.trans first.min
  cap := second.cap.trans first.cap
  within := by
    intro ordered b among
    rcases List.mem_append.mp among with early | late
    · exact first.within ordered b early
    · rw [← first.min, ← first.cap] at ordered ⊢
      exact second.within ordered b late

private theorem bitrates_reconfigured (patch : RatePatch) (accepted : Bool) :
    bitrates [.reconfigured patch accepted] = patch.bitrate.toList := by
  rw [bitrates, History.filterMap_singleton]

private theorem perform_replays (w : HostWorker LosslessEncoder) (task : HostTask) :
    w.Replays (bitrates (w.perform task).1) (w.perform task).2 := by
  obtain ⟨manual, rates⟩ := plan_rates w.rates task
  cases planned : (plan w.rates task).1 with
  | none =>
      rw [planned] at rates
      rw [perform_of_none planned, rates]
      exact ⟨rfl, rfl, rfl, rfl, fun _ _ none => nomatch none⟩
  | some patch =>
      have named : patch.bitrate.toList.getLast? = patch.bitrate := by
        cases patch.bitrate with
        | none => rfl
        | some b => rfl
      have within (ordered : w.rates.min ≤ w.rates.cap) (b : Nat)
          (among : b ∈ patch.bitrate.toList) : w.rates.min ≤ b ∧ b ≤ w.rates.cap := by
        apply within_of_plan ordered
        rw [planned]
        exact Option.mem_toList.mp among
      rw [planned] at rates
      rw [perform_of_some planned, rates, bitrates_reconfigured]
      constructor
      · rw [named]
        rfl
      · rw [named]
        rfl
      · rfl
      · rfl
      · exact within

private theorem performAll_replays (w : HostWorker LosslessEncoder) (tasks : List HostTask) :
    w.Replays (bitrates (w.performAll tasks).1) (w.performAll tasks).2 := by
  induction tasks generalizing w with
  | nil => exact .unnamed rfl rfl
  | cons task tasks ih =>
      rw [performAll_cons, bitrates_append]
      exact (w.perform_replays task).trans (ih (w.perform task).2)

private theorem drain_replays (w : HostWorker LosslessEncoder) (tasks : List HostTask) :
    w.Replays (bitrates (w.drain tasks).1) (w.drain tasks).2 := by
  have performed := w.performAll_replays tasks
  by_cases asked : .requestKeyframe ∈ tasks
  · rw [drain_of_mem asked, bitrates_append]
    exact performed.trans (.unnamed rfl rfl)
  · rw [drain_of_not_mem asked]
    exact performed

/-- In a turn the encoder's bitrate follows the patches handed to it, as the controller's does. -/
theorem turn_replays (w : HostWorker LosslessEncoder) (tasks : List HostTask) (t : Turn) :
    w.Replays (bitrates (w.turn tasks t).2.1) (w.turn tasks t).2.2 := by
  have drained := w.drain_replays tasks
  rw [turn_eq, bitrates_append]
  apply drained.trans
  dsimp only
  rw [bitrates_eq_nil fun _ => look_not_task]
  obtain ⟨encoder, throttle, cursor, pictures, audience, encodes, looked⟩ :=
    ((w.drain tasks).2.heed t).exists_look_eq t
  rw [looked]
  exact .unnamed (congrArg EncoderParams.bitrate (LosslessEncoder.params_of_encodes encodes)) rfl

/-- The two parts agree once a patch has named a bitrate, or if they did to begin with. -/
theorem Replays.agree_iff (replays : w.Replays named w₁) :
    w₁.encoder.params.bitrate = w₁.rates.bitrate ↔
      w.encoder.params.bitrate = w.rates.bitrate ∨ named ≠ [] := by
  rw [replays.encoder, replays.rates]
  cases last : named.getLast? with
  | none =>
      have nothing := List.getLast?_eq_none_iff.mp last
      exact (or_iff_left (not_not_intro nothing)).symm
  | some b =>
      have something := List.ne_nil_of_mem (List.mem_of_getLast? last)
      exact iff_of_true rfl (.inr something)

/-- So do they keep to the minimum. -/
theorem Replays.min_le_iff (replays : w.Replays named w₁) (ordered : w.rates.min ≤ w.rates.cap) :
    w.rates.min ≤ w₁.encoder.params.bitrate ↔
      w.rates.min ≤ w.encoder.params.bitrate ∨ named ≠ [] := by
  rw [replays.encoder]
  cases last : named.getLast? with
  | none =>
      have nothing := List.getLast?_eq_none_iff.mp last
      exact (or_iff_left (not_not_intro nothing)).symm
  | some b =>
      have among := List.mem_of_getLast? last
      exact iff_of_true (replays.within ordered b among).1 (.inr (List.ne_nil_of_mem among))

/-- Replaying named bitrates never takes the encoder above the controller's cap. -/
theorem Replays.le_cap (replays : w.Replays named w₁) (ordered : w.rates.min ≤ w.rates.cap)
    (begun : w.encoder.params.bitrate ≤ w.rates.cap) :
    w₁.encoder.params.bitrate ≤ w.rates.cap := by
  rw [replays.encoder]
  cases last : named.getLast? with
  | none => exact begun
  | some b => exact (replays.within ordered b (List.mem_of_getLast? last)).2

end HostWorker

namespace HostLoop

private theorem respond_replays (l : HostLoop LosslessEncoder) (i : HostInput) :
    l.worker.Replays (bitrates ((l.respond i).1.toList.flatMap (·.actions)))
      (l.respond i).2.worker := by
  cases i with
  | message m => exact .unnamed rfl rfl
  | stop => exact .unnamed rfl rfl
  | turn t =>
      by_cases running : l.running = true
      · have took := l.worker.turn_replays l.queue.tasks t
        rw [respond_turn_of_running running, Option.toList_some, List.flatMap_singleton,
          step_of_running running]
        dsimp only
        cases (l.worker.turn l.queue.tasks t).1 with
        | true => exact took
        | false => exact took
      · rw [respond_turn_of_stopped (Bool.eq_false_iff.mpr running)]
        exact .unnamed rfl rfl

/-- Over a whole run the encoder's bitrate follows the patches handed to it. -/
theorem follow_replays (l : HostLoop LosslessEncoder) (inputs : List HostInput) :
    l.worker.Replays (bitrates ((l.follow inputs).1.flatMap (·.actions)))
      (l.follow inputs).2.worker := by
  have kept (past : List TakenTurn) (l' : HostLoop LosslessEncoder) (i : HostInput)
      (replays : l.worker.Replays (bitrates (past.flatMap (·.actions))) l'.worker) :
      l.worker.Replays (bitrates ((past ++ (l'.respond i).1.toList).flatMap (·.actions)))
        (l'.respond i).2.worker := by
    rw [List.flatMap_append, bitrates_append]
    exact replays.trans (l'.respond_replays i)
  have begun : l.worker.Replays (bitrates (([] : List TakenTurn).flatMap (·.actions))) l.worker :=
    .unnamed rfl rfl
  exact follow_invariant kept begun inputs

end HostLoop

/-- The bitrate that no patch goes below. -/
def HostParams.minBitrate (p : HostParams) : Nat := min p.tuning.minBitrate p.maxBitrate

namespace HostPipeline

open HostWorker

variable {p : HostParams} {device : DeviceHandle}
  {setFormat : CaptureFormat → Except StreamError Unit}
  {pipeline : HostPipeline LosslessEncoder}

/-- The encoder begins at the smaller of the initial bitrate and the ceiling. -/
theorem encoder_of_create
    (created : (create p LosslessEncoder.factory device setFormat).result = .ok pipeline) :
    pipeline.loop.worker.encoder.params.bitrate = min p.initialBitrate p.maxBitrate := by
  obtain ⟨-, s, selected, rfl⟩ := selected_of_create created
  obtain ⟨c, among, came, -, -⟩ := Selection.candidate_of_run selected
  change s.encoder.params.bitrate = _
  rw [LosslessEncoder.eq_new_of_create came]
  exact Selection.bitrate_of_candidate among

/-- The controller begins at the same bitrate, raised to the minimum. -/
theorem rates_of_create
    (created : (create p LosslessEncoder.factory device setFormat).result = .ok pipeline) :
    pipeline.loop.worker.rates.cap = p.maxBitrate ∧
      pipeline.loop.worker.rates.min = p.minBitrate ∧
      pipeline.loop.worker.rates.bitrate =
        max p.minBitrate (min p.initialBitrate p.maxBitrate) := by
  obtain ⟨checked, s, -, rfl⟩ := selected_of_create created
  have positive := HostParams.maxBitrate_ne_zero checked
  have cap : Nat.max p.maxBitrate 1 = p.maxBitrate := by
    apply Nat.max_eq_left
    omega
  have bounded : p.minBitrate ≤ p.maxBitrate := Nat.min_le_right ..
  have clamped : RateController.clampRate (min p.initialBitrate p.maxBitrate) p.minBitrate
      p.maxBitrate = max p.minBitrate (min p.initialBitrate p.maxBitrate) := by
    unfold RateController.clampRate
    have atMost : max (min p.initialBitrate p.maxBitrate) p.minBitrate ≤ p.maxBitrate := by omega
    rw [Nat.max_comm p.minBitrate]
    exact Nat.min_eq_left atMost
  refine ⟨cap, ?_, ?_⟩
  · change Nat.min p.tuning.minBitrate (Nat.max p.maxBitrate 1) = _
    rw [cap]
    rfl
  · change RateController.clampRate _ (Nat.min p.tuning.minBitrate (Nat.max p.maxBitrate 1))
      (Nat.max p.maxBitrate 1) = _
    rw [cap]
    exact clamped

/-- **Encoder and controller agree unless the initial bitrate lies below the minimum and no patch
has named a bitrate yet.** Both hold the bitrate named last. Where none has been named, the encoder
runs at the initial bitrate or the ceiling, whichever is lower, and the controller believes it to
run at the minimum at least. An obeyed request whose bitrate is left out as nothing new then leaves
the encoder below that bitrate. -/
theorem bitrates_agree_iff
    (created : (create p LosslessEncoder.factory device setFormat).result = .ok pipeline)
    (inputs : List HostInput) :
    let run := (pipeline.start .started).2.loop.follow inputs
    let w := run.2.worker
    let named := bitrates (run.1.flatMap (·.actions))
    w.encoder.params.bitrate = named.getLast?.getD (min p.initialBitrate p.maxBitrate) ∧
    w.rates.bitrate = named.getLast?.getD (max p.minBitrate (min p.initialBitrate p.maxBitrate)) ∧
    w.encoder.params.bitrate ≤ p.maxBitrate ∧
    (p.minBitrate ≤ w.encoder.params.bitrate ↔ p.minBitrate ≤ p.initialBitrate ∨ named ≠ []) ∧
    (w.encoder.params.bitrate = w.rates.bitrate ↔ p.minBitrate ≤ p.initialBitrate ∨ named ≠ []) ∧
    ∀ r b, w.rates.Obeys r → r.patch.bitrate = some b →
      bitrate? (plan w.rates (.reconfigure r)).1 = none →
      (w.encoder.params.bitrate = RateController.clampRate b p.minBitrate p.maxBitrate ↔
        p.minBitrate ≤ p.initialBitrate ∨ named ≠ []) := by
  intro run w named
  obtain ⟨cap, least, rates⟩ := rates_of_create created
  have encoder := encoder_of_create created
  have same : (pipeline.start .started).2.loop.worker = pipeline.loop.worker := by
    rw [(start_of_create created).2]
  have replays : pipeline.loop.worker.Replays named w :=
    same ▸ (pipeline.start .started).2.loop.follow_replays inputs
  have bounded : p.minBitrate ≤ p.maxBitrate := Nat.min_le_right ..
  have ordered : pipeline.loop.worker.rates.min ≤ pipeline.loop.worker.rates.cap := by
    rw [least, cap]
    exact bounded
  -- Until a bitrate is named, the two differ by the lift to the lower bound and by nothing else.
  have agree : w.encoder.params.bitrate = w.rates.bitrate ↔
      p.minBitrate ≤ p.initialBitrate ∨ named ≠ [] := by
    have alike : min p.initialBitrate p.maxBitrate =
        max p.minBitrate (min p.initialBitrate p.maxBitrate) ↔ p.minBitrate ≤ p.initialBitrate := by
      omega
    rw [replays.agree_iff, encoder, rates, alike]
  refine ⟨encoder ▸ replays.encoder, rates ▸ replays.rates, ?_, ?_, agree, ?_⟩
  · have begun : pipeline.loop.worker.encoder.params.bitrate ≤
        pipeline.loop.worker.rates.cap := by
      rw [encoder, cap]
      exact Nat.min_le_right ..
    rw [← cap]
    exact replays.le_cap ordered begun
  · have high : p.minBitrate ≤ min p.initialBitrate p.maxBitrate ↔
        p.minBitrate ≤ p.initialBitrate := by
      omega
    rw [← least, replays.min_le_iff ordered, encoder, least, high]
  · intro r b obeys asked silent
    have believed := RateController.bitrate_of_silent obeys asked silent
    rw [replays.min, replays.cap, least, cap] at believed
    rw [← believed]
    exact agree

/-- A host that begins below the default minimum of a million. -/
def lowStart : HostParams :=
  { mode := ⟨640, 360, 60, .deg0⟩, preferences := [.zstd], initialBitrate := 500000,
    maxBitrate := 20000000 }

/-- The encoder selected for it. -/
def lowStartEncoder : SelectedEncoder LosslessEncoder :=
  ⟨.new { lowStart.encoderParams .none with fps := 30 }, LosslessEncoder.ability, 30⟩

/-- The pipeline built from a configuration that starts below its least bitrate. -/
def lowStartPipeline : HostPipeline LosslessEncoder :=
  { loop := { worker := lowStart.worker lowStartEncoder, running := false },
    ability := LosslessEncoder.ability, fps := 30, mode := lowStart.mode,
    startTimeout := lowStart.tuning.startTimeout }

/-- A client asks for the minimum, and a turn takes the request. -/
def minimumAsked : List HostInput :=
  [.message (.reconfigureEncoder ⟨none, some 1000000, none⟩), .turn { mode := lowStart.mode }]

private theorem lowStart_created :
    (create lowStart LosslessEncoder.factory .none fun _ => .ok ()).result = .ok lowStartPipeline :=
  rfl

/-- Starting below the least bitrate, a request for that bitrate finds the controller there already:
no patch goes out and the encoder stays below. -/
theorem lowStart_request_left_out :
    (create lowStart LosslessEncoder.factory .none fun _ => .ok ()).result = .ok lowStartPipeline ∧
      let w := ((lowStartPipeline.start .started).2.loop.follow minimumAsked).2.worker
      w.encoder.params.bitrate = 500000 ∧ w.rates.bitrate = 1000000 := by
  obtain ⟨encoder, rates, -⟩ := bitrates_agree_iff lowStart_created minimumAsked
  exact ⟨lowStart_created, encoder, rates⟩

/-- Encoder and controller do not always begin at one bitrate. -/
theorem not_always_agreed :
    ¬∀ (p : HostParams) (device : DeviceHandle)
      (setFormat : CaptureFormat → Except StreamError Unit)
      (pipeline : HostPipeline LosslessEncoder),
      (create p LosslessEncoder.factory device setFormat).result = .ok pipeline →
        p.minBitrate ≤ pipeline.loop.worker.encoder.params.bitrate ∧
          pipeline.loop.worker.encoder.params.bitrate = pipeline.loop.worker.rates.bitrate := by
  intro agreed
  have least := (agreed lowStart .none (fun _ => .ok ()) lowStartPipeline lowStart_created).1
  exact absurd least (by decide)

end HostPipeline

end Screencast
