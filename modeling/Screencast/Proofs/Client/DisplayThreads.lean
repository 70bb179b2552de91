import Screencast.Client.Decoding
import Screencast.Client.Rendering

/-! # Threads that put pictures on the screen

The decode thread decodes a picture first and publishes it later; the render thread takes what
waits in the slot first and draws it later. What the owner sets meanwhile takes effect at once. A
run is any order of such steps.

When nobody comes in between, the steps of the decode thread are its reaction to a frame
(`Screencast.DisplayThreads.run_frame`), and those of the render thread are one pass of its loop
(`Screencast.DisplayThreads.run_pass`). What a step can do to the pictures on their way to the
screen is said once (`Screencast.DisplayThreads.shift_step`), and what every such shift keeps holds
after every run (`Screencast.DisplayThreads.holds_after_run`).
-/

namespace Screencast

/-- The texture that holds a decoded picture. -/
def DecodedFrame.picture? (answer : DecodedFrame) : Option Resource :=
  if answer.status = .ok then answer.resource else none

/-- The texture to be drawn, if it is one that the renderer is asked for. -/
def RenderAction.drawn? : RenderAction → Option Resource
  | rendered r _ => some r
  | _ => none

/-- The texture that the render thread draws. -/
def drawnIn (actions : List RenderAction) : Option Resource := actions.findSome? (·.drawn?)

/-- Whether what was drawn has been presented as well. -/
def succeedsIn (actions : List RenderAction) : Bool :=
  actions.any (· = .presented .success)

private theorem drawnIn_append (first second : List RenderAction) :
    drawnIn (first ++ second) = (drawnIn first).or (drawnIn second) :=
  List.findSome?_append

private theorem succeedsIn_append (first second : List RenderAction) :
    succeedsIn (first ++ second) = (succeedsIn first || succeedsIn second) :=
  List.any_append

namespace SlotReading

private theorem drawnIn_settings (reading : SlotReading) : drawnIn reading.settings = none := by
  apply List.findSome?_eq_none_iff.mpr
  intro action among
  simp only [settings, List.mem_append, List.mem_map] at among
  rcases among with (⟨state, -, rfl⟩ | mode) | stretch
  · rfl
  · split at mode
    · rw [List.mem_singleton.mp mode]
      rfl
    · cases mode
  · split at stretch
    · rw [List.mem_singleton.mp stretch]
      rfl
    · cases stretch

private theorem succeedsIn_settings (reading : SlotReading) :
    succeedsIn reading.settings = false := by
  apply List.any_eq_false.mpr
  intro action among presented
  obtain rfl : action = .presented .success := of_decide_eq_true presented
  simp only [settings, List.mem_append, List.mem_map] at among
  rcases among with (⟨state, -, other⟩ | mode) | stretch
  · cases other
  · split at mode
    · cases List.mem_singleton.mp mode
    · cases mode
  · split at stretch
    · cases List.mem_singleton.mp stretch
    · cases stretch

end SlotReading

namespace RenderPass

private theorem drawnIn_draw (p : RenderPass) (r : Resource) (more : List RenderAction) :
    drawnIn ((p.draw r).1 ++ more) = some r := by
  unfold draw
  cases p.render r with
  | success | reset | failed => rfl

private theorem succeedsIn_draw (p : RenderPass) (r : Resource) :
    succeedsIn (p.draw r).1 = decide ((p.draw r).2 = .success) := by
  unfold draw
  cases p.render r with
  | success => cases p.present <;> rfl
  | reset | failed => rfl

private theorem succeedsIn_resetOverlays (p : RenderPass) : succeedsIn p.resetOverlays = false := by
  apply List.any_eq_false.mpr
  intro action among presented
  obtain ⟨index, -, rfl⟩ := List.mem_map.mp among
  cases of_decide_eq_true presented

end RenderPass

namespace ClientPipeline

private theorem react_of_picture (c : ClientPipeline) (f : QueuedFrame) {answer : DecodedFrame}
    {r : Resource} (picture : answer.picture? = some r) :
    c.react f answer = ([], c.publish f r) := by
  obtain ⟨status, resource⟩ := answer
  cases status with
  | ok =>
      obtain rfl : resource = some r := picture
      rfl
  | failed | eAgain | needReset => cases picture

/-- An answer without a picture reaches neither the slot nor the last picture shown. -/
theorem react_of_no_picture (c : ClientPipeline) (f : QueuedFrame) {answer : DecodedFrame}
    (picture : answer.picture? = none) :
    (c.react f answer).2.slot = c.slot ∧ (c.react f answer).2.last = c.last := by
  obtain ⟨status, resource⟩ := answer
  cases status with
  | ok =>
      obtain rfl : resource = none := picture
      exact ⟨rfl, rfl⟩
  | failed | eAgain | needReset => exact ⟨rfl, rfl⟩

/-- Restoring the target decides about the target only. -/
theorem restoreTarget_keeps (c : ClientPipeline) (p : RenderPass) :
    (c.restoreTarget p).2.2.slot = c.slot ∧ (c.restoreTarget p).2.2.last = c.last ∧
      (c.restoreTarget p).2.2.running = c.running := by
  unfold restoreTarget
  split
  · split
    · exact ⟨rfl, rfl, rfl⟩
    · exact ⟨rfl, rfl, rfl⟩
  · exact ⟨rfl, rfl, rfl⟩

/-- Passes on what is new of a reading, and draws. -/
def showReading (c : ClientPipeline) (p : RenderPass) (reading : SlotReading) :
    List RenderAction × List ClientEvent × ClientPipeline :=
  match (reading.frame.map (·.resource)).or c.last with
  | none => (reading.settings, [], c)
  | some r =>
    let (drawn, events, c) := c.showPicture p r reading.frame
    (reading.settings ++ drawn, events, c)

/-- A pass in one piece is the look at the slot followed by the pass over what was read. -/
theorem showSlot_eq_showReading (c : ClientPipeline) (p : RenderPass) :
    c.showSlot p =
      { c with slot := (c.slot.read p.now).2 }.showReading p (c.slot.read p.now).1 := rfl

private theorem reportTransport_keeps (c : ClientPipeline) (p : RenderPass) :
    (c.reportTransport p).2.slot = c.slot ∧ (c.reportTransport p).2.last = c.last := by
  unfold reportTransport
  split
  · split
    · exact ⟨rfl, rfl⟩
    · exact ⟨rfl, rfl⟩
  · exact ⟨rfl, rfl⟩

/-- Only a picture that is drawn and presented is remembered as shown. -/
theorem showPicture_shows (c : ClientPipeline) (p : RenderPass) (r : Resource)
    (f : Option WaitingFrame) :
    drawnIn (c.showPicture p r f).1 = some r ∧ (c.showPicture p r f).2.2.slot = c.slot ∧
      (c.showPicture p r f).2.2.last =
        if succeedsIn (c.showPicture p r f).1 then some r else c.last := by
  have drawn := p.drawnIn_draw r
  have succeeds := p.succeedsIn_draw r
  unfold showPicture
  rcases drawing : p.draw r with ⟨actions, outcome⟩
  rw [drawing] at drawn succeeds
  cases outcome with
  | success =>
      obtain ⟨slot, last⟩ := (c.recordShown p r f).reportTransport_keeps p
      refine ⟨drawn _, slot, ?_⟩
      simp only [succeedsIn_append]
      rw [show succeedsIn actions = true from succeeds, Bool.true_or, if_pos rfl]
      exact last
  | reset =>
      refine ⟨drawn _, rfl, ?_⟩
      simp only [succeedsIn_append, p.succeedsIn_resetOverlays]
      rw [show succeedsIn actions = false from succeeds]
      rfl
  | failed =>
      refine ⟨(congrArg drawnIn (List.append_nil actions)).symm.trans (drawn []), rfl, ?_⟩
      simp only
      rw [show succeedsIn actions = false from succeeds]
      rfl

/-- What a pass draws: the picture just read, or the last one when there was none. Only a pass that
succeeds makes it the last one. -/
theorem showReading_shows (c : ClientPipeline) (p : RenderPass) (reading : SlotReading) :
    drawnIn (c.showReading p reading).1 = (reading.frame.map (·.resource)).or c.last ∧
      (c.showReading p reading).2.2.slot = c.slot ∧
      (c.showReading p reading).2.2.last =
        if succeedsIn (c.showReading p reading).1 then drawnIn (c.showReading p reading).1
        else c.last := by
  unfold showReading
  cases (reading.frame.map (·.resource)).or c.last with
  | none =>
      refine ⟨reading.drawnIn_settings, rfl, ?_⟩
      simp only [reading.succeedsIn_settings, Bool.false_eq_true, ↓reduceIte]
  | some r =>
      obtain ⟨drawn, slot, last⟩ := c.showPicture_shows p r reading.frame
      simp only [drawnIn_append, succeedsIn_append, reading.drawnIn_settings,
        reading.succeedsIn_settings, drawn, Option.none_or, Bool.false_or, true_and]
      exact ⟨slot, last⟩

/-- Nothing succeeds where nothing is drawn. -/
theorem showReading_draws (c : ClientPipeline) (p : RenderPass) (reading : SlotReading)
    (succeeds : succeedsIn (c.showReading p reading).1 = true) :
    drawnIn (c.showReading p reading).1 ≠ none := by
  rw [(c.showReading_shows p reading).1]
  intro nothing
  unfold showReading at succeeds
  rw [nothing] at succeeds
  exact Bool.false_ne_true (reading.succeedsIn_settings.symm.trans succeeds)

end ClientPipeline

/-- What the owner sets, and the first half of a stop. -/
inductive OwnerCall
  | update (figures : TransportFigures)
  | setCursor (info : CursorInfo)
  | setMouseMode (mode : MouseMode)
  | setStretch (stretch : Bool)
  | loseTarget
  | stopListening
  | close

/-- The pipeline after a call of its owner's. -/
def OwnerCall.apply (c : ClientPipeline) : OwnerCall → ClientPipeline
  | update figures => { c with telemetry := c.telemetry.update figures }
  | setCursor info => c.setCursor info
  | setMouseMode mode => c.setMouseMode mode
  | setStretch stretch => c.setStretch stretch
  | loseTarget => c.loseTarget
  | stopListening => { c with listening := false }
  | close => { c with running := false, closed := true }

private theorem OwnerCall.apply_keeps (c : ClientPipeline) (call : OwnerCall) :
    (call.apply c).slot.smoother = c.slot.smoother ∧ (call.apply c).last = c.last := by
  cases call with
  | setCursor info =>
      simp only [apply, ClientPipeline.setCursor, RenderSlot.setCursor, and_true]
      split
      · rfl
      · rfl
  | update | setMouseMode | setStretch | loseTarget | stopListening | close => exact ⟨rfl, rfl⟩

/-- A pass of the render thread, between its look at the slot and its drawing. -/
structure Glance where
  pass : RenderPass
  reading : SlotReading
  /-- How many pictures had been published by then. -/
  pushed : Nat

/-- A pipeline and its decoder while both threads work on them. -/
structure DisplayThreads (δ : Type) where
  pipeline : ClientPipeline
  decoder : δ
  /-- The picture that the decode thread has decoded and not published yet. -/
  unpublished : Option (QueuedFrame × Resource) := none
  glance : Option Glance := none

/-- A step of one of the threads, or a call of the owner's. -/
inductive DisplayStep
  | decode (f : QueuedFrame)
  | publish
  /-- The render thread begins a pass, up to its look at the slot. -/
  | look (p : RenderPass)
  /-- The render thread ends its pass. -/
  | draw
  | call (c : OwnerCall)

/-- A pass of the render thread that came as far as the slot. -/
structure ScreenPass (δ : Type) where
  /-- How many pictures had been published when it looked. -/
  pushed : Nat
  /-- The picture that it took out of the slot. -/
  taken : Option WaitingFrame
  actions : List RenderAction
  /-- The decoder, with its textures, while the pass drew. -/
  decoder : δ

namespace ScreenPass

variable {δ : Type}

/-- The resource the pass drew, if it drew one. -/
def resource? (pass : ScreenPass δ) : Option Resource := drawnIn pass.actions

/-- Whether the pass drew and presented without a failure. -/
def succeeds (pass : ScreenPass δ) : Bool := succeedsIn pass.actions

end ScreenPass

/-- What can be seen of the threads' work. -/
inductive DisplayObservation (δ : Type)
  | decoded (d : ClientPipeline.Decoded δ)
  | published (r : Resource)
  | passed (pass : ScreenPass δ)

namespace DisplayObservation

variable {δ : Type}

/-- What was decoded, in order. -/
def decodedFrames (seen : List (DisplayObservation δ)) : List (ClientPipeline.Decoded δ) :=
  seen.filterMap fun
    | decoded d => some d
    | _ => none

/-- The resources put into the slot, in order. -/
def publications (seen : List (DisplayObservation δ)) : List Resource :=
  seen.filterMap fun
    | published r => some r
    | _ => none

/-- The passes of the render thread, in order. -/
def passes (seen : List (DisplayObservation δ)) : List (ScreenPass δ) :=
  seen.filterMap fun
    | passed pass => some pass
    | _ => none

@[simp] theorem decodedFrames_append (first second : List (DisplayObservation δ)) :
    decodedFrames (first ++ second) = decodedFrames first ++ decodedFrames second :=
  List.filterMap_append

@[simp] theorem publications_append (first second : List (DisplayObservation δ)) :
    publications (first ++ second) = publications first ++ publications second :=
  List.filterMap_append

@[simp] theorem passes_append (first second : List (DisplayObservation δ)) :
    passes (first ++ second) = passes first ++ passes second :=
  List.filterMap_append

end DisplayObservation

namespace DisplayThreads

variable {δ : Type} (decode : δ → EncodedFrame → DecodedFrame × δ)

/-- A step that is not possible as things are changes nothing. -/
def step (s : DisplayThreads δ) : DisplayStep → List (DisplayObservation δ) × DisplayThreads δ
  | .decode f =>
    if s.unpublished.isNone && s.pipeline.decoding then
      let (answer, decoder) := decode s.decoder f.frame
      ([.decoded ⟨f.frame, answer, decoder⟩],
        match answer.picture? with
        | some r => { s with decoder, unpublished := some (f, r) }
        | none => { s with decoder, pipeline := (s.pipeline.react f answer).2 })
    else ([], s)
  | .publish =>
    match s.unpublished with
    | some (f, r) => ([.published r],
        { s with pipeline := s.pipeline.publish f r, unpublished := none })
    | none => ([], s)
  | .look p =>
    if s.glance.isNone && (s.pipeline.running && s.pipeline.rendering) then
      let pipeline := (s.pipeline.restoreTarget p).2.2
      if pipeline.rendering && p.ready then
        let (reading, slot) := pipeline.slot.read p.now
        ([], { s with
          pipeline := { pipeline with slot }, glance := some ⟨p, reading, slot.smoother.pushed⟩ })
      else ([], { s with pipeline })
    else ([], s)
  | .draw =>
    match s.glance with
    | none => ([], s)
    | some g =>
      if s.pipeline.running then
        let (actions, _, pipeline) := s.pipeline.showReading g.pass g.reading
        ([.passed ⟨g.pushed, g.reading.frame, actions, s.decoder⟩],
          { s with pipeline, glance := none })
      else
        ([.passed ⟨g.pushed, g.reading.frame, [], s.decoder⟩],
          { s with pipeline := { s.pipeline with rendering := false }, glance := none })
  | .call c => ([], { s with pipeline := c.apply s.pipeline })

/-- What is seen of a run, and how things are after it. -/
def run (s : DisplayThreads δ) :
    List DisplayStep → List (DisplayObservation δ) × DisplayThreads δ
  | [] => ([], s)
  | x :: xs =>
    let (seen, s) := s.step decode x
    let (more, s) := s.run xs
    (seen ++ more, s)

/-- A pipeline whose threads have just been started. -/
def started (instanceId : Nat) (n : Negotiated) (decoder : δ) : DisplayThreads δ :=
  { pipeline := (ClientPipeline.new instanceId n).start.2, decoder }

/-- A frame that is decoded and published without interruption. -/
theorem run_frame (s : DisplayThreads δ) (f : QueuedFrame) (free : s.unpublished = none)
    (decoding : s.pipeline.decoding = true) :
    (s.run decode [.decode f, .publish]).2 =
      { s with
        pipeline := (s.pipeline.react f (decode s.decoder f.frame).1).2
        decoder := (decode s.decoder f.frame).2 } := by
  obtain ⟨pipeline, decoder, unpublished, glance⟩ := s
  obtain rfl : unpublished = none := free
  simp only at decoding
  rcases answered : decode decoder f.frame with ⟨answer, after⟩
  cases picture : answer.picture? with
  | some r =>
      simp [run, step, decoding, answered, picture, pipeline.react_of_picture f picture]
  | none => simp [run, step, decoding, answered, picture]

/-- A pass of the render thread that nobody interrupts. -/
theorem run_pass (s : DisplayThreads δ) (p : RenderPass) (idle : s.glance = none) :
    (s.run decode [.look p, .draw]).2 =
        { s with pipeline := (s.pipeline.renderPass p).2.2 } ∧
      (DisplayObservation.passes (s.run decode [.look p, .draw]).1).flatMap (·.actions) <:+
        (s.pipeline.renderPass p).1 := by
  obtain ⟨pipeline, decoder, unpublished, glance⟩ := s
  obtain rfl : glance = none := idle
  obtain ⟨-, -, running⟩ := pipeline.restoreTarget_keeps p
  by_cases live : (pipeline.running && pipeline.rendering) = true
  · rcases restored : pipeline.restoreTarget p with ⟨reset, events, target⟩
    rw [restored] at running
    obtain ⟨run', -⟩ := Bool.and_eq_true_iff.mp live
    by_cases ready : (target.rendering && p.ready) = true
    · have again : target.running = true := running.trans run'
      simp [run, step, live, restored, ready, again, ClientPipeline.renderPass,
        ClientPipeline.showSlot_eq_showReading, DisplayObservation.passes]
    · simp [run, step, live, restored, ready, ClientPipeline.renderPass,
        DisplayObservation.passes]
  · simp [run, step, live, ClientPipeline.renderPass, DisplayObservation.passes]

end DisplayThreads

/-- Pictures on their way to the screen. -/
structure PictureFlow (δ : Type) where
  smoother : Smoother
  /-- The texture shown last. -/
  last : Option Resource
  decoder : δ
  unpublished : Option (QueuedFrame × Resource)
  glance : Option Glance

namespace PictureFlow

variable {δ : Type}

/-- What a step can do to the pictures, and what is seen of it. -/
inductive Shift (decode : δ → EncodedFrame → DecodedFrame × δ) (v : PictureFlow δ) :
    DisplayStep → List (DisplayObservation δ) → PictureFlow δ → Prop
  | still (x : DisplayStep) : Shift decode v x [] v
  | decoded (f : QueuedFrame) (free : v.unpublished = none) {answer : DecodedFrame} {decoder : δ}
      (answered : decode v.decoder f.frame = (answer, decoder)) :
      Shift decode v (.decode f) [.decoded ⟨f.frame, answer, decoder⟩]
        { v with decoder, unpublished := answer.picture?.map (f, ·) }
  | published {f : QueuedFrame} {r : Resource} (held : v.unpublished = some (f, r)) :
      Shift decode v .publish [.published r]
        { v with
          smoother := v.smoother.push ⟨r, f.frame.captureTime, f.arrivalTime⟩, unpublished := none }
  | took (p : RenderPass) (idle : v.glance = none) {reading : SlotReading} {w : WaitingFrame}
      (waiting : v.smoother.slot = some w) (frame : reading.frame = some w) :
      Shift decode v (.look p) []
        { v with
          smoother := { v.smoother with slot := none }
          glance := some ⟨p, reading, v.smoother.pushed⟩ }
  | missed (p : RenderPass) (idle : v.glance = none) {reading : SlotReading}
      (early : ∀ w, v.smoother.slot = some w → p.now < w.arrivalTime)
      (frame : reading.frame = none) :
      Shift decode v (.look p) [] { v with glance := some ⟨p, reading, v.smoother.pushed⟩ }
  | passed {g : Glance} (glance : v.glance = some g) {pass : ScreenPass δ}
      (pushed : pass.pushed = g.pushed) (taken : pass.taken = g.reading.frame)
      (decoder : pass.decoder = v.decoder)
      (drawn : pass.resource? ≠ none →
        pass.resource? = (g.reading.frame.map (·.resource)).or v.last)
      (shown : pass.succeeds = true → pass.resource? ≠ none) :
      Shift decode v .draw [.passed pass]
        { v with last := if pass.succeeds then pass.resource? else v.last, glance := none }

end PictureFlow

namespace RenderSlot

/-- A look at the slot either takes the waiting picture, whose time has come, or leaves the slot as
it is. -/
theorem read_cases (s : RenderSlot) (now : UInt64) :
    (∃ w, s.smoother.slot = some w ∧ w.arrivalTime ≤ now ∧ (s.read now).1.frame = some w ∧
        (s.read now).2.smoother = { s.smoother with slot := none }) ∨
      (∀ w, s.smoother.slot = some w → now < w.arrivalTime) ∧ (s.read now).1.frame = none ∧
        (s.read now).2.smoother = s.smoother := by
  cases slot : s.smoother.slot with
  | none =>
      right
      refine ⟨?_, ?_, ?_⟩
      · intro w waiting
        cases waiting
      · simp [read, takeWake, Smoother.get, slot]
      · simp [read, takeWake, Smoother.get, slot]
  | some w =>
      by_cases arrived : w.arrivalTime ≤ now
      · left
        refine ⟨w, rfl, arrived, ?_, ?_⟩
        · simp [read, takeWake, Smoother.get, Smoother.pop, slot, arrived]
        · simp [read, takeWake, Smoother.get, Smoother.pop, slot, arrived]
      · right
        refine ⟨?_, ?_, ?_⟩
        · intro w waiting
          cases waiting
          exact UInt64.not_le.mp arrived
        · simp [read, takeWake, Smoother.get, slot, arrived]
        · simp [read, takeWake, Smoother.get, slot, arrived]

end RenderSlot

namespace DisplayThreads

variable {δ : Type}

/-- The part of the state that a picture passes through on its way to the screen. -/
def flow (s : DisplayThreads δ) : PictureFlow δ :=
  ⟨s.pipeline.slot.smoother, s.pipeline.last, s.decoder, s.unpublished, s.glance⟩

open PictureFlow in
private theorem shift_step (decode : δ → EncodedFrame → DecodedFrame × δ) (s : DisplayThreads δ)
    (x : DisplayStep) : Shift decode s.flow x (s.step decode x).1 (s.step decode x).2.flow := by
  obtain ⟨pipeline, decoder, unpublished, glance⟩ := s
  cases x with
  | decode f =>
      simp only [step]
      by_cases may : (unpublished.isNone && pipeline.decoding) = true
      · rw [if_pos may]
        obtain rfl := Option.isNone_iff_eq_none.mp (Bool.and_eq_true_iff.mp may).1
        rcases answered : decode decoder f.frame with ⟨answer, after⟩
        have shift := @Shift.decoded δ decode (flow ⟨pipeline, decoder, none, glance⟩) f rfl
          answer after answered
        cases picture : answer.picture? with
        | some r =>
            rw [picture] at shift
            exact shift
        | none =>
            obtain ⟨slot, last⟩ := pipeline.react_of_no_picture f picture
            rw [picture] at shift
            simp only [flow, slot, last]
            exact shift
      · rw [if_neg may]
        exact .still _
  | publish =>
      cases unpublished with
      | none => exact .still _
      | some held =>
          obtain ⟨f, r⟩ := held
          exact .published rfl
  | look p =>
      simp only [step]
      by_cases may : (glance.isNone && (pipeline.running && pipeline.rendering)) = true
      · rw [if_pos may]
        obtain rfl := Option.isNone_iff_eq_none.mp (Bool.and_eq_true_iff.mp may).1
        obtain ⟨slot, last, -⟩ := pipeline.restoreTarget_keeps p
        by_cases ready : ((pipeline.restoreTarget p).2.2.rendering && p.ready) = true
        · rw [if_pos ready]
          simp only [flow, slot, last]
          rcases pipeline.slot.read_cases p.now with
            ⟨w, waiting, -, frame, smoother⟩ | ⟨early, frame, smoother⟩
          · rw [smoother]
            exact .took p rfl waiting frame
          · rw [smoother]
            exact .missed p rfl early frame
        · rw [if_neg ready]
          simp only [flow, slot, last]
          exact .still _
      · rw [if_neg may]
        exact .still _
  | draw =>
      cases glance with
      | none => exact .still _
      | some g =>
          simp only [step]
          by_cases running : pipeline.running = true
          · rw [if_pos running]
            obtain ⟨drawn, slot, last⟩ := pipeline.showReading_shows g.pass g.reading
            simp only [flow, slot, last]
            exact @Shift.passed δ decode (flow ⟨pipeline, decoder, unpublished, some g⟩) g rfl
              ⟨g.pushed, g.reading.frame, (pipeline.showReading g.pass g.reading).1, decoder⟩
              rfl rfl rfl (fun _ => drawn) (pipeline.showReading_draws g.pass g.reading)
          · rw [if_neg running]
            exact @Shift.passed δ decode (flow ⟨pipeline, decoder, unpublished, some g⟩) g rfl
              ⟨g.pushed, g.reading.frame, [], decoder⟩ rfl rfl rfl (fun drawn => absurd rfl drawn)
              (fun succeeds => nomatch succeeds)
  | call c =>
      obtain ⟨smoother, last⟩ := c.apply_keeps pipeline
      simp only [step, flow, smoother, last]
      exact .still _

/-- What holds at first, and is kept by every shift, holds after a run. -/
theorem holds_after_run {decode : δ → EncodedFrame → DecodedFrame × δ}
    {holds : List DisplayStep → PictureFlow δ → List (DisplayObservation δ) → Prop}
    (shift : ∀ {x xs v new v' seen}, holds (x :: xs) v seen → v.Shift decode x new v' →
      holds xs v' (seen ++ new))
    {s : DisplayThreads δ} {steps : List DisplayStep} {seen : List (DisplayObservation δ)}
    (first : holds steps s.flow seen) :
    holds [] (s.run decode steps).2.flow (seen ++ (s.run decode steps).1) := by
  induction steps generalizing s seen with
  | nil =>
      rw [run, List.append_nil]
      exact first
  | cons x steps ih =>
      have later := ih (shift first (s.shift_step decode x))
      rw [List.append_assoc] at later
      exact later

end DisplayThreads

end Screencast
