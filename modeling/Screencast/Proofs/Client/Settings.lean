import Screencast.Client.Script
import Screencast.Proofs.Client.DisplayThreads

/-! # Settings on their way to the renderer

Cursor, mouse mode and stretching wait in the slot, each with a bit for the render thread to look at
it again. The thread takes all bits at once and passes the settings on later, unless the pipeline is
stopped in between. What is set meanwhile raises its bit anew.

What a step can do to the settings is said once (`Screencast.DisplayThreads.settings_step`). From it
follows that a setting whose bit is clear is the one that the renderer was told last, so that a pass
leaves the renderer with all settings as they were when it looked
(`Screencast.DisplayThreads.settings_reach_renderer`).
-/

namespace Screencast

namespace CursorStore

/-- The image that a shape stands for, to a client that remembers some bitmaps. -/
inductive Means (store : CursorStore) : CursorShape → CursorImage → Prop
  | preset (id : UInt32) : Means store (.preset id) (.preset id)
  | bitmap (bitmap : CursorBitmap) (id : UInt32) : Means store (.bitmap bitmap id) (.bitmap bitmap)
  | cached {id : UInt32} {bitmap : CursorBitmap} (known : store.find? id = some bitmap) :
      Means store (.cached id) (.bitmap bitmap)

/-- A cursor whose shape stands for an image is resolved to that image. -/
theorem resolve_of_means {store : CursorStore} {info : CursorInfo} {image : CursorImage}
    (means : store.Means info.shape image) :
    (store.resolve info).1 = some ⟨info.x, info.y, info.visible, image⟩ := by
  obtain ⟨x, y, visible, shape⟩ := info
  cases means with
  | preset | bitmap => rfl
  | cached known =>
      change (store.find? _).map _ = _
      rw [known]
      rfl

/-- The cursors that messages tell of. One that names an unknown bitmap tells of none. -/
def heard (store : CursorStore) : List CursorInfo → List CursorState
  | [] => []
  | info :: infos => (store.resolve info).1.toList ++ (store.resolve info).2.heard infos

end CursorStore

namespace DisplayStep

/-- The cursor that is set in a step. -/
def cursor? : DisplayStep → Option CursorInfo
  | call (.setCursor info) => some info
  | _ => none

/-- The mouse mode that is set in a step. -/
def mouseMode? : DisplayStep → Option MouseMode
  | call (.setMouseMode mode) => some mode
  | _ => none

/-- How a step sets the stretching. -/
def stretch? : DisplayStep → Option Bool
  | call (.setStretch stretch) => some stretch
  | _ => none

end DisplayStep

namespace RenderSlot

/-- What the settings are after some more steps. -/
def latest (slot : RenderSlot) (steps : List DisplayStep) :
    Option CursorState × MouseMode × Bool :=
  ((slot.store.heard (steps.filterMap (·.cursor?))).getLast?.or slot.cursor,
    (steps.filterMap (·.mouseMode?)).getLast?.getD slot.mouseMode,
    (steps.filterMap (·.stretch?)).getLast?.getD slot.stretch)

/-- The renderer was told of every setting that has no bit. -/
structure UpToDate (slot : RenderSlot) (r : HeadlessRenderer) : Prop where
  cursor : slot.wake.cursor = false → r.lastCursor = slot.cursor
  mouseMode : slot.wake.mouseMode = false → r.mouseMode = slot.mouseMode
  stretch : slot.wake.stretch = false → r.stretch = slot.stretch

/-- The slot without its pictures. -/
def bare (slot : RenderSlot) : RenderSlot :=
  { slot with smoother := {}, wake := { slot.wake with frame := false } }

/-- What the render thread passes on if it looks now. -/
def due (slot : RenderSlot) : List RenderAction :=
  (if slot.wake.cursor then slot.cursor else none).toList.map .cursor ++
    (if slot.wake.mouseMode then [.mouseMode slot.mouseMode] else []) ++
    (if slot.wake.stretch then [.stretch slot.stretch] else [])

variable {slot : RenderSlot} {r : HeadlessRenderer}

private theorem settings_read (slot : RenderSlot) (now : UInt64) :
    (slot.read now).1.settings = slot.bare.due := rfl

private theorem bare_read (slot : RenderSlot) (now : UInt64) :
    (slot.read now).2.bare = slot.bare.takeWake.2 := rfl

private theorem bare_pushFrame (slot : RenderSlot) (f : WaitingFrame) :
    (slot.pushFrame f).bare = slot.bare := by
  simp only [pushFrame, addWake, Wake.union, bare, Bool.or_false]

/-- The renderer is told of the settings that have a bit, and keeps the others. -/
theorem settings_due (slot : RenderSlot) (r : HeadlessRenderer) :
    let told := slot.due.foldl HeadlessRenderer.observe r
    told.lastCursor = (if slot.wake.cursor then slot.cursor else none).or r.lastCursor ∧
    told.mouseMode = (if slot.wake.mouseMode then slot.mouseMode else r.mouseMode) ∧
    told.stretch = (if slot.wake.stretch then slot.stretch else r.stretch) := by
  unfold due
  generalize (if slot.wake.cursor then slot.cursor else none) = cursor
  cases cursor <;> cases slot.wake.mouseMode <;> cases slot.wake.stretch <;>
    exact ⟨rfl, rfl, rfl⟩

/-- Each of the bits taken is made good by what is passed on. -/
theorem UpToDate.look (upToDate : slot.UpToDate r)
    (known : slot.wake.cursor = true → slot.cursor ≠ none) :
    slot.takeWake.2.UpToDate (slot.due.foldl HeadlessRenderer.observe r) := by
  obtain ⟨cursor, mouseMode, stretch⟩ := slot.settings_due r
  refine ⟨fun _ => cursor.trans ?_, fun _ => mouseMode.trans ?_, fun _ => stretch.trans ?_⟩
  · cases bit : slot.wake.cursor with
    | true =>
        obtain ⟨state, is⟩ := Option.ne_none_iff_exists'.mp (known bit)
        rw [if_pos rfl, is, Option.some_or]
        exact is.symm
    | false => exact upToDate.cursor bit
  · cases bit : slot.wake.mouseMode with
    | true => rfl
    | false => exact upToDate.mouseMode bit
  · cases bit : slot.wake.stretch with
    | true => rfl
    | false => exact upToDate.stretch bit

end RenderSlot

namespace DisplayObservation

variable {δ : Type}

/-- What the render thread does in the passes that are seen. -/
def actions (seen : List (DisplayObservation δ)) : List RenderAction :=
  (passes seen).flatMap (·.actions)

private theorem actions_passed (pass : ScreenPass δ) : actions [passed pass] = pass.actions :=
  List.append_nil pass.actions

end DisplayObservation

namespace HeadlessRenderer

variable {δ : Type}

/-- A renderer as it is when a pipeline has been created around it: told how to stretch, and
nothing else. -/
def handedOver (r : HeadlessRenderer) (n : Negotiated) : HeadlessRenderer :=
  { r with mouseMode := .absolute, lastCursor := none }.observe (.stretch n.stretch)

/-- The renderer after the passes that are seen. -/
def after (r : HeadlessRenderer) (seen : List (DisplayObservation δ)) : HeadlessRenderer :=
  (DisplayObservation.actions seen).foldl observe r

private theorem after_append (r : HeadlessRenderer) (first second : List (DisplayObservation δ)) :
    r.after (first ++ second) = (r.after first).after second := by
  unfold after DisplayObservation.actions
  rw [DisplayObservation.passes_append, List.flatMap_append, List.foldl_append]

end HeadlessRenderer

/-- Whether the renderer is told of a setting. -/
def RenderAction.isSetting : RenderAction → Bool
  | cursor _ | mouseMode _ | stretch _ => true
  | _ => false

/-- All else leaves the settings as they are. -/
theorem RenderSlot.UpToDate.observe {slot : RenderSlot} {r : HeadlessRenderer}
    (upToDate : slot.UpToDate r) {actions : List RenderAction}
    (other : ∀ action ∈ actions, action.isSetting = false) :
    slot.UpToDate (actions.foldl HeadlessRenderer.observe r) := by
  induction actions generalizing r with
  | nil => exact upToDate
  | cons action actions ih =>
      have kept : slot.UpToDate (r.observe action) := by
        have plain := other action (List.mem_cons_self ..)
        obtain ⟨cursor, mouseMode, stretch⟩ := upToDate
        cases action with
        | cursor | mouseMode | stretch => cases plain
        | rendered resource outcome =>
            simp only [HeadlessRenderer.observe, HeadlessRenderer.render]
            split
            · exact ⟨cursor, mouseMode, stretch⟩
            · exact ⟨cursor, mouseMode, stretch⟩
        | targetReset | presented | overlayRendered | overlayReset =>
            exact ⟨cursor, mouseMode, stretch⟩
      exact ih kept fun action' among => other action' (List.mem_cons_of_mem action among)

/-- What a call does to the slot. -/
def OwnerCall.set (slot : RenderSlot) : OwnerCall → RenderSlot
  | setCursor info => slot.setCursor info
  | setMouseMode mode => slot.setMouseMode mode
  | setStretch stretch => slot.setStretch stretch
  | _ => slot

namespace OwnerCall

variable {slot : RenderSlot} {r : HeadlessRenderer}

private theorem apply_slot (c : ClientPipeline) (call : OwnerCall) :
    (call.apply c).slot = call.set c.slot := by
  cases call <;> rfl

private theorem running_of_apply {c : ClientPipeline} {call : OwnerCall}
    (running : (call.apply c).running = true) : c.running = true := by
  cases call with
  | close => cases running
  | update | setCursor | setMouseMode | setStretch | loseTarget | stopListening => exact running

/-- A cursor that names an unknown bitmap changes nothing. -/
theorem setCursor_cases (slot : RenderSlot) (info : CursorInfo) :
    (slot.store.resolve info = (none, slot.store) ∧ slot.setCursor info = slot) ∨
      ∃ state store, slot.store.resolve info = (some state, store) ∧
        slot.setCursor info =
          { slot with store, cursor := some state }.addWake { cursor := true } := by
  rcases resolved : slot.store.resolve info with ⟨_ | state, store⟩
  · left
    have same : store = slot.store := by
      rcases info with ⟨x, y, visible, preset | full | id⟩
      · cases resolved
      · cases resolved
      · exact (congrArg Prod.snd resolved).symm
    subst same
    refine ⟨rfl, ?_⟩
    rw [RenderSlot.setCursor, resolved]
  · right
    refine ⟨state, store, rfl, ?_⟩
    rw [RenderSlot.setCursor, resolved]

private theorem bare_set (slot : RenderSlot) (call : OwnerCall) :
    (call.set slot).bare = call.set slot.bare := by
  cases call with
  | setCursor info =>
      simp only [set, RenderSlot.setCursor]
      rw [show slot.bare.store = slot.store from rfl]
      rcases slot.store.resolve info with ⟨_ | state, store⟩
      · rfl
      · rfl
  | update | setMouseMode | setStretch | loseTarget | stopListening | close => rfl

/-- A call that changes a setting raises its bit. -/
theorem upToDate_set (upToDate : slot.UpToDate r) (call : OwnerCall) :
    (call.set slot).UpToDate r := by
  obtain ⟨cursor, mouseMode, stretch⟩ := upToDate
  cases call with
  | setCursor info =>
      rcases setCursor_cases slot info with ⟨-, same⟩ | ⟨state, store, -, changed⟩
      · rw [set, same]
        exact ⟨cursor, mouseMode, stretch⟩
      · rw [set, changed]
        exact ⟨fun clear => absurd (Bool.or_eq_false_iff.mp clear).2 Bool.noConfusion,
          fun clear => mouseMode (Bool.or_eq_false_iff.mp clear).1,
          fun clear => stretch (Bool.or_eq_false_iff.mp clear).1⟩
  | setMouseMode mode =>
      exact ⟨fun clear => cursor (Bool.or_eq_false_iff.mp clear).1,
        fun clear => absurd (Bool.or_eq_false_iff.mp clear).2 Bool.noConfusion,
        fun clear => stretch (Bool.or_eq_false_iff.mp clear).1⟩
  | setStretch value =>
      exact ⟨fun clear => cursor (Bool.or_eq_false_iff.mp clear).1,
        fun clear => mouseMode (Bool.or_eq_false_iff.mp clear).1,
        fun clear => absurd (Bool.or_eq_false_iff.mp clear).2 Bool.noConfusion⟩
  | update | loseTarget | stopListening | close => exact ⟨cursor, mouseMode, stretch⟩

/-- The bit of the cursor is not raised before there is one. -/
theorem known_set (known : slot.wake.cursor = true → slot.cursor ≠ none) (call : OwnerCall) :
    (call.set slot).wake.cursor = true → (call.set slot).cursor ≠ none := by
  cases call with
  | setCursor info =>
      rcases setCursor_cases slot info with ⟨-, same⟩ | ⟨state, store, -, changed⟩
      · rw [set, same]
        exact known
      · rw [set, changed]
        exact fun _ => Option.some_ne_none state
  | setMouseMode | setStretch =>
      simpa only [set, RenderSlot.setMouseMode, RenderSlot.setStretch, RenderSlot.addWake,
        Wake.union, Bool.or_false] using known
  | update | loseTarget | stopListening | close => exact known

/-- A call that was made counts like one to be made first. -/
theorem latest_set (slot : RenderSlot) (call : OwnerCall) (steps : List DisplayStep) :
    (call.set slot).latest steps = slot.latest (.call call :: steps) := by
  cases call with
  | setCursor info =>
      have first : slot.latest (.call (.setCursor info) :: steps) =
          (((slot.store.resolve info).1.toList ++ (slot.store.resolve info).2.heard
              (steps.filterMap (·.cursor?))).getLast?.or slot.cursor,
            (slot.latest steps).2) := rfl
      rw [first]
      rcases setCursor_cases slot info with ⟨resolved, same⟩ | ⟨state, store, resolved, changed⟩
      · rw [set, same, resolved]
        rfl
      · rw [set, changed, resolved, List.getLast?_append, Option.or_assoc]
        rfl
  | setMouseMode mode =>
      simp only [RenderSlot.latest, List.filterMap_cons, DisplayStep.cursor?,
        DisplayStep.mouseMode?, DisplayStep.stretch?, List.getLast?_cons, Option.getD_some]
      rfl
  | setStretch value =>
      simp only [RenderSlot.latest, List.filterMap_cons, DisplayStep.cursor?,
        DisplayStep.mouseMode?, DisplayStep.stretch?, List.getLast?_cons, Option.getD_some]
      rfl
  | update | loseTarget | stopListening | close => rfl

end OwnerCall

namespace RenderPass

private theorem draw_plain (p : RenderPass) (r : Resource) :
    ∀ action ∈ (p.draw r).1, action.isSetting = false := by
  unfold draw
  cases p.render r with
  | success =>
      intro action among
      rcases List.mem_cons.mp among with rfl | presented
      · rfl
      · rw [List.mem_singleton.mp presented]
        rfl
  | reset | failed =>
      intro action among
      rw [List.mem_singleton.mp among]
      rfl

private theorem resetOverlays_plain (p : RenderPass) :
    ∀ action ∈ p.resetOverlays, action.isSetting = false := by
  intro action among
  obtain ⟨index, -, rfl⟩ := List.mem_map.mp among
  rfl

private theorem drawOverlays_plain (p : RenderPass) (stats : RenderStats) :
    ∀ action ∈ p.drawOverlays stats, action.isSetting = false := by
  intro action among
  obtain ⟨⟨outcome, index⟩, -, done⟩ := List.mem_flatMap.mp among
  rcases List.mem_cons.mp done with rfl | again
  · rfl
  · split at again
    · rw [List.mem_singleton.mp again]
      rfl
    · cases again

end RenderPass

namespace ClientPipeline

private theorem react_running (c : ClientPipeline) (f : QueuedFrame) (answer : DecodedFrame) :
    (c.react f answer).2.running = c.running := by
  rcases answer with ⟨_ | _ | _ | _, _ | r⟩ <;> rfl

private theorem reportTransport_running (c : ClientPipeline) (p : RenderPass) :
    (c.reportTransport p).2.running = c.running := by
  unfold reportTransport
  split
  · split
    · rfl
    · rfl
  · rfl

private theorem showPicture_running (c : ClientPipeline) (p : RenderPass) (r : Resource)
    (f : Option WaitingFrame) : (c.showPicture p r f).2.2.running = c.running := by
  unfold showPicture
  rcases p.draw r with ⟨actions, _ | _ | _⟩
  · exact (c.recordShown p r f).reportTransport_running p
  · rfl
  · rfl

/-- No setting is passed on while a picture is drawn. -/
theorem showPicture_plain (c : ClientPipeline) (p : RenderPass) (r : Resource)
    (f : Option WaitingFrame) : ∀ action ∈ (c.showPicture p r f).1, action.isSetting = false := by
  have draw := p.draw_plain r
  unfold showPicture
  rcases drawing : p.draw r with ⟨actions, outcome⟩
  rw [drawing] at draw
  cases outcome with
  | success => exact List.forall_mem_append.mpr ⟨draw, p.drawOverlays_plain _⟩
  | reset => exact List.forall_mem_append.mpr ⟨draw, p.resetOverlays_plain⟩
  | failed => exact draw

private theorem showReading_running (c : ClientPipeline) (p : RenderPass) (reading : SlotReading) :
    (c.showReading p reading).2.2.running = c.running := by
  unfold showReading
  cases (reading.frame.map (·.resource)).or c.last with
  | none => rfl
  | some r => exact c.showPicture_running p r reading.frame

/-- First the settings are passed on. -/
theorem showReading_tells (c : ClientPipeline) (p : RenderPass) (reading : SlotReading) :
    ∃ drawn, (c.showReading p reading).1 = reading.settings ++ drawn ∧
      ∀ action ∈ drawn, action.isSetting = false := by
  unfold showReading
  cases (reading.frame.map (·.resource)).or c.last with
  | none => exact ⟨[], (List.append_nil _).symm, nofun⟩
  | some r => exact ⟨_, rfl, c.showPicture_plain p r reading.frame⟩

end ClientPipeline

/-- Settings on their way to the renderer. -/
structure SettingsFlow where
  /-- The slot without its pictures. -/
  slot : RenderSlot
  /-- What the render thread has read and not passed on yet. -/
  told : Option (List RenderAction)
  running : Bool

namespace SettingsFlow

/-- What a step can do to the settings, and what the renderer is told in it. -/
inductive Shift (v : SettingsFlow) : DisplayStep → List RenderAction → SettingsFlow → Prop
  | still (x : DisplayStep) (other : ∀ call, x ≠ .call call) (idle : x = .draw → v.told = none) :
      Shift v x [] v
  | called (call : OwnerCall) {running : Bool} (going : running = true → v.running = true) :
      Shift v (.call call) [] { v with slot := call.set v.slot, running }
  | looked (p : RenderPass) (idle : v.told = none) :
      Shift v (.look p) [] { v with slot := v.slot.takeWake.2, told := some v.slot.due }
  | drew {told : List RenderAction} (held : v.told = some told) {drawn : List RenderAction}
      (plain : ∀ action ∈ drawn, action.isSetting = false) :
      Shift v .draw (told ++ drawn) { v with told := none }
  /-- The pipeline was stopped between the look and the drawing. -/
  | gaveUp {told : List RenderAction} (held : v.told = some told) (stopped : v.running = false) :
      Shift v .draw [] { v with told := none }

end SettingsFlow

namespace DisplayThreads

variable {δ : Type}

/-- The settings of a pipeline with its threads. -/
def settings (s : DisplayThreads δ) : SettingsFlow :=
  ⟨s.pipeline.slot.bare, s.glance.map (·.reading.settings), s.pipeline.running⟩

open SettingsFlow in
/-- Each step of the threads and of the owner does to the settings what can be done to them. -/
theorem settings_step (decode : δ → EncodedFrame → DecodedFrame × δ) (s : DisplayThreads δ)
    (x : DisplayStep) :
    Shift s.settings x (DisplayObservation.actions (s.step decode x).1)
      (s.step decode x).2.settings := by
  obtain ⟨pipeline, decoder, unpublished, glance⟩ := s
  have still (x : DisplayStep) (other : ∀ call, x ≠ .call call) (waits : x ≠ .draw) :
      Shift (settings ⟨pipeline, decoder, unpublished, glance⟩) x []
        (settings ⟨pipeline, decoder, unpublished, glance⟩) :=
    .still x other fun draw => absurd draw waits
  -- Pictures move in all steps but the owner's; the settings go by the owner's calls and by passes.
  cases x with
  | decode f =>
      have still := still (.decode f) (fun _ => DisplayStep.noConfusion) DisplayStep.noConfusion
      simp only [step]
      by_cases may : (unpublished.isNone && pipeline.decoding) = true
      · rw [if_pos may]
        rcases answered : decode decoder f.frame with ⟨answer, after⟩
        cases picture : answer.picture? with
        | some r => exact still
        | none =>
            obtain ⟨slot, -⟩ := pipeline.react_of_no_picture f picture
            simp only [settings, slot, pipeline.react_running]
            exact still
      · rw [if_neg may]
        exact still
  | publish =>
      have still := still .publish (fun _ => DisplayStep.noConfusion) DisplayStep.noConfusion
      cases unpublished with
      | none => exact still
      | some held =>
          obtain ⟨f, r⟩ := held
          simp only [step, settings, ClientPipeline.publish, RenderSlot.bare_pushFrame]
          exact still
  | look p =>
      have still := still (.look p) (fun _ => DisplayStep.noConfusion) DisplayStep.noConfusion
      simp only [step]
      by_cases may : (glance.isNone && (pipeline.running && pipeline.rendering)) = true
      · rw [if_pos may]
        obtain rfl := Option.isNone_iff_eq_none.mp (Bool.and_eq_true_iff.mp may).1
        obtain ⟨slot, -, running⟩ := pipeline.restoreTarget_keeps p
        by_cases ready : ((pipeline.restoreTarget p).2.2.rendering && p.ready) = true
        · rw [if_pos ready]
          simp only [settings, slot, running, Option.map_some, RenderSlot.settings_read,
            RenderSlot.bare_read]
          exact .looked p rfl
        · rw [if_neg ready]
          simp only [settings, slot, running]
          exact still
      · rw [if_neg may]
        exact still
  | draw =>
      cases glance with
      | none => exact .still _ (fun _ => DisplayStep.noConfusion) fun _ => rfl
      | some g =>
          simp only [step]
          by_cases running : pipeline.running = true
          · rw [if_pos running]
            obtain ⟨-, slot, -⟩ := pipeline.showReading_shows g.pass g.reading
            obtain ⟨drawn, tells, plain⟩ := pipeline.showReading_tells g.pass g.reading
            simp only [settings, slot, pipeline.showReading_running]
            rw [DisplayObservation.actions_passed, tells]
            exact .drew rfl plain
          · rw [if_neg running]
            exact .gaveUp rfl (Bool.not_eq_true _ ▸ running)
  | call c =>
      simp only [step, settings, c.apply_slot, c.bare_set]
      exact .called c OwnerCall.running_of_apply

/-- What holds at first, and is kept by whatever can be done to the settings, holds after a run. -/
theorem settings_after_run (decode : δ → EncodedFrame → DecodedFrame × δ) (s : DisplayThreads δ)
    (steps : List DisplayStep) (r : HeadlessRenderer)
    (holds : List DisplayStep → SettingsFlow → HeadlessRenderer → Prop)
    (shift : ∀ {x xs v actions v' r}, holds (x :: xs) v r → v.Shift x actions v' →
      holds xs v' (actions.foldl HeadlessRenderer.observe r))
    (first : holds steps s.settings r) :
    holds [] (s.run decode steps).2.settings (r.after (s.run decode steps).1) := by
  induction steps generalizing s r with
  | nil => exact first
  | cons x steps ih =>
      rw [run, HeadlessRenderer.after_append]
      exact ih _ _ (shift first (s.settings_step decode x))

private theorem run_append (decode : δ → EncodedFrame → DecodedFrame × δ) (s : DisplayThreads δ)
    (first second : List DisplayStep) :
    s.run decode (first ++ second) =
      ((s.run decode first).1 ++ ((s.run decode first).2.run decode second).1,
        ((s.run decode first).2.run decode second).2) := by
  induction first generalizing s with
  | nil => rfl
  | cons x first ih => simp only [List.cons_append, run, ih, List.append_assoc]

end DisplayThreads

namespace SettingsFlow

variable {v v' : SettingsFlow} {x : DisplayStep} {actions : List RenderAction}
  {r : HeadlessRenderer}

/-- No setting is lost: once the renderer has been told what was read, it is told of every setting
that has no bit. -/
structure Kept (v : SettingsFlow) (r : HeadlessRenderer) : Prop where
  known : v.slot.wake.cursor = true → v.slot.cursor ≠ none
  upToDate : v.running = true →
    v.slot.UpToDate ((v.told.getD []).foldl HeadlessRenderer.observe r)

/-- Whatever is done to the settings, none is lost. -/
theorem Kept.shift (kept : v.Kept r) (shift : v.Shift x actions v') :
    v'.Kept (actions.foldl HeadlessRenderer.observe r) := by
  cases shift with
  | still => exact kept
  | called call going =>
      exact ⟨call.known_set kept.known,
        fun running => call.upToDate_set (kept.upToDate (going running))⟩
  | looked p idle =>
      have before := kept.upToDate
      rw [idle] at before
      exact ⟨Bool.noConfusion, fun running => (before running).look kept.known⟩
  | drew held plain =>
      have before := kept.upToDate
      rw [held] at before
      rw [List.foldl_append]
      exact ⟨kept.known, fun running => (before running).observe plain⟩
  | gaveUp held stopped =>
      exact ⟨kept.known, fun running => absurd running (Bool.eq_false_iff.mp stopped)⟩

/-- What is going to be set stays the same. -/
theorem latest_shift {steps : List DisplayStep} (shift : v.Shift x actions v') :
    v'.slot.latest steps = v.slot.latest (x :: steps) := by
  cases shift with
  | still x other =>
      cases x with
      | call call => exact absurd rfl (other call)
      | decode | publish | look | draw => rfl
  | called call => exact call.latest_set v.slot steps
  | looked => rfl
  | drew => rfl
  | gaveUp => rfl

/-- A look that reads the slot takes all bits. -/
theorem Shift.of_look {p : RenderPass} (shift : v.Shift (.look p) actions v')
    (idle : v.told = none) (read : v'.told ≠ none) :
    actions = [] ∧ v' = { v with slot := v.slot.takeWake.2, told := some v.slot.due } := by
  cases shift with
  | still => exact absurd idle read
  | looked => exact ⟨rfl, rfl⟩

/-- What was read waits until the render thread draws. -/
theorem Shift.before_draw (shift : v.Shift x actions v') (other : x ≠ .draw)
    {told : List RenderAction} (held : v.told = some told) :
    actions = [] ∧ v'.told = some told ∧ (v'.running = true → v.running = true) := by
  cases shift with
  | still => exact ⟨rfl, held, id⟩
  | called call going => exact ⟨rfl, held, going⟩
  | looked p idle => cases idle.symm.trans held
  | drew => exact absurd rfl other
  | gaveUp => exact absurd rfl other

/-- Drawing begins with what was read, as long as the pipeline runs. -/
theorem Shift.of_draw (shift : v.Shift .draw actions v') {told : List RenderAction}
    (held : v.told = some told) (running : v'.running = true) :
    v.running = true ∧ ∃ drawn, actions = told ++ drawn ∧
      ∀ action ∈ drawn, action.isSetting = false := by
  cases shift with
  | still x other idle => cases (idle rfl).symm.trans held
  | drew held' plain =>
      cases held.symm.trans held'
      exact ⟨running, _, rfl, plain⟩
  | gaveUp held' stopped => cases running.symm.trans stopped

end SettingsFlow

namespace DisplayThreads

variable {δ : Type} {decode : δ → EncodedFrame → DecodedFrame × δ}

/-- A pipeline whose owner made some calls before it started the threads. -/
def startedAfter (instanceId : Nat) (n : Negotiated) (decoder : δ) (early : List OwnerCall) :
    DisplayThreads δ :=
  { pipeline := (early.foldl OwnerCall.apply (ClientPipeline.new instanceId n)).start.2, decoder }

private theorem slot_start (c : ClientPipeline) : c.start.2.slot = c.slot := by
  unfold ClientPipeline.start
  split
  · rfl
  · rfl

private theorem slot_startedAfter (instanceId : Nat) (n : Negotiated) (decoder : δ)
    (early : List OwnerCall) :
    (startedAfter instanceId n decoder early).settings.slot =
      early.foldl OwnerCall.set (.new n.stretch) := by
  have calls : ∀ c : ClientPipeline,
      (early.foldl OwnerCall.apply c).slot.bare = early.foldl OwnerCall.set c.slot.bare := by
    intro c
    induction early generalizing c with
    | nil => rfl
    | cons call early ih =>
        rw [List.foldl_cons, ih, call.apply_slot, call.bare_set, List.foldl_cons]
  have started : (startedAfter instanceId n decoder early).settings.slot =
      (early.foldl OwnerCall.apply (ClientPipeline.new instanceId n)).start.2.slot.bare := rfl
  rw [started, slot_start, calls]
  rfl

/-- Calls before the start lose no setting either. -/
theorem kept_startedAfter (instanceId : Nat) (n : Negotiated) (decoder : δ)
    (early : List OwnerCall) (r : HeadlessRenderer) :
    (startedAfter instanceId n decoder early).settings.Kept (r.handedOver n) := by
  have calls : ∀ slot : RenderSlot, (slot.wake.cursor = true → slot.cursor ≠ none) →
      slot.UpToDate (r.handedOver n) →
      ((early.foldl OwnerCall.set slot).wake.cursor = true →
        (early.foldl OwnerCall.set slot).cursor ≠ none) ∧
      (early.foldl OwnerCall.set slot).UpToDate (r.handedOver n) := by
    intro slot known upToDate
    induction early generalizing slot with
    | nil => exact ⟨known, upToDate⟩
    | cons call early ih => exact ih _ (call.known_set known) (call.upToDate_set upToDate)
  obtain ⟨known, upToDate⟩ := calls (.new n.stretch) Bool.noConfusion
    ⟨fun _ => rfl, fun _ => rfl, fun _ => rfl⟩
  rw [← slot_startedAfter instanceId n decoder early] at known upToDate
  exact ⟨known, fun _ => upToDate⟩

private theorem latest_startedAfter (instanceId : Nat) (n : Negotiated) (decoder : δ)
    (early : List OwnerCall) (steps : List DisplayStep) :
    (startedAfter instanceId n decoder early).settings.slot.latest steps =
      (RenderSlot.new n.stretch).latest (early.map .call ++ steps) := by
  have calls : ∀ slot : RenderSlot, (early.foldl OwnerCall.set slot).latest steps =
      slot.latest (early.map .call ++ steps) := by
    intro slot
    induction early generalizing slot with
    | nil => rfl
    | cons call early ih => exact (ih _).trans (call.latest_set slot _)
  rw [slot_startedAfter, calls]

/-- The slot holds what was set last. -/
theorem latest_run (decode : δ → EncodedFrame → DecodedFrame × δ) (s : DisplayThreads δ)
    (steps : List DisplayStep) :
    (s.run decode steps).2.settings.slot.latest [] = s.settings.slot.latest steps :=
  settings_after_run decode s steps {}
    (fun later v _ => v.slot.latest later = s.settings.slot.latest steps)
    (fun same shift => (SettingsFlow.latest_shift shift).trans same) rfl

/-- What was read waits, and the renderer is told nothing, until the render thread draws. -/
theorem run_before_draw (decode : δ → EncodedFrame → DecodedFrame × δ) {s : DisplayThreads δ}
    {steps : List DisplayStep} (other : ∀ x ∈ steps, x ≠ .draw) {told : List RenderAction}
    (held : s.settings.told = some told) (r : HeadlessRenderer) :
    (s.run decode steps).2.settings.told = some told ∧ r.after (s.run decode steps).1 = r ∧
      ((s.run decode steps).2.settings.running = true → s.settings.running = true) := by
  have waits := settings_after_run decode s steps r
    (fun later v r' => (∀ x ∈ later, x ≠ .draw) ∧ v.told = some told ∧ r' = r ∧
      (v.running = true → s.settings.running = true))
    (by
      rintro x later v actions v' r' ⟨undrawn, held, rfl, going⟩ shift
      obtain ⟨rfl, held', before⟩ := shift.before_draw (undrawn x (List.mem_cons_self ..)) held
      exact ⟨fun y among => undrawn y (List.mem_cons_of_mem x among), held', rfl,
        fun running => going (before running)⟩)
    ⟨other, held, rfl, id⟩
  exact waits.2

/-- What is read is shown, whatever happens before the render thread draws. -/
theorem pass_shows {s : DisplayThreads δ} {r : HeadlessRenderer} (kept : s.settings.Kept r)
    {p : RenderPass} {meanwhile : List DisplayStep} (idle : s.glance = none)
    (read : (s.step decode (.look p)).2.glance ≠ none) (other : ∀ x ∈ meanwhile, x ≠ .draw)
    (running : (s.run decode (.look p :: meanwhile ++ [.draw])).2.pipeline.running = true) :
    s.settings.slot.takeWake.2.UpToDate
      (r.after (s.run decode (.look p :: meanwhile ++ [.draw])).1) := by
  have told : s.settings.told = none := congrArg (Option.map _) idle
  obtain ⟨silent, looked⟩ := (s.settings_step decode (.look p)).of_look told
    (fun nothing => read (Option.map_eq_none_iff.mp nothing))
  rcases looking : s.step decode (.look p) with ⟨seen, s₁⟩
  rw [looking] at silent looked
  have held : s₁.settings.told = some s.settings.slot.due := congrArg SettingsFlow.told looked
  obtain ⟨held', same, going⟩ := run_before_draw decode other held r
  rcases waiting : s₁.run decode meanwhile with ⟨meant, s₂⟩
  rw [waiting] at held' same going
  have draws := s₂.settings_step decode .draw
  rcases drawing : s₂.step decode .draw with ⟨drawn, s₃⟩
  rw [drawing] at draws
  have pass : s.run decode (.look p :: meanwhile ++ [.draw]) = (seen ++ meant ++ drawn, s₃) := by
    simp only [run_append, run, looking, waiting, drawing, List.append_nil]
  rw [pass] at running ⊢
  obtain ⟨running₂, more, tells, plain⟩ := draws.of_draw held' running
  have running₀ : s.settings.running = true := by
    have running₁ := going running₂
    rw [looked] at running₁
    exact running₁
  have before := kept.upToDate running₀
  rw [told] at before
  have first : r.after seen = r := by
    rw [HeadlessRenderer.after, silent]
    rfl
  have last : r.after drawn = (s.settings.slot.due ++ more).foldl HeadlessRenderer.observe r := by
    rw [HeadlessRenderer.after, tells]
  rw [HeadlessRenderer.after_append, HeadlessRenderer.after_append, first, same, last,
    List.foldl_append]
  exact (before.look kept.known).observe plain

/-- **No setting is lost.** The settings in the slot are those that were set last, before and after
the threads were started. Between two passes of a pipeline that runs, the renderer was told last of
every setting whose bit is clear. A pass that reads the slot leaves it with all settings as they
were then, whatever happens until it draws. A cursor that names an unknown bitmap changes nothing;
one of the system's, one with its bitmap and one that names a known bitmap become the slot's and
raise the bit. -/
theorem settings_reach_renderer (decode : δ → EncodedFrame → DecodedFrame × δ) (instanceId : Nat)
    (n : Negotiated) (decoder : δ) (r : HeadlessRenderer) (early : List OwnerCall)
    (steps : List DisplayStep) :
    let ran := (startedAfter instanceId n decoder early).run decode steps
    let renderer := (r.handedOver n).after ran.1
    let s := ran.2
    let slot := s.pipeline.slot
    (slot.cursor, slot.mouseMode, slot.stretch) =
      (RenderSlot.new n.stretch).latest (early.map .call ++ steps) ∧
    (s.glance = none → s.pipeline.running = true → slot.UpToDate renderer) ∧
    (∀ p meanwhile, s.glance = none → (s.step decode (.look p)).2.glance ≠ none →
      (∀ x ∈ meanwhile, x ≠ .draw) →
      let pass := s.run decode (.look p :: meanwhile ++ [.draw])
      let renderer := renderer.after pass.1
      pass.2.pipeline.running = true →
      renderer.lastCursor = slot.cursor ∧ renderer.mouseMode = slot.mouseMode ∧
        renderer.stretch = slot.stretch) ∧
    (∀ info id, info.shape = .cached id → slot.store.find? id = none →
      s.step decode (.call (.setCursor info)) = ([], s)) ∧
    ∀ info image, slot.store.Means info.shape image →
      let told := (s.step decode (.call (.setCursor info))).2.pipeline.slot
      told.cursor = some ⟨info.x, info.y, info.visible, image⟩ ∧ told.wake.cursor = true := by
  intro ran renderer s slot
  have kept := settings_after_run decode (startedAfter instanceId n decoder early) steps
    (r.handedOver n) (fun _ v r => v.Kept r) SettingsFlow.Kept.shift
    (kept_startedAfter instanceId n decoder early r)
  refine ⟨?_, ?_, ?_, ?_, ?_⟩
  · have latest := latest_run decode (startedAfter instanceId n decoder early) steps
    rw [latest_startedAfter] at latest
    exact latest
  · intro idle running
    have told : s.settings.told = none := congrArg (Option.map _) idle
    have upToDate := kept.upToDate running
    rw [told] at upToDate
    exact ⟨upToDate.cursor, upToDate.mouseMode, upToDate.stretch⟩
  · intro p meanwhile idle read other pass renderer' running
    obtain ⟨cursor, mouseMode, stretch⟩ := pass_shows kept idle read other running
    exact ⟨cursor rfl, mouseMode rfl, stretch rfl⟩
  · intro info id shape unknown
    have unresolved : slot.store.resolve info = (none, slot.store) := by
      rw [CursorStore.resolve, shape]
      simp only [unknown, Option.map_none]
    rcases OwnerCall.setCursor_cases slot info with ⟨-, same⟩ | ⟨state, store, resolved, -⟩
    · have unchanged : s.pipeline.setCursor info = s.pipeline := by
        rw [ClientPipeline.setCursor, same]
      rw [step, OwnerCall.apply, unchanged]
    · cases unresolved.symm.trans resolved
  · intro info image means told
    have resolves := CursorStore.resolve_of_means means
    have set : told = slot.setCursor info := rfl
    rcases OwnerCall.setCursor_cases slot info with
      ⟨resolved, -⟩ | ⟨state, store, resolved, changed⟩
    · rw [resolved] at resolves
      cases resolves
    · rw [resolved] at resolves
      rw [set, changed]
      exact ⟨resolves, Bool.or_true _⟩

end DisplayThreads

end Screencast
