import Screencast.Proofs.Lossless.Transmission

/-! # Back in step

An encoder and a decoder with any past behind them come back into step by themselves once whatever
is sent arrives as it is. A keyframe makes the decoder forget what it took for the picture before
(`Screencast.PictureLink.step_of_keyframe`), and no more than four seconds' worth of differences
goes out before the next one (`Screencast.PictureLink.length_deltas_le`).
-/

namespace Screencast

open Wire

/-- What a call sends is a picture of this size, and arrives as it is. -/
def PictureCall.Whole (width height : UInt32) : PictureCall → Prop
  | requestKeyframe | reconfigure _ => True
  | encode f _ damaged => f.packed?.isSome → f.width = width ∧ f.height = height ∧ damaged = none

namespace LosslessEncoder

variable (z : Compression)

/-- The encoder after a call. -/
def afterCall (e : LosslessEncoder) : PictureCall → LosslessEncoder
  | .requestKeyframe => e.requestKeyframe
  | .reconfigure patch => e.reconfigure patch
  | .encode f _ _ => (e.encode z f).2

/-- The encoder after a list of calls. -/
def afterCalls (e : LosslessEncoder) (calls : List PictureCall) : LosslessEncoder :=
  calls.foldl (afterCall z) e

/-- The greatest frame rate in force before, between and after some calls; none counts as one. -/
def peakFps (e : LosslessEncoder) : List PictureCall → Nat
  | [] => max e.params.fps 1
  | c :: calls => max (max e.params.fps 1) ((e.afterCall z c).peakFps calls)

variable {z} {e : LosslessEncoder} {picture : Bytes}

private theorem le_peakFps (e : LosslessEncoder) (calls : List PictureCall) :
    max e.params.fps 1 ≤ e.peakFps z calls := by
  cases calls with
  | nil => exact Nat.le_refl _
  | cons c calls => exact Nat.le_max_left ..

private theorem peakFps_afterCall_le (e : LosslessEncoder) (c : PictureCall)
    (calls : List PictureCall) :
    (e.afterCall z c).peakFps z calls ≤ e.peakFps z (c :: calls) := Nat.le_max_right ..

private theorem advance_sinceKeyframe_of_delta (delta : e.wantsKeyframe picture = false) :
    (e.advance picture).sinceKeyframe = e.sinceKeyframe + 1 := by
  simp only [advance, delta, Bool.false_eq_true, if_false]

/-- A difference goes out only as long as the next keyframe is not due. -/
theorem sinceKeyframe_lt_of_delta (delta : e.wantsKeyframe picture = false) :
    e.sinceKeyframe < 4 * max e.params.fps 1 := by
  obtain ⟨previous, kept, -⟩ := content_of_delta delta
  simp only [wantsKeyframe, kept, Bool.or_eq_false_iff, decide_eq_false_iff_not] at delta
  rw [Nat.mul_comm]
  exact Nat.not_le.mp delta.2

end LosslessEncoder

namespace LosslessDecoder

variable (z : Compression)

/-- The decoder after a list of frames. -/
def afterFrames (d : LosslessDecoder) (frames : List EncodedFrame) : LosslessDecoder :=
  frames.foldl (fun d g => (d.decode z g).2) d

variable {z} {d : LosslessDecoder} {width height : UInt32}

/-- Frames leave the decoder's size alone. -/
theorem Fits.afterFrames (fits : d.Fits width height) (frames : List EncodedFrame) :
    (d.afterFrames z frames).Fits width height := by
  induction frames generalizing d with
  | nil => exact fits
  | cons g frames ih => exact ih (fits.decode g)

end LosslessDecoder

namespace PictureLink

variable (z : Compression)

/-- What a call sends, and what comes of it. -/
def sent? (l : PictureLink) (c : PictureCall) : Option (EncodedOutput × Delivery) :=
  match c, (l.step z c).1 with
  | .encode f _ _, some (.delivered d) => (l.encoder.encode z f).1.map (·, d)
  | _, _ => none

/-- The outputs of a run, each with what comes of it. -/
def sent (l : PictureLink) : List PictureCall → List (EncodedOutput × Delivery)
  | [] => []
  | c :: calls => (l.sent? z c).toList ++ (l.step z c).2.sent calls

variable {z} {l : PictureLink} {width height : UInt32}

private theorem receive_encoder (l : PictureLink) (f : CapturedFrame) (intact : Bool)
    (arrived : Bytes) :
    (l.receive z f intact arrived).2.encoder = l.encoder := by
  unfold receive
  split <;> rfl

private theorem receive_intact (l : PictureLink) (f : CapturedFrame) (intact : Bool)
    (arrived : Bytes) :
    (l.receive z f intact arrived).1.intact = intact := by
  unfold receive
  split <;> rfl

private theorem receive_fits (fits : l.decoder.Fits width height) (f : CapturedFrame)
    (intact : Bool)
    (arrived : Bytes) : (l.receive z f intact arrived).2.decoder.Fits width height := by
  unfold receive
  split
  next g _ => exact fits.decode g
  next => exact fits

/-- A step of the link leaves the decoder's size alone. -/
theorem step_fits (fits : l.decoder.Fits width height) (c : PictureCall) :
    (l.step z c).2.decoder.Fits width height := by
  cases c with
  | requestKeyframe | reconfigure patch => exact fits
  | encode f mark damaged =>
      cases packed : f.packed? with
      | none =>
          simp only [step, LosslessEncoder.encode_of_not_packed packed]
          exact fits
      | some picture =>
          simp only [step, LosslessEncoder.encode_of_packed packed]
          exact receive_fits (l := ⟨l.encoder.advance picture, l.decoder⟩) fits ..

/-- On the link the encoder does what it would do alone. -/
theorem step_encoder (l : PictureLink) (c : PictureCall) :
    (l.step z c).2.encoder = l.encoder.afterCall z c := by
  cases c with
  | requestKeyframe | reconfigure patch => rfl
  | encode f mark damaged =>
      cases packed : f.packed? with
      | none =>
          simp only [step, LosslessEncoder.afterCall, LosslessEncoder.encode_of_not_packed packed]
      | some picture =>
          simp only [step, LosslessEncoder.afterCall, LosslessEncoder.encode_of_packed packed,
            receive_encoder]

/-- Either nothing is sent and the next keyframe comes no closer, or what the encoder makes of a
picture is sent. -/
theorem sent?_cases (l : PictureLink) (c : PictureCall) :
    l.sent? z c = none ∧ (∀ f mark damaged, c = .encode f mark damaged → f.packed? = none) ∧
        (l.encoder.afterCall z c).sinceKeyframe = l.encoder.sinceKeyframe ∨
      ∃ f mark damaged picture d, c = .encode f mark damaged ∧ f.packed? = some picture ∧
        (l.step z c).1 = some (.delivered d) ∧ d.intact = damaged.isNone ∧
        l.sent? z c = some (l.encoder.output z picture, d) ∧
        l.encoder.afterCall z c = l.encoder.advance picture := by
  cases c with
  | requestKeyframe | reconfigure patch =>
      refine .inl ⟨rfl, ?_, rfl⟩
      intro _ _ _ is
      cases is
  | encode f mark damaged =>
      cases packed : f.packed? with
      | none =>
          left
          refine ⟨?_, ?_, ?_⟩
          · simp only [sent?, step, LosslessEncoder.encode_of_not_packed packed]
          · rintro _ _ _ ⟨⟩
            exact packed
          · simp only [LosslessEncoder.afterCall, LosslessEncoder.encode_of_not_packed packed]
      | some picture =>
          right
          have encoded := LosslessEncoder.encode_of_packed (z := z) (e := l.encoder) packed
          obtain ⟨⟨d, l'⟩, received⟩ : ∃ r, receive z ⟨l.encoder.advance picture, l.decoder⟩ f
              damaged.isNone (damaged.getD (Message.encodedFrame
                (mark.frame f (l.encoder.output z picture))).toBytes) = r := ⟨_, rfl⟩
          have stepped := step_of_receive packed mark damaged received
          have intact := congrArg (·.1.intact) received
          rw [receive_intact] at intact
          refine ⟨f, mark, damaged, picture, d, rfl, packed, ?_, intact.symm, ?_, ?_⟩
          · rw [stepped]
          · simp only [sent?, stepped, encoded, Option.map_some]
          · simp only [LosslessEncoder.afterCall, encoded]

/-- Differences at the start of a run bring the next keyframe closer one by one. -/
theorem length_leading_deltas_le {calls : List PictureCall}
    {deltas rest : List (EncodedOutput × Delivery)} (split : l.sent z calls = deltas ++ rest)
    (noKeyframe : ∀ s ∈ deltas, s.1.isKeyframe = false) :
    deltas.length + l.encoder.sinceKeyframe ≤
      max l.encoder.sinceKeyframe (4 * l.encoder.peakFps z calls) := by
  induction calls generalizing l deltas with
  | nil =>
      obtain ⟨rfl, -⟩ := List.append_eq_nil_iff.mp split.symm
      rw [List.length_nil, Nat.zero_add]
      exact Nat.le_max_left ..
  | cons c calls ih =>
      have later := l.encoder.peakFps_afterCall_le (z := z) c calls
      rcases sent?_cases (z := z) l c with ⟨nothing, -, same⟩ |
        ⟨f, mark, damaged, picture, d, rfl, packed, -, -, output, advanced⟩
      · rw [sent, nothing] at split
        have bound := ih split noKeyframe
        rw [step_encoder, same] at bound
        omega
      · cases deltas with
        | nil =>
            rw [List.length_nil, Nat.zero_add]
            exact Nat.le_max_left ..
        | cons s deltas =>
            rw [sent, output] at split
            obtain ⟨rfl, tail⟩ := List.cons.inj split
            -- A difference goes out only while the count is below four times the frame rate.
            have delta : l.encoder.wantsKeyframe picture = false :=
              noKeyframe _ (List.mem_cons_self ..)
            have bound := ih tail fun s member => noKeyframe s (List.mem_cons_of_mem _ member)
            have due := LosslessEncoder.sinceKeyframe_lt_of_delta delta
            have now := l.encoder.le_peakFps (z := z) (.encode f mark damaged :: calls)
            rw [step_encoder] at bound
            rw [advanced] at bound later
            rw [LosslessEncoder.advance_sinceKeyframe_of_delta delta] at bound
            rw [List.length_cons]
            omega

/-- **There is never more than four seconds' worth of differences in a row.** -/
theorem length_deltas_le {calls : List PictureCall} {deltas : List (EncodedOutput × Delivery)}
    (inARow : deltas <:+: l.sent z calls) (noKeyframe : ∀ s ∈ deltas, s.1.isKeyframe = false) :
    deltas.length ≤ 4 * l.encoder.peakFps z calls := by
  induction calls generalizing l with
  | nil =>
      obtain rfl := List.infix_nil.mp inARow
      exact Nat.zero_le _
  | cons c calls ih =>
      have later := l.encoder.peakFps_afterCall_le (z := z) c calls
      have further (inTail : deltas <:+: (l.step z c).2.sent z calls) :
          deltas.length ≤ 4 * l.encoder.peakFps z (c :: calls) := by
        have bound := ih inTail
        rw [step_encoder] at bound
        omega
      rcases sent?_cases (z := z) l c with ⟨nothing, -, -⟩ | ⟨_, _, _, _, _, -, -, -, -, output, -⟩
      · rw [sent, nothing] at inARow
        exact further inARow
      · rw [sent, output, Option.toList_some, List.singleton_append, List.infix_cons_iff] at inARow
        rcases inARow with ⟨rest, front⟩ | inTail
        · have leading : l.sent z (c :: calls) = deltas ++ rest := by
            rw [sent, output, front]
            rfl
          have bound := length_leading_deltas_le leading noKeyframe
          omega
        · exact further inTail

/-- A keyframe is shown whatever the decoder has been through, and both are in step from then on. -/
theorem step_of_keyframe (fits : l.decoder.Fits width height)
    (carries : z.Carries (PixelFormat.bgra8.frameLength width height)) {f : CapturedFrame}
    {picture : Bytes} (packed : f.packed? = some picture) (wide : f.width = width)
    (high : f.height = height) (mark : PictureMark)
    (key : l.encoder.wantsKeyframe picture = true) :
    ∃ d l', l.step z (.encode f mark none) = (some (.delivered d), l') ∧
      l'.InStep false width height ∧ Faithful d ∧ d.status = some .ok := by
  have rebuilt := rebuild?_output carries.lossless l.encoder packed (wide.trans fits.width.symm)
    (high.trans fits.height.symm) mark
  rw [if_pos key] at rebuilt
  have arrives := ofBytes_frame carries l.encoder packed wide high mark
  obtain ⟨d, received, inStep, faithful, -, status⟩ :=
    receive_shown fits false packed true arrives rebuilt
  rw [owingAfter, status] at inStep
  exact ⟨d, _, step_of_receive packed mark none received, inStep, faithful, status⟩

/-- A picture is shown as it was captured. -/
def ShownAsCaptured (d : Delivery) : Prop :=
  d.status = some .ok ∧ ∃ picture, d.shown = some picture ∧ d.frame.Shows picture

/-- A faithful delivery that succeeds shows the picture as it was captured. -/
theorem Faithful.shownAsCaptured {d : Delivery} (faithful : Faithful d)
    (status : d.status = some .ok) : ShownAsCaptured d := by
  obtain ⟨answer, answered, shows⟩ := faithful
  rw [Delivery.status, answered] at status
  refine ⟨?_, shows (Option.some.inj status)⟩
  rw [Delivery.status, answered, status]

/-- Encoder and decoder stay in step if nothing is sent. -/
theorem InStep.step_unsent (inStep : l.InStep false width height)
    (carries : z.Carries (PixelFormat.bgra8.frameLength width height)) {c : PictureCall}
    (unpacked : ∀ f mark damaged, c = .encode f mark damaged → f.packed? = none) :
    (l.step z c).2.InStep false width height := by
  cases c with
  | requestKeyframe => exact (inStep.step carries (c := .requestKeyframe) trivial).1
  | reconfigure patch => exact (inStep.step carries (c := .reconfigure patch) trivial).1
  | encode f mark damaged =>
      simp only [PictureLink.step, LosslessEncoder.encode_of_not_packed (unpacked _ _ _ rfl)]
      exact inStep

/-- As long as encoder and decoder are in step, whatever arrives is shown. -/
theorem InStep.sent_shown (inStep : l.InStep false width height)
    (carries : z.Carries (PixelFormat.bgra8.frameLength width height)) {calls : List PictureCall}
    (whole : ∀ c ∈ calls, c.Whole width height) {s : EncodedOutput × Delivery}
    (arrived : s ∈ l.sent z calls) : ShownAsCaptured s.2 := by
  induction calls generalizing l with
  | nil => cases arrived
  | cons c calls ih =>
      obtain ⟨first, rest⟩ := List.forall_mem_cons.mp whole
      rcases sent?_cases (z := z) l c with ⟨nothing, unpacked, -⟩ |
        ⟨f, mark, damaged, picture, d, rfl, packed, delivered, intact, output, -⟩
      · rw [sent, nothing] at arrived
        exact ih (inStep.step_unsent carries unpacked) rest arrived
      · obtain ⟨wide, high, rfl⟩ := first (Option.isSome_of_eq_some packed)
        have admissible : (PictureCall.encode f mark none).Admissible z width height :=
          ⟨wide, high, by simp⟩
        obtain ⟨inStep', shown⟩ := inStep.step carries admissible
        obtain ⟨faithful, ok⟩ := shown d delivered
        have status : d.status = some .ok := (ok rfl).mpr intact
        rw [sent, output] at arrived
        rcases List.mem_cons.mp arrived with rfl | later
        · exact faithful.shownAsCaptured status
        · rw [delivered, owingAfter, status] at inStep'
          exact ih inStep' rest later

/-- From a keyframe on, whatever arrives is shown. -/
theorem shown_from_keyframe (fits : l.decoder.Fits width height)
    (carries : z.Carries (PixelFormat.bgra8.frameLength width height)) {calls : List PictureCall}
    (whole : ∀ c ∈ calls, c.Whole width height) {before after : List (EncodedOutput × Delivery)}
    {key : EncodedOutput × Delivery} (split : l.sent z calls = before ++ key :: after)
    (isKey : key.1.isKeyframe = true) : ∀ s ∈ key :: after, ShownAsCaptured s.2 := by
  induction calls generalizing l before with
  | nil => exact absurd split.symm (List.append_ne_nil_of_right_ne_nil _ (List.cons_ne_nil _ _))
  | cons c calls ih =>
      obtain ⟨first, rest⟩ := List.forall_mem_cons.mp whole
      rcases sent?_cases (z := z) l c with ⟨nothing, -, -⟩ |
        ⟨f, mark, damaged, picture, d, rfl, packed, delivered, -, output, -⟩
      · rw [sent, nothing] at split
        exact ih (step_fits fits c) rest split
      · rw [sent, output] at split
        cases before with
        | cons s before => exact ih (step_fits fits _) rest (List.cons.inj split).2
        | nil =>
            obtain ⟨rfl, rfl⟩ := List.cons.inj split
            obtain ⟨wide, high, rfl⟩ := first (Option.isSome_of_eq_some packed)
            obtain ⟨d', l', stepped, inStep, faithful, status⟩ :=
              step_of_keyframe fits carries packed wide high mark isKey
            rw [stepped] at delivered ⊢
            obtain rfl := PictureEvent.delivered.inj (Option.some.inj delivered)
            rintro s (_ | ⟨_, later⟩)
            · exact faithful.shownAsCaptured status
            · exact inStep.sent_shown carries rest later

/-- **An encoder and a decoder come back into step by themselves.** Whatever the encoder has been
asked and whatever the decoder has received, once all outputs are of the decoder's size and arrive
as they are, there are never more than four seconds' worth of differences in a row, and from the
first keyframe on every picture is shown as it was captured. -/
theorem back_in_step (z : Compression) (params : EncoderParams) (width height : UInt32)
    (carries : z.Carries (PixelFormat.bgra8.frameLength width height))
    (asked : List PictureCall) (received : List EncodedFrame) (calls : List PictureCall)
    (whole : ∀ c ∈ calls, c.Whole width height) :
    let e := (LosslessEncoder.new params).afterCalls z asked
    let d := (LosslessDecoder.new width height).afterFrames z received
    let sent := sent z ⟨e, d⟩ calls
    (∀ deltas, deltas <:+: sent → (∀ s ∈ deltas, s.1.isKeyframe = false) →
      deltas.length ≤ 4 * e.peakFps z calls) ∧
    (∀ before key after, sent = before ++ key :: after → key.1.isKeyframe = true →
      ∀ s ∈ key :: after, s.2.status = some .ok ∧
        ∃ picture, s.2.shown = some picture ∧ s.2.frame.Shows picture) := by
  have fits := (LosslessDecoder.fits_new width height).afterFrames (z := z) received
  refine ⟨?_, ?_⟩
  · intro deltas inARow noKeyframe
    exact length_deltas_le inARow noKeyframe
  · intro before key after split isKey
    exact shown_from_keyframe fits carries whole split isKey

/-- A keyframe of another stream. -/
def strayKeyframe : EncodedFrame :=
  PictureMark.frame ⟨0, 0, 0⟩ (pixel 9) ⟨Compression.stored.compress 9 [9, 9, 9, 255], true⟩

/-- Pictures that follow one whose keyframe was lost, at one picture a second. -/
def laterCalls : List PictureCall :=
  let mark : PictureMark := ⟨1, 0, 0⟩
  [.encode (pixel 2) mark none, .encode (pixel 3) mark none, .encode (pixel 3) mark none,
    .encode (pixel 4) mark none, .encode (pixel 5) mark none, .encode (pixel 6) mark none]

/-- What the decoder makes of `laterCalls` if it has taken `strayKeyframe` for the lost one. -/
def strayRun : List (EncodedOutput × Delivery) :=
  sent .stored ⟨(LosslessEncoder.new ⟨.zstd, 1, 1, 1, 8000000, .none⟩).afterCalls .stored
      [.encode (pixel 1) ⟨0, 0, 0⟩ none],
    (LosslessDecoder.new 1 1).afterFrames .stored [strayKeyframe, foreignFrame, strayKeyframe]⟩
    laterCalls

/-- After four differences, shown as something else, the fifth picture is a keyframe and shown as
it was captured, and so is the one that follows. -/
theorem strayRun_back_in_step :
    strayRun.map (·.1.isKeyframe) = [false, false, false, false, true, false] ∧
      (∃ s ∈ strayRun, s.2.frame = pixel 2 ∧ s.2.shown = some [10, 10, 10, 255]) ∧
      ∀ s ∈ strayRun.drop 4, s.2.status = some .ok ∧
        ∃ picture, s.2.shown = some picture ∧ s.2.frame.Shows picture := by
  have carries : Compression.stored.Carries (PixelFormat.bgra8.frameLength 1 1) :=
    Compression.stored_carries (by decide)
  have whole : ∀ c ∈ laterCalls, c.Whole 1 1 := by
    simp only [laterCalls, List.forall_mem_cons, List.not_mem_nil, false_implies, implies_true,
      PictureCall.Whole, pixel, and_self]
  have back := back_in_step .stored ⟨.zstd, 1, 1, 1, 8000000, .none⟩ 1 1 carries
    [.encode (pixel 1) ⟨0, 0, 0⟩ none] [strayKeyframe, foreignFrame, strayKeyframe] laterCalls whole
  obtain ⟨key, after, split, isKey⟩ : ∃ key after,
      strayRun = strayRun.take 4 ++ key :: after ∧ key.1.isKeyframe = true :=
    ⟨(strayRun.drop 4).head (by decide +kernel), (strayRun.drop 4).tail, by decide +kernel,
      by decide +kernel⟩
  refine ⟨by decide +kernel, by decide +kernel, ?_⟩
  have rest : strayRun.drop 4 = key :: after :=
    List.append_cancel_left ((List.take_append_drop 4 strayRun).trans split)
  rw [rest]
  exact back.2 _ key after split isKey

end PictureLink

end Screencast
