import Screencast.Proofs.History
import Screencast.Proofs.Lossless.EncoderCalls

/-! # Where keyframes are placed

The encoder keeps one picture, a flag and a number; what it decides by them is told here by the
calls that it has had and their answers. The two agree after any calls
(`Screencast.LosslessEncoder.Recalls`), so that an output is a keyframe exactly if the past makes
one due, and carries the picture or its difference to the one sent before
(`Screencast.LosslessEncoder.keyframes_where_due`).
-/

namespace Screencast

/-- A picture that went out. -/
structure SentPicture where
  /-- What was to be seen of it, packed. -/
  picture : Bytes
  isKeyframe : Bool
deriving DecidableEq, Repr

namespace EncoderRecord

/-- The picture that a call made go out. -/
def sent? (r : EncoderRecord) : Option SentPicture :=
  match r.call, r.answer with
  | .encode f, some out => f.packed?.map (⟨·, out.isKeyframe⟩)
  | _, _ => none

/-- The patch that a call put in force. -/
def patch? (r : EncoderRecord) : Option RatePatch :=
  match r.call with
  | .reconfigure p => some p
  | _ => none

/-- Whether a keyframe was asked for. -/
def isRequest (r : EncoderRecord) : Bool := r.call = .requestKeyframe

/-- The pictures that went out, in order. -/
def sent (log : List EncoderRecord) : List SentPicture := log.filterMap sent?

/-- The picture that went out last. -/
def lastSent? (log : List EncoderRecord) : Option Bytes := (sent log).getLast?.map (·.picture)

/-- The calls since the last output, the newest first. -/
def sinceOutput (log : List EncoderRecord) : List EncoderRecord :=
  log.reverse.takeWhile (·.answer.isNone)

/-- The number of outputs since the last keyframe. -/
def differences (log : List EncoderRecord) : Nat :=
  ((sent log).reverse.takeWhile (!·.isKeyframe)).length

/-- What patches named last. -/
def lastNamed? {α : Type} (name : RatePatch → Option α) (log : List EncoderRecord) : Option α :=
  (log.filterMap fun r => r.patch?.bind name).getLast?

/-- The frame rate in force; one of zero that is asked for counts as one. -/
def fpsAfter (initial : Nat) (log : List EncoderRecord) : Nat :=
  ((lastNamed? (·.fps) log).map (max · 1)).getD initial

/-- The bitrate in force. -/
def bitrateAfter (initial : Nat) (log : List EncoderRecord) : Nat :=
  (lastNamed? (·.bitrate) log).getD initial

/-- What makes the next output a keyframe: it is the first one, a keyframe was asked for since the
last, the size of the picture has changed, or four seconds' worth of differences have gone out. -/
def KeyframeDue (params : EncoderParams) (log : List EncoderRecord) (picture : Bytes) : Prop :=
  sent log = [] ∨ (sinceOutput log).any isRequest = true ∨
    (∃ last, lastSent? log = some last ∧ last.length ≠ picture.length) ∨
    4 * max 1 (fpsAfter params.fps log) ≤ differences log

variable {log : List EncoderRecord} {r : EncoderRecord}

private theorem lastSent?_eq_none_iff : lastSent? log = none ↔ sent log = [] := by
  rw [lastSent?, Option.map_eq_none_iff, List.getLast?_eq_none_iff]

private theorem sent_concat (log : List EncoderRecord) (r : EncoderRecord) :
    sent (log ++ [r]) = sent log ++ r.sent?.toList :=
  History.filterMap_concat sent? log r

private theorem sent_concat_of_unanswered (unanswered : r.answer = none) :
    sent (log ++ [r]) = sent log := by
  have silent : r.sent? = none := by
    unfold sent?
    rw [unanswered]
    cases r.call <;> rfl
  rw [sent_concat, silent]
  exact List.append_nil _

private theorem lastSent?_concat_of_some {shown : SentPicture} (output : r.sent? = some shown) :
    lastSent? (log ++ [r]) = some shown.picture := by
  rw [lastSent?, sent_concat, output, Option.toList_some, List.getLast?_concat]
  rfl

private theorem differences_concat_of_some {shown : SentPicture} (output : r.sent? = some shown) :
    differences (log ++ [r]) = if shown.isKeyframe then 0 else differences log + 1 := by
  rw [differences, sent_concat, output, Option.toList_some, List.reverse_concat]
  cases key : shown.isKeyframe with
  | true => rw [List.takeWhile_cons_of_neg (by rw [key]; exact Bool.false_ne_true)]; rfl
  | false => rw [List.takeWhile_cons_of_pos (by rw [key]; rfl)]; rfl

private theorem sinceOutput_concat_of_none (unanswered : r.answer = none) :
    sinceOutput (log ++ [r]) = r :: sinceOutput log := by
  rw [sinceOutput, List.reverse_concat, List.takeWhile_cons_of_pos (by rw [unanswered]; rfl)]
  rfl

private theorem sinceOutput_concat_of_some {out : EncodedOutput} (answered : r.answer = some out) :
    sinceOutput (log ++ [r]) = [] := by
  rw [sinceOutput, List.reverse_concat,
    List.takeWhile_cons_of_neg (by rw [answered]; exact Bool.false_ne_true)]

private theorem lastNamed?_concat {α : Type} (name : RatePatch → Option α)
    (log : List EncoderRecord)
    (r : EncoderRecord) :
    lastNamed? name (log ++ [r]) = (r.patch?.bind name).or (lastNamed? name log) :=
  History.latest?_concat _ log r

private theorem fpsAfter_concat (initial : Nat) (log : List EncoderRecord) (r : EncoderRecord) :
    fpsAfter initial (log ++ [r]) =
      ((r.patch?.bind (·.fps)).map (max · 1)).getD (fpsAfter initial log) := by
  rw [fpsAfter, lastNamed?_concat]
  cases r.patch?.bind (·.fps) <;> rfl

private theorem level_concat (initial : Nat) (log : List EncoderRecord) (r : EncoderRecord) :
    compressionLevel (bitrateAfter initial (log ++ [r])) =
      ((r.patch?.bind (·.bitrate)).map compressionLevel).getD
        (compressionLevel (bitrateAfter initial log)) := by
  rw [bitrateAfter, lastNamed?_concat]
  cases r.patch?.bind (·.bitrate) <;> rfl

end EncoderRecord

namespace LosslessEncoder

open EncoderRecord

/-- What an encoder remembers is what it did. -/
structure Recalls (params : EncoderParams) (log : List EncoderRecord) (e : LosslessEncoder) :
    Prop where
  previous : e.previous = lastSent? log
  forced : e.forced = true ↔ sent log = [] ∨ (sinceOutput log).any isRequest = true
  sinceKeyframe : e.sinceKeyframe = differences log
  fps : e.params.fps = fpsAfter params.fps log
  level : e.level = compressionLevel (bitrateAfter params.bitrate log)

variable {z : Compression} {params : EncoderParams} {past : List EncoderRecord}
  {e : LosslessEncoder} {f : CapturedFrame} {picture : Bytes}

/-- A new encoder recalls an empty history. -/
theorem recalls_new (params : EncoderParams) : Recalls params [] (new params) where
  previous := rfl
  forced := iff_of_true rfl (.inl rfl)
  sinceKeyframe := rfl
  fps := rfl
  level := rfl

/-- The encoder makes a keyframe exactly when the history makes one due. -/
theorem Recalls.wantsKeyframe_iff (recalls : Recalls params past e) (picture : Bytes) :
    e.wantsKeyframe picture = true ↔ KeyframeDue params past picture := by
  unfold wantsKeyframe KeyframeDue
  rw [recalls.previous]
  cases last : lastSent? past with
  | none => exact iff_of_true rfl (.inl (lastSent?_eq_none_iff.mp last))
  | some previous =>
      have nonempty : sent past ≠ [] := by
        intro empty
        cases (lastSent?_eq_none_iff.mpr empty).symm.trans last
      have asked : e.forced = true ↔ (sinceOutput past).any isRequest = true :=
        recalls.forced.trans (or_iff_right nonempty)
      have interval : e.keyframeInterval = 4 * max 1 (fpsAfter params.fps past) := by
        rw [keyframeInterval, recalls.fps, Nat.max_comm, Nat.mul_comm]
      dsimp only
      rw [Bool.or_eq_true, Bool.or_eq_true, asked, bne_iff_ne, decide_eq_true_eq, interval,
        recalls.sinceKeyframe, or_iff_right nonempty, or_assoc]
      simp only [Option.some.injEq, exists_eq_left']

/-- A call without output may ask for a keyframe and change rates, and leaves the rest alone. -/
theorem Recalls.silent (recalls : Recalls params past e) {r : EncoderRecord} {e' : LosslessEncoder}
    (unanswered : r.answer = none) (previous : e'.previous = e.previous)
    (forced : e'.forced = (r.isRequest || e.forced))
    (sinceKeyframe : e'.sinceKeyframe = e.sinceKeyframe)
    (fps : e'.params.fps = ((r.patch?.bind (·.fps)).map (max · 1)).getD e.params.fps)
    (level : e'.level = ((r.patch?.bind (·.bitrate)).map compressionLevel).getD e.level) :
    Recalls params (past ++ [r]) e' := by
  have same : sent (past ++ [r]) = sent past := sent_concat_of_unanswered unanswered
  constructor
  · rw [previous, lastSent?, same]
    exact recalls.previous
  · rw [forced, same, sinceOutput_concat_of_none unanswered, List.any_cons, Bool.or_eq_true,
      Bool.or_eq_true, recalls.forced]
    exact or_left_comm
  · rw [sinceKeyframe, differences, same]
    exact recalls.sinceKeyframe
  · rw [fps, fpsAfter_concat, recalls.fps]
  · rw [level, level_concat, recalls.level]

/-- A picture sent settles the request. -/
theorem advance_forced (e : LosslessEncoder) (picture : Bytes) :
    (e.advance picture).forced = false := by
  unfold advance
  cases key : e.wantsKeyframe picture with
  | true => rfl
  | false =>
      obtain ⟨previous, -, -, unforced, -⟩ := content_of_delta key
      exact unforced

/-- The count of pictures since the last keyframe starts again at a keyframe. -/
theorem advance_sinceKeyframe (e : LosslessEncoder) (picture : Bytes) :
    (e.advance picture).sinceKeyframe =
      if e.wantsKeyframe picture then 0 else e.sinceKeyframe + 1 := by
  unfold advance
  cases e.wantsKeyframe picture <;> rfl

private theorem advance_rates (e : LosslessEncoder) (picture : Bytes) :
    (e.advance picture).params = e.params ∧ (e.advance picture).level = e.level := by
  unfold advance
  cases e.wantsKeyframe picture <;> exact ⟨rfl, rfl⟩

/-- A picture that goes out keeps the encoder in step with the history. -/
theorem Recalls.output (recalls : Recalls params past e) (packed : f.packed? = some picture) :
    Recalls params (past ++ [⟨.encode f, some (e.output z picture)⟩]) (e.advance picture) := by
  have shown : sent? ⟨.encode f, some (e.output z picture)⟩ =
      some ⟨picture, e.wantsKeyframe picture⟩ := by
    simp only [sent?, packed, Option.map_some, LosslessEncoder.output]
  obtain ⟨sameParams, sameLevel⟩ := e.advance_rates picture
  constructor
  · rw [advance_previous, lastSent?_concat_of_some shown]
  · rw [advance_forced, sent_concat, shown, sinceOutput_concat_of_some rfl]
    simp only [Bool.false_eq_true, Option.toList_some, List.append_eq_nil_iff, List.cons_ne_self,
      and_false, List.any_nil, or_self]
  · rw [advance_sinceKeyframe, differences_concat_of_some shown, recalls.sinceKeyframe]
  · rw [sameParams, fpsAfter_concat]
    exact recalls.fps
  · rw [sameLevel, level_concat]
    exact recalls.level

/-- A call keeps the encoder in step with the history. -/
theorem Recalls.perform (recalls : Recalls params past e) (c : EncoderCall) :
    Recalls params (past ++ [⟨c, (e.perform z c).1⟩]) (e.perform z c).2 := by
  cases c with
  | requestKeyframe => exact recalls.silent rfl rfl rfl rfl rfl rfl
  | reconfigure p => exact recalls.silent rfl rfl rfl rfl rfl rfl
  | encode f =>
      cases packed : f.packed? with
      | none =>
          simp only [LosslessEncoder.perform, encode_of_not_packed packed]
          exact recalls.silent rfl rfl rfl rfl rfl rfl
      | some picture =>
          simp only [LosslessEncoder.perform, encode_of_packed packed]
          exact recalls.output packed

/-- A list of calls keeps the encoder in step with the history. -/
theorem Recalls.performAll (recalls : Recalls params past e) (calls : List EncoderCall) :
    Recalls params (past ++ e.log z calls) (e.performAll z calls) := by
  induction calls generalizing e past with
  | nil =>
      rw [log, List.append_nil]
      exact recalls
  | cons c calls ih =>
      have later := ih (recalls.perform (z := z) c)
      rw [List.append_assoc] at later
      exact later

/-- **Keyframes are placed where they are due.** After any calls, a picture that cannot be read gets
no output and leaves the encoder as it was. Any other does get one. It is a keyframe exactly if the
past makes one due; before compression, a keyframe is the packed picture, and anything else the
bytewise exclusive or of the picture sent before and this one. -/
theorem keyframes_where_due (z : Compression) (params : EncoderParams) (calls : List EncoderCall)
    (f : CapturedFrame) :
    let past := (new params).log z calls
    let e := (new params).performAll z calls
    (f.Unreadable ∧ e.encode z f = (none, e)) ∨
    (¬f.Unreadable ∧ ∃ picture out content,
      f.packed? = some picture ∧ f.Shows picture ∧
      (e.encode z f).1 = some out ∧
      (out.isKeyframe = true ↔ KeyframeDue params past picture) ∧
      out.payload = z.compress (compressionLevel (bitrateAfter params.bitrate past)) content ∧
      if out.isKeyframe then content = picture
      else ∃ last, lastSent? past = some last ∧ content = xorBytes last picture) := by
  intro past e
  have recalls : Recalls params past e := (recalls_new params).performAll calls
  by_cases unreadable : f.Unreadable
  · exact .inl ⟨unreadable, encode_of_unreadable unreadable⟩
  · obtain ⟨picture, packed⟩ := exists_packed_of_readable unreadable
    refine .inr ⟨unreadable, picture, e.output z picture, e.content picture, packed,
      CapturedFrame.shows_of_packed? packed, by rw [encode_of_packed packed],
      recalls.wantsKeyframe_iff picture, by rw [← recalls.level]; rfl, ?_⟩
    change if e.wantsKeyframe picture then _ else _
    cases key : e.wantsKeyframe picture with
    | true => exact content_of_keyframe key
    | false =>
        obtain ⟨last, kept, -, -, content⟩ := content_of_delta key
        exact ⟨last, recalls.previous.symm.trans kept, content⟩

end LosslessEncoder

end Screencast
