import Screencast.Proofs.Lossless.Resynchronisation

/-! # The ring of textures

Only a decode call that succeeds writes a texture, and it writes the next one of the ring. So a
picture stays readable until the ring comes round to it, whatever fails meanwhile. A call that
fails leaves the ring alone and drops the reference; differences then fail until a keyframe
succeeds. What the decoder keeps is told here by the calls that it has had and their answers
(`Screencast.LosslessDecoder.Recalls`), and the main theorem is
`Screencast.LosslessDecoder.pictures_stay_readable`.
-/

namespace Screencast

/-- A decode call, what it was answered, and what it has put into the texture of the answer. -/
structure DecodeRecord where
  frame : EncodedFrame
  answer : DecodedFrame
  written : Option Bytes
deriving DecidableEq, Repr

namespace DecodeRecord

/-- Whether the frame was shown. -/
def succeeded (r : DecodeRecord) : Bool := r.answer.status == .ok

/-- Whether the frame could not be rebuilt. -/
def failed (r : DecodeRecord) : Bool := r.answer.status == .failed

/-- The pictures that calls have put into textures. -/
def pictures (past : List DecodeRecord) : List Bytes := past.filterMap (·.written)

end DecodeRecord

/-- A frame for a decoder of this size: its content is as long as a picture. -/
def EncodedFrame.Sound (z : Compression) (width height : UInt32) (f : EncodedFrame) : Prop :=
  f.codec = .zstd ∧ f.width = width ∧ f.height = height ∧
    ∃ content, z.decompress f.payload = some content ∧
      content.length = PixelFormat.bgra8.frameLength width height

namespace LosslessDecoder

/-- The textures hold the pictures decoded last. -/
structure Holds (d : LosslessDecoder) (pictures : List Bytes) : Prop where
  decoded : pictures.length = d.decoded
  next : d.next = d.decoded % textureRing
  size : d.textures.length = textureRing
  recent : ∀ k < d.decoded, d.decoded ≤ k + textureRing →
    d.texture? (k % textureRing) = pictures[k]?

/-- A new decoder holds no picture. -/
theorem holds_new (width height : UInt32) : (new width height).Holds [] where
  decoded := rfl
  next := rfl
  size := rfl
  recent := fun _ nothing => absurd nothing (Nat.not_lt_zero _)

variable {d : LosslessDecoder} {pictures : List Bytes}

/-- A failure leaves the textures alone. -/
theorem Holds.fail (holds : d.Holds pictures) : d.fail.Holds pictures :=
  ⟨holds.decoded, holds.next, holds.size, holds.recent⟩

/-- A picture goes into the next texture and over nothing younger than a full round. -/
theorem Holds.accept (holds : d.Holds pictures) (picture : Bytes) :
    (d.accept picture).Holds (pictures ++ [picture]) where
  decoded := by
    rw [List.length_append, holds.decoded]
    rfl
  next := by
    simp only [LosslessDecoder.accept, holds.next, Nat.mod_add_mod]
  size := by
    simp only [LosslessDecoder.accept, List.length_set, holds.size]
  recent := by
    intro k decoded kept
    simp only [LosslessDecoder.accept, texture?] at decoded kept ⊢
    rcases Nat.lt_succ_iff_lt_or_eq.mp decoded with before | rfl
    · have other : d.next ≠ k % textureRing := by
        rw [holds.next]
        unfold textureRing at kept ⊢
        omega
      rw [List.getElem?_set_ne other, List.getElem?_append_left (by rwa [holds.decoded])]
      exact holds.recent k before (Nat.le_of_succ_le kept)
    · have inside : d.next < d.textures.length := by
        rw [holds.next, holds.size]
        exact Nat.mod_lt _ (by decide)
      rw [← holds.next, List.getElem?_set_self inside, ← holds.decoded, List.getElem?_concat_length]

variable (z : Compression)

/-- What there is to say of the next decode call. -/
def record (d : LosslessDecoder) (f : EncodedFrame) : DecodeRecord :=
  let (answer, after) := d.decode z f
  ⟨f, answer, answer.resource.bind after.texture?⟩

/-- Decode calls in order. -/
def log (d : LosslessDecoder) : List EncodedFrame → List DecodeRecord
  | [] => []
  | f :: frames => d.record z f :: (d.decode z f).2.log frames

variable {z} {f : EncodedFrame} {width height : UInt32} {past : List DecodeRecord}

private theorem length_log (frames : List EncodedFrame) :
    (d.log z frames).length = frames.length := by
  induction frames generalizing d with
  | nil => rfl
  | cons f frames ih => exact congrArg (· + 1) ih

/-- The record of a frame that could not be rebuilt. -/
theorem record_of_not_rebuild (rebuilt : d.rebuild? z f = none) :
    d.record z f = ⟨f, .withStatus .failed, none⟩ := by
  rw [record, decode_of_not_rebuild rebuilt]
  rfl

/-- The record of a frame that is shown. -/
theorem record_of_rebuild (holds : d.Holds pictures) {picture : Bytes}
    (rebuilt : d.rebuild? z f = some picture) :
    d.record z f = ⟨f, .shown d.next, some picture⟩ := by
  have inside : d.next < d.textures.length := by
    rw [holds.next, holds.size]
    exact Nat.mod_lt _ (by decide)
  have written : (d.accept picture).texture? d.next = some picture := List.getElem?_set_self inside
  rw [record, decode_of_rebuild rebuilt]
  simp only [DecodedFrame.shown, Option.bind_some, written]

/-- What a decoder keeps of its past. -/
structure Recalls (width height : UInt32) (past : List DecodeRecord) (d : LosslessDecoder) :
    Prop where
  fits : d.Fits width height
  holds : d.Holds (DecodeRecord.pictures past)
  decoded : d.decoded = past.countP (·.succeeded)
  failures : d.failures = past.countP (·.failed)
  calls : d.decoded + d.failures = past.length
  /-- There is a reference exactly if the last call succeeded. -/
  reference : d.reference.isSome = past.getLast?.any (·.succeeded)

/-- A new decoder recalls an empty history. -/
theorem recalls_new (width height : UInt32) : Recalls width height [] (new width height) :=
  ⟨fits_new width height, holds_new width height, rfl, rfl, rfl, rfl⟩

/-- A decode keeps the decoder in step with the history. -/
theorem Recalls.decode (recalls : Recalls width height past d) (f : EncodedFrame) :
    Recalls width height (past ++ [d.record z f]) (d.decode z f).2 := by
  have fits := recalls.fits.decode (z := z) f
  cases rebuilt : d.rebuild? z f with
  | none =>
      rw [record_of_not_rebuild rebuilt]
      rw [decode_of_not_rebuild rebuilt] at fits ⊢
      constructor
      case fits => exact fits
      case holds =>
        rw [DecodeRecord.pictures, List.filterMap_append]
        exact (List.append_nil (DecodeRecord.pictures past)).symm ▸ recalls.holds.fail
      case decoded =>
        rw [List.countP_append]
        exact recalls.decoded
      case failures =>
        rw [List.countP_append, ← recalls.failures]
        rfl
      case calls =>
        rw [List.length_append, ← recalls.calls]
        rfl
      case reference =>
        rw [List.getLast?_concat]
        rfl
  | some picture =>
      rw [record_of_rebuild recalls.holds rebuilt]
      rw [decode_of_rebuild rebuilt] at fits ⊢
      constructor
      case fits => exact fits
      case holds =>
        rw [DecodeRecord.pictures, List.filterMap_append]
        exact recalls.holds.accept picture
      case decoded =>
        rw [List.countP_append, ← recalls.decoded]
        rfl
      case failures =>
        rw [List.countP_append]
        exact recalls.failures
      case calls =>
        rw [List.length_append, ← recalls.calls]
        exact Nat.succ_add d.decoded d.failures
      case reference =>
        rw [List.getLast?_concat]
        rfl

/-- A list of frames keeps the decoder in step with the history. -/
theorem Recalls.afterFrames (recalls : Recalls width height past d) (frames : List EncodedFrame) :
    Recalls width height (past ++ d.log z frames) (d.afterFrames z frames) := by
  induction frames generalizing d past with
  | nil =>
      rw [log, List.append_nil]
      exact recalls
  | cons f frames ih =>
      have later := ih (recalls.decode (z := z) f)
      rw [List.append_assoc] at later
      exact later

/-- A frame is decoded if its content is sound and, as far as it is a difference, the call before
has left a reference. -/
theorem Recalls.succeeds_iff (recalls : Recalls width height past d) (f : EncodedFrame) :
    (d.decode z f).1.status = .ok ↔ f.Sound z width height ∧
      (f.isKeyframe = true ∨ past.getLast?.any (·.succeeded) = true) := by
  rw [← recalls.reference]
  constructor
  · intro ok
    cases rebuilt : d.rebuild? z f with
    | none =>
        rw [decode_of_not_rebuild rebuilt] at ok
        cases ok
    | some picture =>
        obtain ⟨codec, wide, high, content, unpacked, length, shown⟩ :=
          rebuild?_eq_some_iff.mp rebuilt
        rw [frameLength, recalls.fits.width, recalls.fits.height] at length
        refine ⟨⟨codec, wide.trans recalls.fits.width, high.trans recalls.fits.height, content,
          unpacked, length⟩, ?_⟩
        cases key : f.isKeyframe with
        | true => exact .inl rfl
        | false =>
            rw [key, if_neg Bool.false_ne_true] at shown
            obtain ⟨reference, kept, -⟩ := Option.map_eq_some_iff.mp shown
            exact .inr (Option.isSome_of_eq_some kept)
  · rintro ⟨⟨codec, wide, high, content, unpacked, length⟩, known⟩
    rw [← recalls.fits.width, ← recalls.fits.height] at length
    have rebuilt := rebuild?_of_content codec (wide.trans recalls.fits.width.symm)
      (high.trans recalls.fits.height.symm) unpacked length
    obtain ⟨picture, shown⟩ : ∃ picture, d.rebuild? z f = some picture := by
      cases key : f.isKeyframe with
      | true => exact ⟨content, by rw [rebuilt, key, if_pos rfl]⟩
      | false =>
          rcases known with isKey | kept
          · exact absurd isKey (Bool.eq_false_iff.mp key)
          · obtain ⟨reference, kept⟩ := Option.isSome_iff_exists.mp kept
            exact ⟨xorBytes reference content, by rw [rebuilt, key, kept]; rfl⟩
    rw [decode_of_rebuild shown]
    rfl

/-- A picture stays in its texture until the ring comes round to it. -/
theorem Recalls.readable (recalls : Recalls width height past d) {k : Nat} {picture : Bytes}
    (shown : (DecodeRecord.pictures past)[k]? = some picture) {later : List EncodedFrame}
    (few : d.decoded + (d.log z later).countP (·.succeeded) ≤ k + textureRing) :
    (d.afterFrames z later).texture? (k % textureRing) = some picture := by
  have after := recalls.afterFrames (z := z) later
  have inside : k < (DecodeRecord.pictures past).length := (List.getElem?_eq_some_iff.mp shown).1
  have count : (d.afterFrames z later).decoded =
      d.decoded + (d.log z later).countP (·.succeeded) := by
    rw [after.decoded, List.countP_append, ← recalls.decoded]
  rw [recalls.holds.decoded] at inside
  rw [after.holds.recent k (count ▸ Nat.lt_add_right _ inside) (count ▸ few), ← shown,
    DecodeRecord.pictures, List.filterMap_append]
  exact List.getElem?_append_left (List.getElem?_eq_some_iff.mp shown).1

/-- A difference is not decoded without a reference. -/
theorem decode_of_no_reference (lost : d.reference = none) (delta : f.isKeyframe = false) :
    d.decode z f = (.withStatus .failed, d.fail) := by
  apply decode_of_not_rebuild
  apply Option.eq_none_iff_forall_ne_some.mpr
  intro picture rebuilt
  obtain ⟨-, -, -, content, -, -, shown⟩ := rebuild?_eq_some_iff.mp rebuilt
  rw [delta, lost] at shown
  cases shown

/-- Only a keyframe brings a reference back. -/
theorem reference_afterFrames (lost : d.reference = none) {frames : List EncodedFrame}
    (noKeyframe : ∀ r ∈ d.log z frames, r.frame.isKeyframe = true → r.succeeded = false) :
    (d.afterFrames z frames).reference = none := by
  induction frames generalizing d with
  | nil => exact lost
  | cons f frames ih =>
      rw [log, List.forall_mem_cons] at noKeyframe
      obtain ⟨first, rest⟩ := noKeyframe
      apply ih _ rest
      cases rebuilt : d.rebuild? z f with
      | none => exact congrArg (·.2.reference) (decode_of_not_rebuild rebuilt)
      | some picture =>
          have answer : (d.decode z f).1.status = .ok :=
            congrArg (·.1.status) (decode_of_rebuild rebuilt)
          cases key : f.isKeyframe with
          | true => exact absurd (beq_iff_eq.mpr answer) (Bool.eq_false_iff.mp (first key))
          | false =>
              rw [decode_of_no_reference lost key] at answer
              cases answer

/-- **A picture stays readable until the ring comes round to it.** After any decode calls, a frame
is decoded exactly if its content is sound and, unless it is a keyframe, the call before succeeded.
The picture of a call that succeeds, the `n`-th counted from zero, goes into texture `n % 3` and
stays there until three more have succeeded, whatever fails meanwhile. A call that fails drops the
reference, counts as a failure and changes nothing else; after it no difference is decoded until a
keyframe is. -/
theorem pictures_stay_readable (z : Compression) (width height : UInt32)
    (earlier : List EncodedFrame) (f : EncodedFrame) :
    let past := (new width height).log z earlier
    let d := (new width height).afterFrames z earlier
    let n := past.countP (·.succeeded)
    let answer := (d.decode z f).1
    let d' := (d.decode z f).2
    d.decoded = n ∧ d.failures = past.countP (·.failed) ∧ d.decoded + d.failures = earlier.length ∧
    (answer.status = .ok ↔ f.Sound z width height ∧
      (f.isKeyframe = true ∨ past.getLast?.any (·.succeeded) = true)) ∧
    ((∃ picture, d.rebuild? z f = some picture ∧ answer = .shown (n % 3) ∧ n % 3 ∈ d.textureIds ∧
        d'.reference = some picture ∧
        ∀ later, (d'.log z later).countP (·.succeeded) < 3 →
          (d'.afterFrames z later).texture? (n % 3) = some picture) ∨
      answer = .withStatus .failed ∧
        d' = { d with reference := none, failures := d.failures + 1 } ∧
        ∀ later delta, delta.isKeyframe = false →
          (∀ r ∈ d'.log z later, r.frame.isKeyframe = true → r.succeeded = false) →
          ((d'.afterFrames z later).decode z delta).1 = .withStatus .failed) := by
  intro past d n answer d'
  have recalls : Recalls width height past d := (recalls_new width height).afterFrames earlier
  refine ⟨recalls.decoded, recalls.failures, ?_, recalls.succeeds_iff f, ?_⟩
  · rw [recalls.calls]
    exact length_log earlier
  · have after := recalls.decode (z := z) f
    cases rebuilt : d.rebuild? z f with
    | some picture =>
        left
        have next : d.next = n % 3 := by
          rw [recalls.holds.next, recalls.decoded]
          rfl
        have decoded : d.decode z f = (.shown (n % 3), d.accept picture) := by
          rw [decode_of_rebuild rebuilt, next]
        refine ⟨picture, rfl, congrArg Prod.fst decoded, ?_, congrArg (·.2.reference) decoded, ?_⟩
        · exact List.mem_range.mpr (Nat.mod_lt n (by decide))
        · intro later few
          have length : (DecodeRecord.pictures past).length = n :=
            recalls.holds.decoded.trans recalls.decoded
          have shown : (DecodeRecord.pictures (past ++ [d.record z f]))[n]? = some picture := by
            rw [record_of_rebuild recalls.holds rebuilt, DecodeRecord.pictures,
              List.filterMap_append, ← length]
            exact List.getElem?_concat_length
          have count : d'.decoded = n + 1 :=
            (congrArg (·.2.decoded) decoded).trans (congrArg (· + 1) recalls.decoded)
          -- The picture is the `n`-th, so only the third success after it writes over it.
          refine after.readable shown ?_
          change d'.decoded + (d'.log z later).countP (·.succeeded) ≤ n + 3
          omega
    | none =>
        right
        have decoded : d.decode z f = (.withStatus .failed, d.fail) := decode_of_not_rebuild rebuilt
        refine ⟨congrArg Prod.fst decoded, congrArg Prod.snd decoded, ?_⟩
        intro later delta isDelta noKeyframe
        have lost : d'.reference = none := congrArg (·.2.reference) decoded
        rw [decode_of_no_reference (reference_afterFrames lost noKeyframe) isDelta]

end LosslessDecoder

end Screencast
