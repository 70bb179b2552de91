import Screencast.Lossless.Decoder
import Screencast.Proofs.Lossless.Pixels

/-! # One output of the lossless encoder, and what a decoder makes of it

Whether an output is a keyframe decides what it carries: the packed picture itself, or its
difference to the one before (`Screencast.LosslessEncoder.content_of_keyframe`,
`Screencast.LosslessEncoder.content_of_delta`). A decoder rebuilds a picture from a keyframe
always, and from a difference exactly when it has a reference
(`Screencast.LosslessDecoder.rebuild?_eq_some_iff`).
-/

namespace Screencast

namespace LosslessEncoder

variable {e : LosslessEncoder} {picture : Bytes}

/-- The content of a keyframe is the picture itself. -/
theorem content_of_keyframe (key : e.wantsKeyframe picture = true) :
    e.content picture = picture := by
  unfold content
  rw [key]
  cases e.previous <;> rfl

/-- A difference refers to a picture of the same length, and no keyframe was asked for. -/
theorem content_of_delta (delta : e.wantsKeyframe picture = false) :
    ∃ previous, e.previous = some previous ∧ previous.length = picture.length ∧
      e.forced = false ∧ e.content picture = xorBytes previous picture := by
  cases before : e.previous with
  | none => simp only [wantsKeyframe, before, Bool.true_eq_false] at delta
  | some previous =>
      have content : e.content picture = xorBytes previous picture := by
        simp only [LosslessEncoder.content, before, delta]
      simp only [wantsKeyframe, before, Bool.or_eq_false_iff, bne_eq_false_iff_eq] at delta
      exact ⟨previous, rfl, delta.1.2, delta.1.1, content⟩

/-- What goes out is as long as the picture. -/
theorem length_content : (e.content picture).length = picture.length := by
  cases key : e.wantsKeyframe picture with
  | true => rw [content_of_keyframe key]
  | false =>
      obtain ⟨previous, _, same, _, content⟩ := content_of_delta key
      rw [content, length_xorBytes same]

/-- What comes of a packed picture. -/
def output (z : Compression) (e : LosslessEncoder) (picture : Bytes) : EncodedOutput :=
  ⟨z.compress e.level (e.content picture), e.wantsKeyframe picture⟩

/-- A readable picture goes out, and the encoder moves on. -/
theorem encode_of_packed {z : Compression} {f : CapturedFrame} (packed : f.packed? = some picture) :
    e.encode z f = (some (e.output z picture), e.advance picture) := by
  simp only [encode, packed, output]

/-- A picture that cannot be packed leaves the encoder as it was. -/
theorem encode_of_not_packed {z : Compression} {f : CapturedFrame} (packed : f.packed? = none) :
    e.encode z f = (none, e) := by
  simp only [encode, packed]

/-- The picture sent is the one the next difference is taken from. -/
theorem advance_previous : (e.advance picture).previous = some picture := by
  unfold advance
  cases e.wantsKeyframe picture <;> rfl

end LosslessEncoder

namespace LosslessDecoder

variable {z : Compression} {d : LosslessDecoder} {g : EncodedFrame}

/-- A picture is rebuilt from content of the right kind and size, and from a reference if the
content is a difference. -/
theorem rebuild?_eq_some_iff {picture : Bytes} :
    d.rebuild? z g = some picture ↔
      g.codec = .zstd ∧ g.width = d.width ∧ g.height = d.height ∧
        ∃ content, z.decompress g.payload = some content ∧ content.length = d.frameLength ∧
          (if g.isKeyframe then some content else d.reference.map (xorBytes · content)) =
            some picture := by
  have passes (condition : Prop) [Decidable condition] (mark : Unit) :
      (if condition then pure () else failure : Option Unit) = some mark ↔ condition := by
    split
    next holds => exact iff_of_true rfl holds
    next fails => exact iff_of_false (Option.some_ne_none mark).symm fails
  unfold rebuild? guard
  simp only [Option.bind_eq_bind, Option.bind_eq_some_iff, passes, exists_const, and_assoc]
  constructor
  · rintro ⟨codec, content, unpacked, width, height, length, rebuilt⟩
    exact ⟨codec, width, height, content, unpacked, length, rebuilt⟩
  · rintro ⟨codec, width, height, content, unpacked, length, rebuilt⟩
    exact ⟨codec, content, unpacked, width, height, length, rebuilt⟩

/-- What content of the right kind and size is rebuilt to. -/
theorem rebuild?_of_content (codec : g.codec = .zstd) (width : g.width = d.width)
    (height : g.height = d.height) {content : Bytes}
    (unpacked : z.decompress g.payload = some content)
    (length : content.length = d.frameLength) :
    d.rebuild? z g =
      if g.isKeyframe then some content else d.reference.map (xorBytes · content) := by
  apply Option.ext
  intro picture
  rw [rebuild?_eq_some_iff]
  constructor
  · rintro ⟨_, _, _, content', unpacked', _, rebuilt⟩
    obtain rfl := Option.some.inj (unpacked.symm.trans unpacked')
    exact rebuilt
  · intro rebuilt
    exact ⟨codec, width, height, content, unpacked, length, rebuilt⟩

/-- Content that is not as it has to be rebuilds nothing. -/
theorem rebuild?_eq_none (bad : g.codec ≠ .zstd ∨ g.width ≠ d.width ∨ g.height ≠ d.height ∨
    ∀ content, z.decompress g.payload = some content → content.length ≠ d.frameLength) :
    d.rebuild? z g = none := by
  rw [Option.eq_none_iff_forall_ne_some]
  intro picture rebuilt
  obtain ⟨codec, width, height, content, unpacked, length, _⟩ := rebuild?_eq_some_iff.mp rebuilt
  rcases bad with wrong | wrong | wrong | wrong
  · exact wrong codec
  · exact wrong width
  · exact wrong height
  · exact wrong content unpacked length

/-- A picture that can be rebuilt is shown and becomes the one to build on. -/
theorem decode_of_rebuild {picture : Bytes} (rebuilt : d.rebuild? z g = some picture) :
    d.decode z g = (.shown d.next, d.accept picture) := by
  simp only [decode, rebuilt]

/-- One that cannot be rebuilt fails. -/
theorem decode_of_not_rebuild (rebuilt : d.rebuild? z g = none) :
    d.decode z g = (.withStatus .failed, d.fail) := by
  simp only [decode, rebuilt]

/-- A decoder for pictures of this size, of which the next one has a texture to go to. -/
structure Fits (d : LosslessDecoder) (width height : UInt32) : Prop where
  width : d.width = width
  height : d.height = height
  ring : d.textures.length = textureRing
  next : d.next < textureRing

variable {width height : UInt32}

/-- A new decoder fits the size it is made for. -/
theorem fits_new (width height : UInt32) : (new width height).Fits width height where
  width := rfl
  height := rfl
  ring := List.length_replicate
  next := Nat.succ_pos 2

/-- A picture shown leaves the decoder's size alone. -/
theorem Fits.accept (fits : d.Fits width height) (picture : Bytes) :
    (d.accept picture).Fits width height where
  width := fits.width
  height := fits.height
  ring := (List.length_set ..).trans fits.ring
  next := Nat.mod_lt _ (Nat.succ_pos 2)

/-- A decode leaves the decoder's size alone, whether it succeeds or fails. -/
theorem Fits.decode (fits : d.Fits width height) (g : EncodedFrame) :
    (d.decode z g).2.Fits width height := by
  cases rebuilt : d.rebuild? z g with
  | none =>
      rw [decode_of_not_rebuild rebuilt]
      exact { fits with }
  | some picture =>
      rw [decode_of_rebuild rebuilt]
      exact fits.accept picture

end LosslessDecoder

end Screencast
