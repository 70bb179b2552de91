import Screencast.Lossless.Encoder
import Screencast.Proofs.Lossless.Codec

/-! # Requests that wait for an output

A request for a keyframe may come long before the next output: pictures may be left out, and rates
may change in between. An encoder keeps requests if none of that makes it forget
(`Screencast.Encoder.KeepsRequests`). The lossless encoder does, even with a compressor that fails
now and then (`Screencast.LosslessEncoder.keepsRequests_packing`).
-/

namespace Screencast

/-- A condition under which the next output is a keyframe, and which lasts until then. -/
structure Encoder.KeepsRequests {ε : Type} [Encoder ε] (pending : ε → Prop) : Prop where
  requested : ∀ e : ε, pending (requestKeyframe e)
  reconfigured : ∀ (e : ε) (p : RatePatch), pending e → pending (reconfigure e p).2
  withheld : ∀ (e : ε) (f : CapturedFrame), pending e → (encode e f).1 = none →
    pending (encode e f).2
  output : ∀ (e : ε) (f : CapturedFrame) (out : EncodedOutput), pending e →
    (encode e f).1 = some out → out.isKeyframe = true

namespace LosslessEncoder

variable {e : LosslessEncoder} {f : CapturedFrame}

private theorem wantsKeyframe_of_forced (forced : e.forced = true) (packed : Bytes) :
    e.wantsKeyframe packed = true := by
  unfold wantsKeyframe
  cases e.previous with
  | none => rfl
  | some previous =>
      rw [forced]
      rfl

/-- Encodes a picture with a compressor that may fail; then the picture is left out. -/
def encodeWith (compress? : Nat → Bytes → Option Bytes) (e : LosslessEncoder) (f : CapturedFrame) :
    Option EncodedOutput × LosslessEncoder :=
  match f.packed? with
  | none => (none, e)
  | some packed =>
    match compress? e.level (e.content packed) with
    | none => (none, e)
    | some payload => (some ⟨payload, e.wantsKeyframe packed⟩, e.advance packed)

/-- The lossless encoder, with such a compressor. -/
@[reducible]
def packing (compress? : Nat → Bytes → Option Bytes) : Encoder LosslessEncoder where
  ability _ := ability
  captureFormat _ := captureFormat
  encode := encodeWith compress?
  reconfigure e p := (true, e.reconfigure p)
  requestKeyframe := requestKeyframe

/-- The encoder that hosts run has a compressor that never fails. -/
theorem packing_stored :
    packing (fun level content => some (Compression.stored.compress level content)) =
      (inferInstance : Encoder LosslessEncoder) := by
  have same : encodeWith (fun level content => some (Compression.stored.compress level content)) =
      encode .stored := by
    funext e f
    unfold encodeWith encode
    cases f.packed? with
    | none => rfl
    | some packed => rfl
  unfold packing
  rw [same]
  rfl

/-- An encode that fails leaves the encoder as it was; one that succeeds moves it on. -/
theorem encodeWith_cases (compress? : Nat → Bytes → Option Bytes) (e : LosslessEncoder)
    (f : CapturedFrame) :
    e.encodeWith compress? f = (none, e) ∨ ∃ packed payload,
      e.encodeWith compress? f = (some ⟨payload, e.wantsKeyframe packed⟩, e.advance packed) := by
  cases packed : f.packed? with
  | none => exact .inl (by simp only [encodeWith, packed])
  | some picture =>
      cases compressed : compress? e.level (e.content picture) with
      | none => exact .inl (by simp only [encodeWith, packed, compressed])
      | some payload =>
          exact .inr ⟨picture, payload, by simp only [encodeWith, packed, compressed]⟩

/-- Whatever compresses the picture, a wish for a keyframe lasts until a picture goes out. -/
theorem keepsRequests_packing (compress? : Nat → Bytes → Option Bytes) :
    @Encoder.KeepsRequests _ (packing compress?) fun e => e.forced = true := by
  refine @Encoder.KeepsRequests.mk _ (packing compress?) _ ?_ ?_ ?_ ?_
  · intro e
    rfl
  · intro e p forced
    exact forced
  · intro e f forced silent
    change (e.encodeWith compress? f).1 = none at silent
    change (e.encodeWith compress? f).2.forced = true
    rcases encodeWith_cases compress? e f with left | ⟨packed, payload, encoded⟩
    · rw [left]
      exact forced
    · rw [encoded] at silent
      cases silent
  · intro e f out forced encodes
    change (e.encodeWith compress? f).1 = some out at encodes
    rcases encodeWith_cases compress? e f with left | ⟨packed, payload, encoded⟩
    · rw [left] at encodes
      cases encodes
    · rw [encoded] at encodes
      cases encodes
      exact wantsKeyframe_of_forced forced packed

end LosslessEncoder

end Screencast
