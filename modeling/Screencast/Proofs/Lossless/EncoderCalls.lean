import Screencast.Proofs.Lossless.Codec

/-! # Calls of the lossless encoder

A run of an encoder is a list of calls, each with its answer. Only a call to encode has an answer
that is not empty, and it has one exactly if the picture can be read
(`Screencast.LosslessEncoder.encode_fst_eq_none_iff`); one that cannot be read might as well not
have come.
-/

namespace Screencast

/-- One call of an encoder. -/
inductive EncoderCall
  | encode (f : CapturedFrame)
  | reconfigure (p : RatePatch)
  | requestKeyframe
deriving DecidableEq, Repr

/-- A call and what it was answered. -/
structure EncoderRecord where
  call : EncoderCall
  answer : Option EncodedOutput
deriving DecidableEq, Repr

namespace CapturedFrame

/-- The picture is on the capturer's device, or its buffer is smaller than it claims. -/
def Unreadable (f : CapturedFrame) : Prop :=
  match f.pixels with
  | .surface _ => True
  | .memory stride data =>
    stride.toNat < f.width.toNat * 4 ∨ data.length < stride.toNat * f.height.toNat

/-- Pixels in memory are unreadable when a row exceeds the stride or the rows exceed the buffer. -/
theorem unreadable_iff_of_memory {f : CapturedFrame} {stride : UInt32} {data : Bytes}
    (pixels : f.pixels = .memory stride data) :
    f.Unreadable ↔
      stride.toNat < f.width.toNat * 4 ∨ data.length < stride.toNat * f.height.toNat := by
  unfold Unreadable
  rw [pixels]

/-- Readable pixels are packed row by row, without the padding. -/
theorem packed?_of_memory {f : CapturedFrame} {stride : UInt32} {data : Bytes}
    (pixels : f.pixels = .memory stride data) (readable : ¬f.Unreadable) :
    f.packed? = some (packRows (f.width.toNat * 4) stride.toNat f.height.toNat data) := by
  rw [unreadable_iff_of_memory pixels] at readable
  unfold packed?
  rw [pixels]
  exact if_neg readable

/-- Packing fails for unreadable frames only. -/
theorem packed?_eq_none_iff {f : CapturedFrame} : f.packed? = none ↔ f.Unreadable := by
  cases pixels : f.pixels with
  | surface handle =>
      unfold packed? Unreadable
      rw [pixels]
      exact iff_of_true rfl trivial
  | memory stride data =>
      by_cases unreadable : f.Unreadable
      · refine iff_of_true ?_ unreadable
        rw [unreadable_iff_of_memory pixels] at unreadable
        unfold packed?
        rw [pixels]
        exact if_pos unreadable
      · rw [packed?_of_memory pixels unreadable]
        exact iff_of_false (Option.some_ne_none _) unreadable

instance (f : CapturedFrame) : Decidable f.Unreadable :=
  decidable_of_iff (f.packed? = none) packed?_eq_none_iff

end CapturedFrame

namespace LosslessEncoder

variable (z : Compression)

/-- The answer to a call, and the encoder afterwards. -/
def perform (e : LosslessEncoder) : EncoderCall → Option EncodedOutput × LosslessEncoder
  | .encode f => e.encode z f
  | .reconfigure p => (none, e.reconfigure p)
  | .requestKeyframe => (none, e.requestKeyframe)

/-- Calls with their answers, in order. -/
def log (e : LosslessEncoder) : List EncoderCall → List EncoderRecord
  | [] => []
  | c :: calls => ⟨c, (e.perform z c).1⟩ :: (e.perform z c).2.log calls

/-- The encoder after some calls. -/
def performAll (e : LosslessEncoder) (calls : List EncoderCall) : LosslessEncoder :=
  calls.foldl (fun e c => (e.perform z c).2) e

variable {z} {e : LosslessEncoder} {f : CapturedFrame}

/-- A picture that cannot be read gets no output and leaves no trace. -/
theorem encode_of_unreadable (unreadable : f.Unreadable) : e.encode z f = (none, e) :=
  encode_of_not_packed (CapturedFrame.packed?_eq_none_iff.mpr unreadable)

/-- A readable frame can be packed. -/
theorem exists_packed_of_readable (readable : ¬f.Unreadable) :
    ∃ picture, f.packed? = some picture :=
  Option.ne_none_iff_exists'.mp (mt CapturedFrame.packed?_eq_none_iff.mp readable)

/-- With a compressor that never fails, only unreadable frames are refused. -/
theorem encode_fst_eq_none_iff : (e.encode z f).1 = none ↔ f.Unreadable := by
  by_cases unreadable : f.Unreadable
  · rw [encode_of_unreadable unreadable]
    exact iff_of_true rfl unreadable
  · obtain ⟨picture, packed⟩ := exists_packed_of_readable unreadable
    rw [encode_of_packed packed]
    exact iff_of_false (Option.some_ne_none _) unreadable

end LosslessEncoder

end Screencast
