import Mathlib.Data.List.Forall2
import Screencast.Proofs.Lossless.EncoderCalls

/-! # Only visible pixels go out

A picture in memory is read row by row, never beyond the end of its buffer, and nothing is read but
what is to be seen of it. Two runs of an encoder on pictures that look alike therefore give the same
outputs (`Screencast.LosslessEncoder.only_visible_pixels_go_out`): neither padding nor what follows
the last row gets into an output, or into the picture that later ones are the difference to.
-/

namespace Screencast

/-- The rows that packing puts one after the other. -/
theorem packRows_eq_flatMap (width stride height : Nat) (data : Bytes) :
    packRows width stride height data =
      (List.range height).flatMap fun row => (data.drop (row * stride)).take width := by
  induction height generalizing data with
  | zero => rfl
  | succ height ih =>
      have below : ∀ row,
          (data.drop stride).drop (row * stride) = data.drop ((row + 1) * stride) := by
        intro row
        rw [List.drop_drop, Nat.succ_mul, Nat.add_comm]
      rw [packRows, ih, List.range_succ_eq_map, List.flatMap_cons, List.flatMap_map, Nat.zero_mul,
        List.drop_zero]
      simp only [below, Nat.succ_eq_add_one]

namespace CapturedFrame

/-- What is to be seen of a row. -/
def row (f : CapturedFrame) (row : Nat) : Bytes :=
  match f.pixels with
  | .surface _ => []
  | .memory stride data => (data.drop (row * stride.toNat)).take (f.width.toNat * 4)

/-- Two pictures in memory that differ in nothing that is to be seen. -/
structure LooksLike (f g : CapturedFrame) : Prop where
  width : f.width = g.width
  height : f.height = g.height
  readable : ¬f.Unreadable
  readable' : ¬g.Unreadable
  rows : ∀ row, row < f.height.toNat → f.row row = g.row row

variable {f g : CapturedFrame} {stride : UInt32} {data : Bytes}

private theorem row_of_memory (pixels : f.pixels = .memory stride data) (row : Nat) :
    f.row row = (data.drop (row * stride.toNat)).take (f.width.toNat * 4) := by
  unfold CapturedFrame.row
  rw [pixels]

/-- A row ends before the buffer does. -/
theorem row_inside (pixels : f.pixels = .memory stride data) (readable : ¬f.Unreadable) {row : Nat}
    (below : row < f.height.toNat) : row * stride.toNat + f.width.toNat * 4 ≤ data.length := by
  obtain ⟨narrow, large⟩ := not_or.mp (mt (unreadable_iff_of_memory pixels).mpr readable)
  calc row * stride.toNat + f.width.toNat * 4
      ≤ row * stride.toNat + stride.toNat := Nat.add_le_add_left (Nat.not_lt.mp narrow) _
    _ = stride.toNat * (row + 1) := by rw [Nat.mul_succ, Nat.mul_comm]
    _ ≤ stride.toNat * f.height.toNat := Nat.mul_le_mul_left _ below
    _ ≤ data.length := Nat.not_lt.mp large

/-- The packed picture is made of the visible rows. -/
theorem packed?_eq_rows (readable : ¬f.Unreadable) :
    f.packed? = some ((List.range f.height.toNat).flatMap f.row) := by
  cases pixels : f.pixels with
  | surface handle =>
      refine absurd ?_ readable
      unfold Unreadable
      rw [pixels]
      trivial
  | memory stride data =>
      rw [packed?_of_memory pixels readable, packRows_eq_flatMap]
      congr 2
      funext row
      exact (row_of_memory pixels row).symm

/-- Frames that look alike are packed alike. -/
theorem LooksLike.packed? (alike : f.LooksLike g) : f.packed? = g.packed? := by
  rw [packed?_eq_rows alike.readable, packed?_eq_rows alike.readable', ← alike.height]
  congr 1
  apply List.flatMap_congr
  intro row below
  exact alike.rows row (List.mem_range.mp below)

end CapturedFrame

/-- Two calls that differ at most in what is not to be seen of a picture. -/
inductive EncoderCall.LooksLike : EncoderCall → EncoderCall → Prop
  | encode {f g : CapturedFrame} (alike : f.LooksLike g) : LooksLike (.encode f) (.encode g)
  | same (c : EncoderCall) : LooksLike c c

/-- An output that is not compressed yet. -/
structure RawOutput where
  level : Nat
  content : Bytes
  isKeyframe : Bool
deriving DecidableEq, Repr

/-- What the raw output goes out as. -/
def RawOutput.compressed (z : Compression) (r : RawOutput) : EncodedOutput :=
  ⟨z.compress r.level r.content, r.isKeyframe⟩

namespace LosslessEncoder

variable {z : Compression} {e : LosslessEncoder} {calls calls' : List EncoderCall}

/-- What calls are answered, in order. -/
def answers (z : Compression) (e : LosslessEncoder) (calls : List EncoderCall) :
    List (Option EncodedOutput) :=
  (e.log z calls).map (·.answer)

/-- How outputs are compressed changes neither what is in them nor the encoder. -/
theorem exists_perform_eq (e : LosslessEncoder) (c : EncoderCall) :
    ∃ (r : Option RawOutput) (e' : LosslessEncoder),
      ∀ z, e.perform z c = (r.map (·.compressed z), e') := by
  cases c with
  | reconfigure p => exact ⟨none, e.reconfigure p, fun _ => rfl⟩
  | requestKeyframe => exact ⟨none, e.requestKeyframe, fun _ => rfl⟩
  | encode f =>
      cases packed : f.packed? with
      | none => exact ⟨none, e, fun _ => encode_of_not_packed packed⟩
      | some picture =>
          exact ⟨some ⟨e.level, e.content picture, e.wantsKeyframe picture⟩, e.advance picture,
            fun _ => encode_of_packed packed⟩

private theorem exists_answers_eq (e : LosslessEncoder) (calls : List EncoderCall) :
    ∃ raw : List (Option RawOutput), ∀ z, e.answers z calls = raw.map (·.map (·.compressed z)) := by
  induction calls generalizing e with
  | nil => exact ⟨[], fun _ => rfl⟩
  | cons c calls ih =>
      obtain ⟨r, e', performed⟩ := e.exists_perform_eq c
      obtain ⟨raw, later⟩ := ih e'
      refine ⟨r :: raw, fun z => ?_⟩
      rw [List.map_cons, ← later z, answers, log, List.map_cons, performed]
      rfl

private theorem perform_of_looksLike {c c' : EncoderCall} (alike : c.LooksLike c') :
    e.perform z c = e.perform z c' := by
  cases alike with
  | same => rfl
  | encode alike => simp only [perform, LosslessEncoder.encode, alike.packed?]

/-- Calls that look alike get the same answers and leave the same encoder. -/
theorem answers_of_looksLike (alike : List.Forall₂ EncoderCall.LooksLike calls calls') :
    e.answers z calls = e.answers z calls' ∧ e.performAll z calls = e.performAll z calls' := by
  induction alike generalizing e with
  | nil => exact ⟨rfl, rfl⟩
  | cons alike _ ih =>
      obtain ⟨answers, encoder⟩ := ih (e := (e.perform z _).2)
      simp only [LosslessEncoder.answers, performAll] at answers encoder ⊢
      rw [log, log, List.map_cons, List.map_cons, List.foldl_cons, List.foldl_cons,
        ← perform_of_looksLike alike, answers, encoder]
      exact ⟨rfl, rfl⟩

/-- **Only visible pixels go out.** From the same encoder, calls that differ at most in what is not
to be seen of their pictures have the same outputs before compression, so the same outputs after
any, and leave the same encoder. A picture in memory is refused exactly if its rows are too short or
its buffer is; of any other, each row that is read ends before the buffer does. -/
theorem only_visible_pixels_go_out (e : LosslessEncoder) :
    (∀ calls calls', List.Forall₂ EncoderCall.LooksLike calls calls' →
      ∃ raw : List (Option RawOutput), ∀ z : Compression,
        e.answers z calls = raw.map (·.map (·.compressed z)) ∧
        e.answers z calls' = raw.map (·.map (·.compressed z)) ∧
        e.performAll z calls = e.performAll z calls') ∧
    ∀ (f : CapturedFrame) (stride : UInt32) (data : Bytes), f.pixels = .memory stride data →
      (∀ z, (e.encode z f).1 = none ↔
        stride.toNat < f.width.toNat * 4 ∨ data.length < stride.toNat * f.height.toNat) ∧
      ∀ picture, f.packed? = some picture →
        (picture = (List.range f.height.toNat).flatMap fun row =>
          (data.drop (row * stride.toNat)).take (f.width.toNat * 4)) ∧
        ∀ row, row < f.height.toNat → row * stride.toNat + f.width.toNat * 4 ≤ data.length := by
  constructor
  · intro calls calls' alike
    obtain ⟨raw, compressed⟩ := e.exists_answers_eq calls
    refine ⟨raw, fun z => ?_⟩
    obtain ⟨sameAnswers, sameEncoder⟩ := answers_of_looksLike (z := z) (e := e) alike
    exact ⟨compressed z, sameAnswers ▸ compressed z, sameEncoder⟩
  · intro f stride data pixels
    refine ⟨fun z => encode_fst_eq_none_iff.trans (CapturedFrame.unreadable_iff_of_memory pixels),
      fun picture packed => ?_⟩
    have readable : ¬f.Unreadable := by
      rw [← CapturedFrame.packed?_eq_none_iff, packed]
      exact Option.some_ne_none picture
    have rows := CapturedFrame.packed?_of_memory pixels readable
    rw [packRows_eq_flatMap, packed] at rows
    exact ⟨Option.some.inj rows, fun row => CapturedFrame.row_inside pixels readable⟩

/-- Two pixels, one below the other. -/
def tightPicture : CapturedFrame := ⟨1, 2, .bgra8, .memory 4 [1, 2, 3, 4, 5, 6, 7, 8], 0⟩

/-- The same two pixels with bytes between them and after them. -/
def paddedPicture : CapturedFrame :=
  ⟨1, 2, .nv12, .memory 6 [1, 2, 3, 4, 170, 170, 5, 6, 7, 8, 187, 187, 204], 9⟩

/-- Two frames that differ in their padding only. -/
theorem tight_looksLike_padded : tightPicture.LooksLike paddedPicture where
  width := rfl
  height := rfl
  readable := by decide
  readable' := by decide
  rows := by decide

/-- Frames with and without padding, sent alike. -/
theorem padded_goes_out_as_tight :
    let e := new ⟨.zstd, 1, 2, 30, 1000000, .none⟩
    ∃ raw : List (Option RawOutput), ∀ z : Compression,
      e.answers z [.encode tightPicture, .encode tightPicture] =
        raw.map (·.map (·.compressed z)) ∧
      e.answers z [.encode paddedPicture, .encode tightPicture] =
        raw.map (·.map (·.compressed z)) ∧
      e.performAll z [.encode tightPicture, .encode tightPicture] =
        e.performAll z [.encode paddedPicture, .encode tightPicture] :=
  (only_visible_pixels_go_out _).1 _ _
    (.cons (.encode tight_looksLike_padded) (.cons (.same _) .nil))

end LosslessEncoder

end Screencast
