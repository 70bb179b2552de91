import Screencast.Host.Worker
import Screencast.Proofs.Lossless.Codec
import Screencast.Proofs.Wire.Message
import Screencast.Proofs.Zstd.Stored

/-! # Pictures on the way from an encoder to a decoder

Whatever an encoder makes of a picture crosses the wire, in order and without omission, but perhaps
damaged so that the decoder can tell. The picture before that the encoder keeps is the one that
differences refer to, and the decoder's reference, as long as it has one, is the same
(`Screencast.PictureLink.InStep`). So a decoder never shows a picture other than the one captured,
and if a keyframe is asked for whenever one fails, exactly the damaged ones fail
(`Screencast.PictureLink.shown_iff_intact`).
-/

namespace Screencast

open Wire

/-- What a picture is marked with when it goes out. -/
structure PictureMark where
  pictureId : UInt64
  encodeStart : UInt64
  encodeEnd : UInt64
deriving DecidableEq, Repr

/-- The frame that carries what the encoder made of a picture. -/
def PictureMark.frame (m : PictureMark) (f : CapturedFrame) (out : EncodedOutput) :
    EncodedFrame :=
  { codec := .zstd, width := f.width, height := f.height, isKeyframe := out.isKeyframe,
    pictureId := m.pictureId, captureTime := f.timestamp, encodeStart := m.encodeStart,
    encodeEnd := m.encodeEnd, payload := out.payload }

/-- A host that streams losslessly marks its pictures by their number and the turn's clock. -/
theorem HostWorker.frame_eq_mark {ε : Type} [Encoder ε] (w : HostWorker ε) (t : Turn)
    (lossless : w.codec = .zstd) (f : CapturedFrame) (out : EncodedOutput) :
    w.frame t f out =
      PictureMark.frame ⟨UInt64.ofNat w.pictures, t.encodeStart, t.encodeEnd⟩ f out := by
  rw [HostWorker.frame, lossless, PictureMark.frame]

/-- What is done with an encoder, and what becomes of its outputs on the way. -/
inductive PictureCall
  | requestKeyframe
  | reconfigure (patch : RatePatch)
  /-- Encodes a picture; `damaged` is what arrives instead of the message, if it is damaged. -/
  | encode (f : CapturedFrame) (mark : PictureMark) (damaged : Option Bytes)
deriving DecidableEq, Repr

/-- A picture that was sent, and what the decoder made of what arrived. -/
structure Delivery where
  frame : CapturedFrame
  intact : Bool
  /-- The decoder's answer, if a frame arrived. -/
  answer : Option DecodedFrame
  /-- What the texture of the answer holds then. -/
  shown : Option Bytes
deriving DecidableEq, Repr

/-- How decoding ended. -/
def Delivery.status (d : Delivery) : Option DecodeStatus := d.answer.map DecodedFrame.status

/-- What matters of a call for the repair of the stream. -/
inductive PictureEvent
  | keyframeRequested
  | delivered (d : Delivery)
deriving DecidableEq, Repr

/-- An encoder, and a decoder that gets all of its outputs. -/
structure PictureLink where
  encoder : LosslessEncoder
  decoder : LosslessDecoder
deriving DecidableEq, Repr

/-- The compression undoes itself, and pictures of `length` bytes do not grow beyond what a length
of 64 bits can tell. -/
structure Compression.Carries (z : Compression) (length : Nat) : Prop where
  lossless : z.Lossless
  small : ∀ level content, content.length = length → (z.compress level content).length < 2 ^ 64

/-- Stored frames carry every picture whose stored length fits into 64 bits. -/
theorem Compression.stored_carries {length : Nat} (short : 4 * length + 9 < 2 ^ 64) :
    Compression.stored.Carries length where
  lossless := stored_lossless
  small := by
    rintro _ content rfl
    exact Nat.lt_of_le_of_lt (Zstd.length_store_le content) short

/-- Bytes that arrive as a frame of which a decoder for pictures of this size can tell that it is
damaged. -/
def Detectable (z : Compression) (width height : UInt32) (bytes : Bytes) : Prop :=
  ∃ g, Message.ofBytes bytes = .ok (.encodedFrame g) ∧
    (g.codec ≠ .zstd ∨ g.width ≠ width ∨ g.height ≠ height ∨
      ∀ content, z.decompress g.payload = some content →
        content.length ≠ PixelFormat.bgra8.frameLength width height)

/-- A picture of the decoder's size is sent, and damaged detectably if at all. -/
def PictureCall.Admissible (z : Compression) (width height : UInt32) : PictureCall → Prop
  | requestKeyframe | reconfigure _ => True
  | encode f _ damaged =>
    f.width = width ∧ f.height = height ∧ ∀ bytes ∈ damaged, Detectable z width height bytes

namespace PictureLink

variable (z : Compression)

/-- The decoder takes in what arrives. -/
def receive (l : PictureLink) (f : CapturedFrame) (intact : Bool) (arrived : Bytes) :
    Delivery × PictureLink :=
  match Message.ofBytes arrived with
  | .ok (.encodedFrame g) =>
    let (answer, decoder) := l.decoder.decode z g
    (⟨f, intact, some answer, answer.resource.bind decoder.texture?⟩, { l with decoder })
  | _ => (⟨f, intact, none, none⟩, l)

/-- One call; a picture that cannot be encoded is not sent. -/
def step (l : PictureLink) : PictureCall → Option PictureEvent × PictureLink
  | .requestKeyframe => (some .keyframeRequested, { l with encoder := l.encoder.requestKeyframe })
  | .reconfigure patch => (none, { l with encoder := l.encoder.reconfigure patch })
  | .encode f mark damaged =>
    match l.encoder.encode z f with
    | (none, encoder) => (none, { l with encoder })
    | (some out, encoder) =>
      let sent := (Message.encodedFrame (mark.frame f out)).toBytes
      let (delivery, l) := { l with encoder }.receive z f damaged.isNone (damaged.getD sent)
      (some (.delivered delivery), l)

/-- What happens during a run. -/
def run (l : PictureLink) : List PictureCall → List PictureEvent
  | [] => []
  | c :: cs => (l.step z c).1.toList ++ (l.step z c).2.run cs

/-- Every failure is followed by a request for a keyframe before the next picture is sent; the flag
tells whether such a request is owing at the start. -/
def Repairs : Bool → List PictureEvent → Prop
  | _, [] => True
  | _, .keyframeRequested :: events => Repairs false events
  | owing, .delivered d :: events =>
    owing = false ∧ Repairs (decide (d.status = some .failed)) events

instance decidableRepairs : ∀ owing events, Decidable (Repairs owing events)
  | _, [] => .isTrue trivial
  | _, .keyframeRequested :: events => decidableRepairs false events
  | _, .delivered _ :: events => @instDecidableAnd _ _ _ (decidableRepairs _ events)

/-- Whether a request for a keyframe is owing after a call. -/
def owingAfter (owing : Bool) : Option PictureEvent → Bool
  | none => owing
  | some .keyframeRequested => false
  | some (.delivered d) => decide (d.status = some .failed)

/-- What is left of a repaired run after one event is repaired as well. -/
theorem Repairs.tail {owing : Bool} {event : Option PictureEvent} {events : List PictureEvent}
    (repairs : Repairs owing (event.toList ++ events)) : Repairs (owingAfter owing event) events :=
  match event with
  | none | some .keyframeRequested => repairs
  | some (.delivered _) => repairs.2

/-- Encoder and decoder agree on the picture that differences refer to; unless a request for a
keyframe is owing, the decoder either has it or is not going to need it. -/
structure InStep (l : PictureLink) (owing : Bool) (width height : UInt32) : Prop where
  width : l.decoder.width = width
  height : l.decoder.height = height
  ring : l.decoder.textures.length = textureRing
  next : l.decoder.next < textureRing
  reference : ∀ picture, l.decoder.reference = some picture → l.encoder.previous = some picture
  repaired : owing = false → l.decoder.reference = none →
    l.encoder.previous = none ∨ l.encoder.forced = true

variable {z} {l : PictureLink} {owing : Bool} {width height : UInt32}

/-- Two sides in step agree on the size. -/
theorem InStep.fits (inStep : l.InStep owing width height) : l.decoder.Fits width height :=
  { inStep with }

private theorem inStep_new (params : EncoderParams) (width height : UInt32) :
    InStep ⟨.new params, .new width height⟩ false width height :=
  { LosslessDecoder.fits_new width height with
    reference := by
      intro picture kept
      cases kept
    repaired := fun _ _ => .inl rfl }

/-- What an intact output is rebuilt to. -/
theorem rebuild?_output (lossless : z.Lossless) (e : LosslessEncoder) {d : LosslessDecoder}
    {f : CapturedFrame} {picture : Bytes} (packed : f.packed? = some picture)
    (wide : f.width = d.width) (high : f.height = d.height) (mark : PictureMark) :
    d.rebuild? z (mark.frame f (e.output z picture)) =
      if e.wantsKeyframe picture then some picture
      else d.reference.map (xorBytes · (e.content picture)) := by
  obtain ⟨_, _, _, long, _⟩ := CapturedFrame.shows_of_packed? packed
  have length : (e.content picture).length = d.frameLength := by
    rw [LosslessEncoder.length_content, long, wide, high]
    rfl
  have unpacked := lossless e.level (e.content picture)
  rw [LosslessDecoder.rebuild?_of_content rfl wide high unpacked length]
  change (if e.wantsKeyframe picture then _ else _) = _
  cases key : e.wantsKeyframe picture with
  | true => rw [LosslessEncoder.content_of_keyframe key]
  | false => rfl

/-- An intact output is rebuilt, unless a request for a keyframe is owing. -/
theorem InStep.rebuild_output (inStep : l.InStep owing width height) (lossless : z.Lossless)
    {f : CapturedFrame} {picture : Bytes} (packed : f.packed? = some picture)
    (wide : f.width = width) (high : f.height = height) (mark : PictureMark) :
    l.decoder.rebuild? z (mark.frame f (l.encoder.output z picture)) = some picture ∨
      l.decoder.rebuild? z (mark.frame f (l.encoder.output z picture)) = none ∧ owing = true := by
  rw [rebuild?_output lossless l.encoder packed (wide.trans inStep.width.symm)
    (high.trans inStep.height.symm) mark]
  cases key : l.encoder.wantsKeyframe picture with
  | true => exact .inl (if_pos rfl)
  | false =>
      obtain ⟨previous, kept, same, notForced, content⟩ := LosslessEncoder.content_of_delta key
      rw [if_neg Bool.false_ne_true, content]
      cases reference : l.decoder.reference with
      | some picture' =>
          left
          obtain rfl := Option.some.inj (kept.symm.trans (inStep.reference _ reference))
          rw [Option.map_some, xorBytes_cancel same]
      | none =>
          right
          refine ⟨rfl, ?_⟩
          cases owing with
          | true => rfl
          | false =>
              rcases inStep.repaired rfl reference with first | forced
              · rw [first] at kept
                cases kept
              · rw [forced] at notForced
                cases notForced

/-- The decoder answers, and if it shows a picture, this is the one captured. -/
def Faithful (d : Delivery) : Prop :=
  ∃ answer, d.answer = some answer ∧
    (answer.status = .ok → ∃ picture, d.shown = some picture ∧ d.frame.Shows picture)

/-- What went out is the picture before from then on; a decoder that shows it refers to it too,
whatever it referred to. -/
theorem receive_shown (fits : l.decoder.Fits width height) (owing : Bool) {f : CapturedFrame}
    {picture : Bytes} (packed : f.packed? = some picture) (intact : Bool) {arrived : Bytes}
    {g : EncodedFrame} (arrives : Message.ofBytes arrived = .ok (.encodedFrame g))
    (rebuilt : l.decoder.rebuild? z g = some picture) :
    ∃ d, receive z ⟨l.encoder.advance picture, l.decoder⟩ f intact arrived =
        (d, ⟨l.encoder.advance picture, l.decoder.accept picture⟩) ∧
      InStep ⟨l.encoder.advance picture, l.decoder.accept picture⟩
        (owingAfter owing (some (.delivered d))) width height ∧
      Faithful d ∧ d.intact = intact ∧ d.status = some .ok := by
  have inRing : l.decoder.next < l.decoder.textures.length := fits.ring ▸ fits.next
  have texture : (l.decoder.accept picture).texture? l.decoder.next = some picture :=
    List.getElem?_set_self inRing
  refine ⟨⟨f, intact, some (.shown l.decoder.next), some picture⟩, ?_, ?_, ?_, rfl, rfl⟩
  · simp only [receive, arrives, LosslessDecoder.decode_of_rebuild rebuilt, DecodedFrame.shown,
      Option.bind_some, texture]
  · have accepted := fits.accept picture
    exact { accepted with
      reference := by
        intro picture' kept
        obtain rfl := Option.some.inj kept
        exact LosslessEncoder.advance_previous
      repaired := fun _ lost => nomatch lost }
  · exact ⟨_, rfl, fun _ => ⟨picture, rfl, CapturedFrame.shows_of_packed? packed⟩⟩

/-- A decoder that fails has no reference left to disagree on. -/
theorem InStep.receive_failed (inStep : l.InStep owing width height) (encoder : LosslessEncoder)
    (f : CapturedFrame) (intact : Bool) {arrived : Bytes} {g : EncodedFrame}
    (arrives : Message.ofBytes arrived = .ok (.encodedFrame g))
    (rebuilt : l.decoder.rebuild? z g = none) :
    ∃ d, receive z ⟨encoder, l.decoder⟩ f intact arrived = (d, ⟨encoder, l.decoder.fail⟩) ∧
      InStep ⟨encoder, l.decoder.fail⟩ (owingAfter owing (some (.delivered d))) width height ∧
      Faithful d ∧ d.intact = intact ∧ d.status = some .failed := by
  refine ⟨⟨f, intact, some (.withStatus .failed), none⟩, ?_, ?_, ?_, rfl, rfl⟩
  · simp only [receive, arrives, LosslessDecoder.decode_of_not_rebuild rebuilt,
      DecodedFrame.withStatus, Option.bind_none]
  · exact {
      width := inStep.width
      height := inStep.height
      ring := inStep.ring
      next := inStep.next
      reference := fun _ kept => nomatch kept
      repaired := fun settled => nomatch settled }
  · exact ⟨_, rfl, fun ok => nomatch ok⟩

/-- What the encoder makes of a picture is read from its message as it was. -/
theorem ofBytes_frame (carries : z.Carries (PixelFormat.bgra8.frameLength width height))
    (e : LosslessEncoder) {f : CapturedFrame} {picture : Bytes} (packed : f.packed? = some picture)
    (wide : f.width = width) (high : f.height = height) (mark : PictureMark) :
    Message.ofBytes (Message.encodedFrame (mark.frame f (e.output z picture))).toBytes =
      .ok (.encodedFrame (mark.frame f (e.output z picture))) := by
  obtain ⟨_, _, _, long, _⟩ := CapturedFrame.shows_of_packed? packed
  have length : (e.content picture).length = PixelFormat.bgra8.frameLength width height := by
    rw [LosslessEncoder.length_content, long, wide, high]
  have small := carries.small e.level _ length
  exact (Message.ofBytes_eq_ok_iff _ _).mpr ⟨small, [], (List.append_nil _).symm⟩

/-- A step that encodes a readable picture delivers what the decoder makes of the bytes. -/
theorem step_of_receive {f : CapturedFrame} {picture : Bytes} (packed : f.packed? = some picture)
    (mark : PictureMark) (damaged : Option Bytes) {d : Delivery} {l' : PictureLink}
    (received : receive z ⟨l.encoder.advance picture, l.decoder⟩ f damaged.isNone
      (damaged.getD (Message.encodedFrame (mark.frame f (l.encoder.output z picture))).toBytes) =
        (d, l')) :
    l.step z (.encode f mark damaged) = (some (.delivered d), l') := by
  simp only [step, LosslessEncoder.encode_of_packed packed, received]

/-- What is sent is answered faithfully, and unless a request for a keyframe is owing, it is shown
exactly if it is intact. -/
theorem InStep.step_encode (inStep : l.InStep owing width height)
    (carries : z.Carries (PixelFormat.bgra8.frameLength width height)) {f : CapturedFrame}
    {picture : Bytes} (packed : f.packed? = some picture) (wide : f.width = width)
    (high : f.height = height) (mark : PictureMark) {damaged : Option Bytes}
    (detectable : ∀ bytes ∈ damaged, Detectable z width height bytes) :
    ∃ d l', l.step z (.encode f mark damaged) = (some (.delivered d), l') ∧
      l'.InStep (owingAfter owing (some (.delivered d))) width height ∧
      Faithful d ∧ (owing = false → (d.status = some .ok ↔ d.intact = true)) := by
  cases damaged with
  | some bytes =>
      obtain ⟨g, arrives, bad⟩ := detectable bytes rfl
      rw [← inStep.width, ← inStep.height] at bad
      obtain ⟨d, received, inStep', faithful, intact, status⟩ :=
        inStep.receive_failed (l.encoder.advance picture) f false arrives
          (LosslessDecoder.rebuild?_eq_none bad)
      refine ⟨d, _, step_of_receive packed mark (some bytes) received, inStep', faithful, ?_⟩
      simp [status, intact]
  | none =>
      have arrives := ofBytes_frame carries l.encoder packed wide high mark
      rcases inStep.rebuild_output carries.lossless packed wide high mark with
        rebuilt | ⟨rebuilt, behind⟩
      · obtain ⟨d, received, inStep', faithful, intact, status⟩ :=
          receive_shown inStep.fits owing packed true arrives rebuilt
        refine ⟨d, _, step_of_receive packed mark none received, inStep', faithful, ?_⟩
        simp [status, intact]
      · obtain ⟨d, received, inStep', faithful, intact, status⟩ :=
          inStep.receive_failed (l.encoder.advance picture) f true arrives rebuilt
        refine ⟨d, _, step_of_receive packed mark none received, inStep', faithful, ?_⟩
        intro settled
        rw [settled] at behind
        cases behind

/-- A call leaves encoder and decoder in step. -/
theorem InStep.step (inStep : l.InStep owing width height)
    (carries : z.Carries (PixelFormat.bgra8.frameLength width height)) {c : PictureCall}
    (admissible : c.Admissible z width height) :
    (l.step z c).2.InStep (owingAfter owing (l.step z c).1) width height ∧
      ∀ d, (l.step z c).1 = some (.delivered d) →
        Faithful d ∧ (owing = false → (d.status = some .ok ↔ d.intact = true)) := by
  cases c with
  | requestKeyframe =>
      have forced : InStep ⟨l.encoder.requestKeyframe, l.decoder⟩ false width height :=
        { inStep with repaired := fun _ _ => .inr rfl }
      exact ⟨forced, fun d sent => nomatch sent⟩
  | reconfigure patch =>
      have kept : InStep ⟨l.encoder.reconfigure patch, l.decoder⟩ owing width height :=
        { inStep with }
      exact ⟨kept, fun d sent => nomatch sent⟩
  | encode f mark damaged =>
      obtain ⟨wide, high, detectable⟩ := admissible
      cases packed : f.packed? with
      | none =>
          simp only [PictureLink.step, LosslessEncoder.encode_of_not_packed packed]
          exact ⟨inStep, fun d sent => nomatch sent⟩
      | some picture =>
          obtain ⟨d, l', stepped, inStep', faithful, repaired⟩ :=
            inStep.step_encode carries packed wide high mark detectable
          rw [stepped]
          refine ⟨inStep', ?_⟩
          intro d' same
          obtain rfl := PictureEvent.delivered.inj (Option.some.inj same)
          exact ⟨faithful, repaired⟩

/-- Every picture that is sent during a run is answered faithfully. -/
theorem InStep.run_faithful (inStep : l.InStep owing width height)
    (carries : z.Carries (PixelFormat.bgra8.frameLength width height)) {calls : List PictureCall}
    (admissible : ∀ c ∈ calls, c.Admissible z width height) {d : Delivery}
    (sent : .delivered d ∈ l.run z calls) : Faithful d := by
  induction calls generalizing l owing with
  | nil => cases sent
  | cons c calls ih =>
      obtain ⟨first, rest⟩ := List.forall_mem_cons.mp admissible
      obtain ⟨inStep', faithful⟩ := inStep.step carries first
      rw [run, List.mem_append, Option.mem_toList] at sent
      rcases sent with now | later
      · exact (faithful d now).1
      · exact ih inStep' rest later

/-- If failures are repaired during a run, exactly the intact pictures are shown. -/
theorem InStep.run_shown_iff (inStep : l.InStep owing width height)
    (carries : z.Carries (PixelFormat.bgra8.frameLength width height)) {calls : List PictureCall}
    (admissible : ∀ c ∈ calls, c.Admissible z width height)
    (repairs : Repairs owing (l.run z calls)) {d : Delivery}
    (sent : .delivered d ∈ l.run z calls) : d.status = some .ok ↔ d.intact = true := by
  induction calls generalizing l owing with
  | nil => cases sent
  | cons c calls ih =>
      obtain ⟨first, rest⟩ := List.forall_mem_cons.mp admissible
      obtain ⟨inStep', shown⟩ := inStep.step carries first
      rw [run, List.mem_append, Option.mem_toList] at sent
      rcases sent with now | later
      · rw [run, now] at repairs
        exact (shown d now).2 repairs.1
      · exact ih inStep' rest repairs.tail later

/-- **No wrong picture is ever shown, and a keyframe always repairs.** Whatever an encoder is asked
to encode, and however its outputs are damaged as long as the decoder can tell, what the decoder
shows is the picture captured; and if a keyframe is asked for after every failure, exactly the
intact pictures are shown. -/
theorem shown_iff_intact (z : Compression) (params : EncoderParams) (width height : UInt32)
    (carries : z.Carries (PixelFormat.bgra8.frameLength width height)) (calls : List PictureCall)
    (admissible : ∀ c ∈ calls, c.Admissible z width height) :
    let events := run z ⟨.new params, .new width height⟩ calls
    (∀ d, .delivered d ∈ events → ∃ answer, d.answer = some answer ∧
      (answer.status = .ok → ∃ picture, d.shown = some picture ∧ d.frame.Shows picture)) ∧
    (Repairs false events →
      ∀ d, .delivered d ∈ events → (d.status = some .ok ↔ d.intact = true)) := by
  have inStep := inStep_new params width height
  refine ⟨?_, ?_⟩
  · intro d sent
    exact inStep.run_faithful carries admissible sent
  · intro repairs d sent
    exact inStep.run_shown_iff carries admissible repairs sent

/-- A picture of one pixel in a row of five bytes. -/
def pixel (shade : UInt8) : CapturedFrame :=
  ⟨1, 1, .bgra8, .memory 5 [shade, shade, shade, 255, 0], 0⟩

/-- A frame that no lossless encoder makes. -/
def foreignFrame : EncodedFrame := ⟨.h264, 1, 1, false, 0, 0, 0, 0, []⟩

/-- A run of which the second picture arrives as a foreign frame at first. -/
def repairedRun : List PictureCall :=
  let mark : PictureMark := ⟨0, 0, 0⟩
  [.encode (pixel 1) mark none,
    .encode (pixel 2) mark (some (Message.encodedFrame foreignFrame).toBytes),
    .requestKeyframe, .encode (pixel 2) mark none, .encode (pixel 1) mark none]

/-- The damaged picture fails and the others are shown. -/
theorem repairedRun_shown_iff_intact :
    let events := run .stored ⟨.new ⟨.zstd, 1, 1, 30, 8000000, .none⟩, .new 1 1⟩ repairedRun
    .delivered ⟨pixel 2, false, some (.withStatus .failed), none⟩ ∈ events ∧
      ∀ d, .delivered d ∈ events → (d.status = some .ok ↔ d.intact = true) := by
  have carries : Compression.stored.Carries (PixelFormat.bgra8.frameLength 1 1) :=
    Compression.stored_carries (by decide)
  have whole : ∀ bytes ∈ (none : Option Bytes), Detectable .stored 1 1 bytes :=
    fun _ member => nomatch member
  have admissible : ∀ c ∈ repairedRun, c.Admissible .stored 1 1 := by
    intro c member
    simp only [repairedRun, List.mem_cons, List.not_mem_nil, or_false] at member
    rcases member with rfl | rfl | rfl | rfl | rfl
    · exact ⟨rfl, rfl, whole⟩
    · refine ⟨rfl, rfl, ?_⟩
      intro bytes member
      obtain rfl := Option.some.inj member
      have arrives := (Message.ofBytes_eq_ok_iff _ (.encodedFrame foreignFrame)).mpr
        ⟨Nat.two_pow_pos 64, [], (List.append_nil _).symm⟩
      exact ⟨foreignFrame, arrives, .inl Codec.noConfusion⟩
    · trivial
    · exact ⟨rfl, rfl, whole⟩
    · exact ⟨rfl, rfl, whole⟩
  have shown := shown_iff_intact .stored ⟨.zstd, 1, 1, 30, 8000000, .none⟩ 1 1 carries repairedRun
    admissible
  exact ⟨by decide +kernel, shown.2 (by decide +kernel)⟩

end PictureLink

end Screencast
