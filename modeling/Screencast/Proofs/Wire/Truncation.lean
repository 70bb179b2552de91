import Screencast.Proofs.Wire.Fields
import Screencast.Proofs.Wire.Message

/-! # Messages that are cut short

The written form of a message is a sequence of fields (`Screencast.Wire.Message.fields`), and the
layout of messages writes and reads it field by field
(`Screencast.Wire.Layout.byFields_message`). So whatever is cut off its end, what is left is refused
as input that ends early, and never for the content of a field; the wording tells a cut inside a
byte string from every other (`Screencast.Wire.Message.ofBytes_tells_truncation`).
-/

namespace Screencast

open Wire Wire.Layout

/-- The fields of an encoded frame. -/
def EncodedFrame.fields (f : EncodedFrame) : List Field :=
  [(choice Codec.all).field f.codec, u32.field f.width, u32.field f.height, bool.field f.isKeyframe,
    u64.field f.pictureId, u64.field f.captureTime, u64.field f.encodeStart, u64.field f.encodeEnd,
    .string f.payload]

/-- The fields of a display mode. -/
def DisplayMode.fields (m : DisplayMode) : List Field :=
  [u32.field m.width, u32.field m.height, u32.field m.refreshRate,
    (choice Rotation.all).field m.rotation]

/-- The fields of a cursor's bitmap, the pixels last. -/
def CursorBitmap.fields (b : CursorBitmap) : List Field :=
  [u32.field b.width, u32.field b.height, u32.field b.hotspotX, u32.field b.hotspotY,
    .string b.data]

/-- The fields of a cursor's shape, behind the tag of its kind. -/
def CursorShape.fields : CursorShape → List Field
  | .preset id => [tagField 0, u32.field id]
  | .bitmap content id => tagField 1 :: (content.fields ++ [u32.field id])
  | .cached id => [tagField 2, u32.field id]

/-- The fields of a cursor. -/
def CursorInfo.fields (c : CursorInfo) : List Field :=
  i32.field c.x :: i32.field c.y :: bool.field c.visible :: c.shape.fields

namespace Wire

/-- The fields of a rate request, each of which may be left out. -/
def RateRequest.fields (r : RateRequest) : List Field :=
  optionFields (fun t => [(choice [RateTrigger.turnOnAuto, .turnOffAuto]).field t]) r.trigger ++
    (optionFields (fun n => [u64.field n]) r.bitrate ++ optionFields (fun n => [u32.field n]) r.fps)

/-- The fields of a transport report. -/
def TransportStat.fields (s : TransportStat) : List Field :=
  [u32.field s.nack, u64.field s.bandwidth, single.field s.lossRate]

/-- The fields of a message: the number of its kind, then those of its parts, in order. -/
def Message.fields : Message → List Field
  | encodedFrame frame => tagField 0 :: frame.fields
  | requestKeyframe => [tagField 1]
  | reconfigureEncoder request => tagField 2 :: request.fields
  | changeStreamingParams mode => tagField 3 :: mode.fields
  | changeStreamingParamsAck mode => tagField 4 :: mode.fields
  | sendSideStat stat => tagField 5 :: stat.fields
  | cursorInfo info => tagField 6 :: info.fields

namespace Layout

private theorem byFields_u32 : u32.ByFields (fun _ => True) fun n => [u32.field n] :=
  canonical_u32.byField fixedWidth_u32

private theorem byFields_u64 : u64.ByFields (fun _ => True) fun n => [u64.field n] :=
  canonical_u64.byField fixedWidth_u64

private theorem byFields_i32 : i32.ByFields (fun _ => True) fun n => [i32.field n] :=
  canonical_i32.byField (fixedWidth_u32.map ..)

private theorem byFields_bool : bool.ByFields (fun _ => True) fun b => [bool.field b] :=
  canonical_bool.byField fixedWidth_bool

private theorem byFields_encodedFrame :
    encodedFrame.ByFields (fun frame => frame.payload.length < 2 ^ 64) EncodedFrame.fields :=
  (((canonical_codec.byField (fixedWidth_choice _)).pair <| byFields_u32.pair <|
    byFields_u32.pair <| byFields_bool.pair <| byFields_u64.pair <| byFields_u64.pair <|
    byFields_u64.pair <| byFields_u64.pair byFields_bytes).map (fun _ => rfl) fun _ _ => rfl).congr
    fun _ => by simp only [true_and, Nat.reducePow]

private theorem byFields_rateRequest : rateRequest.ByFields (fun _ => True) RateRequest.fields :=
  (((canonical_rateTrigger.byField (fixedWidth_choice _)).option.pair <|
    byFields_u64.option.pair byFields_u32.option).map (fun _ => rfl) fun _ _ => rfl).congr
    fun _ => by simp only [implies_true, and_self]

private theorem byFields_displayMode : displayMode.ByFields (fun _ => True) DisplayMode.fields :=
  ((byFields_u32.pair <| byFields_u32.pair <| byFields_u32.pair <|
    canonical_rotation.byField (fixedWidth_choice _)).map (fun _ => rfl) fun _ _ => rfl).congr
    fun _ => by simp only [and_self]

private theorem byFields_transportStat :
    transportStat.ByFields (fun _ => True) TransportStat.fields :=
  ((byFields_u32.pair <| byFields_u64.pair <|
    canonical_single.byField (fixedWidth_u32.map ..)).map (fun _ => rfl) fun _ _ => rfl).congr
    fun _ => by simp only [and_self]

private theorem byFields_cursorBitmap :
    cursorBitmap.ByFields (fun bitmap => bitmap.data.length < 2 ^ 64) CursorBitmap.fields :=
  ((byFields_u32.pair <| byFields_u32.pair <| byFields_u32.pair <| byFields_u32.pair
    byFields_bytes).map (fun _ => rfl) fun _ _ => rfl).congr
    fun _ => by simp only [true_and, Nat.reducePow]

/-- A bitmap with the number it is given. -/
theorem byFields_numberedBitmap :
    (cursorBitmap.pair u32).ByFields (fun v => v.1.data.length < 2 ^ 64)
      fun v => v.1.fields ++ [u32.field v.2] :=
  (byFields_cursorBitmap.pair byFields_u32).congr fun _ => by simp only [and_true]

private theorem byFields_cursorShape :
    cursorShape.ByFields CursorShape.Writable CursorShape.fields where
  toCanonical := canonical_cursorShape
  write_eq shape := by
    cases shape with
    | preset id => exact byFields_u32.writeTagged_eq 0 id
    | bitmap bitmap id => exact byFields_numberedBitmap.writeTagged_eq 1 (bitmap, id)
    | cached id => exact byFields_u32.writeTagged_eq 2 id
  read_take shape fit n short := by
    simp only [cursorShape] at short ⊢
    cases shape with
    | preset id =>
        exact byFields_u32.readTagged_take 0 CursorShape.preset (by decide) rfl id trivial n short
    | bitmap bitmap id =>
        exact byFields_numberedBitmap.readTagged_take 1 (fun v => CursorShape.bitmap v.1 v.2)
          (by decide) rfl (bitmap, id) fit n short
    | cached id =>
        exact byFields_u32.readTagged_take 2 CursorShape.cached (by decide) rfl id trivial n short

private theorem byFields_cursorInfo :
    cursorInfo.ByFields (fun info => info.shape.Writable) CursorInfo.fields :=
  ((byFields_i32.pair <| byFields_i32.pair <| byFields_bool.pair byFields_cursorShape).map
    (fun _ => rfl) fun _ _ => rfl).congr
    fun _ => by simp only [true_and]

/-- **Messages are written field by field.** -/
theorem byFields_message : message.ByFields Message.Writable Message.fields where
  toCanonical := canonical_message
  write_eq m := by
    cases m with
    | encodedFrame frame => exact byFields_encodedFrame.writeTagged_eq 0 frame
    | requestKeyframe => rfl
    | reconfigureEncoder request => exact byFields_rateRequest.writeTagged_eq 2 request
    | changeStreamingParams mode => exact byFields_displayMode.writeTagged_eq 3 mode
    | changeStreamingParamsAck mode => exact byFields_displayMode.writeTagged_eq 4 mode
    | sendSideStat stat => exact byFields_transportStat.writeTagged_eq 5 stat
    | cursorInfo info => exact byFields_cursorInfo.writeTagged_eq 6 info
  read_take m fit n short := by
    simp only [message] at short ⊢
    cases m with
    | encodedFrame frame =>
        exact byFields_encodedFrame.readTagged_take 0 Message.encodedFrame (by decide) rfl
          frame fit n short
    | requestKeyframe =>
        have inTag : ((writeTagged 1 []).take n).length < 4 :=
          Nat.lt_of_le_of_lt (List.length_take_le ..) short
        rw [Message.fields, Field.missingAfter_cons_of_lt [] short]
        exact readTagged_short inTag
    | reconfigureEncoder request =>
        exact byFields_rateRequest.readTagged_take 2 Message.reconfigureEncoder (by decide) rfl
          request trivial n short
    | changeStreamingParams mode =>
        exact byFields_displayMode.readTagged_take 3 Message.changeStreamingParams (by decide) rfl
          mode trivial n short
    | changeStreamingParamsAck mode =>
        exact byFields_displayMode.readTagged_take 4 Message.changeStreamingParamsAck (by decide)
          rfl mode trivial n short
    | sendSideStat stat =>
        exact byFields_transportStat.readTagged_take 5 Message.sendSideStat (by decide) rfl
          stat trivial n short
    | cursorInfo info =>
        exact byFields_cursorInfo.readTagged_take 6 Message.cursorInfo (by decide) rfl
          info fit n short

end Layout

/-- The second letter of the wording tells input that ends early from every other fault. -/
theorem Fault.eq_of_letter {fault : Fault} (letter : fault.message.toList[1]? = some 'o') :
    fault = .shortBytes ∨ fault = .unexpectedEnd := by
  cases fault with
  | shortBytes => exact .inl rfl
  | unexpectedEnd => exact .inr rfl
  | invalidVariant tag count =>
      unfold message at letter
      rw [String.toList_append, String.toList_append, String.toList_append,
        String.toList_ofList] at letter
      cases letter
  | invalidOption flag =>
      unfold message at letter
      rw [String.toList_append, String.toList_ofList] at letter
      cases letter
  | invalidBool flag =>
      unfold message at letter
      rw [String.toList_append, String.toList_ofList] at letter
      cases letter

namespace Message

/-- A message that is cut short is at fault for the field that it ends in. -/
theorem read_take (m : Message) (fit : m.Writable) (n : Nat) (short : n < m.toBytes.length) :
    read (m.toBytes.take n) =
      .error (if Field.EndsInString m.fields n then .shortBytes else .unexpectedEnd) := by
  have refused : Layout.message.read (m.toBytes.take n) =
      .error (Field.missingAfter n m.fields) := Layout.byFields_message.read_take m fit n short
  rw [read, refused, Field.missingAfter_eq]

/-- **A message that is cut short is refused as such.** The written form of a message is its fields,
one after the other. If some of it is missing at the end, what is left is never read as a message
nor refused for what a field holds: it ends in a byte string, after the length and before the last
of the bytes, or anywhere else, and the wording tells which. The wording alone shows that the input
ended early, for no other fault is worded so. -/
theorem ofBytes_tells_truncation (m : Message) (fit : m.Writable) (n : Nat)
    (short : n < m.toBytes.length) :
    m.toBytes = Field.writeAll m.fields ∧
    read (m.toBytes.take n) =
      .error (if Field.EndsInString m.fields n then .shortBytes else .unexpectedEnd) ∧
    ofBytes (m.toBytes.take n) =
      .error (.encoding (if Field.EndsInString m.fields n then "io error: "
        else "io error: unexpected end of file")) ∧
    ∀ fault : Fault, ofBytes (m.toBytes.take n) = .error (.encoding fault.message) →
      fault = .shortBytes ∨ fault = .unexpectedEnd := by
  have refused := read_take m fit n short
  have worded : ofBytes (m.toBytes.take n) =
      .error (.encoding (if Field.EndsInString m.fields n then "io error: "
        else "io error: unexpected end of file")) := by
    rw [ofBytes, refused]
    dsimp only
    rw [apply_ite Fault.message]
    rfl
  refine ⟨Layout.byFields_message.write_eq m, refused, worded, fun fault said => ?_⟩
  rw [worded, Except.error.injEq, StreamError.encoding.injEq] at said
  apply Fault.eq_of_letter
  rw [← said]
  split
  next =>
    rw [String.toList_ofList]
    rfl
  next =>
    rw [String.toList_ofList]
    rfl

/-- A pointer of one pixel; its four bytes stand between their length and the pointer's number. -/
def onePixel : Message := .cursorInfo ⟨3, -4, true, .bitmap ⟨1, 1, 0, 0, [9, 8, 7, 255]⟩ 5⟩

/-- The message cut within the length of its pixels, at both ends of the pixels and behind them. -/
theorem ofBytes_onePixel_take :
    onePixel.toBytes.length = 49 ∧
      ofBytes (onePixel.toBytes.take 40) =
        .error (.encoding "io error: unexpected end of file") ∧
      ofBytes (onePixel.toBytes.take 41) = .error (.encoding "io error: ") ∧
      ofBytes (onePixel.toBytes.take 44) = .error (.encoding "io error: ") ∧
      ofBytes (onePixel.toBytes.take 45) =
        .error (.encoding "io error: unexpected end of file") := by
  have length : onePixel.toBytes.length = 49 := by decide +kernel
  have fit : onePixel.Writable := by
    change [9, 8, 7, 255].length < 2 ^ 64
    decide
  have said (n : Nat) (short : n < 49) :=
    (ofBytes_tells_truncation onePixel fit n (length ▸ short)).2.2.1
  refine ⟨length, ?_, ?_, ?_, ?_⟩
  · rw [said 40 (by decide), if_neg (by decide +kernel)]
  · rw [said 41 (by decide), if_pos (by decide +kernel)]
  · rw [said 44 (by decide), if_pos (by decide +kernel)]
  · rw [said 45 (by decide), if_neg (by decide +kernel)]

end Message

end Wire

end Screencast
