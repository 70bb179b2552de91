import Screencast.Wire.Message
import Screencast.Proofs.Wire.Canonical

/-! # The one written form of a message

The layout of messages is canonical on the messages whose byte strings have a length of 64 bits
(`Screencast.Wire.Layout.canonical_message`). So what is read from bytes is exactly the message
whose written form they begin with (`Screencast.Wire.Message.ofBytes_eq_ok_iff`); every other
input is refused, and no written form begins another
(`Screencast.Wire.Message.ofBytes_accepts_written_forms`).
-/

namespace Screencast

/-- The length of a bitmap's bytes can be written in 64 bits. -/
def CursorShape.Writable : CursorShape → Prop
  | .bitmap content _ => content.data.length < 2 ^ 64
  | .preset _ | .cached _ => True

namespace Wire

/-- The lengths of a message's byte strings can be written in 64 bits. -/
def Message.Writable : Message → Prop
  | .encodedFrame frame => frame.payload.length < 2 ^ 64
  | .cursorInfo info => info.shape.Writable
  | _ => True

namespace Layout

variable {α β : Type} {layout : Layout α} {fits : α → Prop}

private theorem writeTagged_append (tag : Nat) (content rest : Bytes) :
    writeTagged tag (content ++ rest) = writeTagged tag content ++ rest :=
  (List.append_assoc ..).symm

/-- A value written under the tag of its alternative is read by that alternative. -/
theorem Canonical.readTagged_write (canonical : layout.Canonical fits) {count : Nat}
    {alternatives : Nat → Option (Bytes → Except Fault (β × Bytes))} (tag : Nat) (pack : α → β)
    (small : tag < 256 ^ 4) (found : alternatives tag = some (layout.readAs pack))
    (a : α) (fit : fits a) (rest : Bytes) :
    readTagged count alternatives (writeTagged tag (layout.write a) ++ rest) =
      .ok (pack a, rest) := by
  rw [← writeTagged_append]
  exact readTagged_eq_ok_iff.mpr ⟨tag, _, _, small, rfl, found,
    readAs_eq_ok_iff.mpr ⟨a, canonical.read_write a fit rest, rfl⟩⟩

/-- What an alternative reads under its tag was written there. -/
theorem Canonical.write_of_readAs (canonical : layout.Canonical fits) {pack : α → β}
    {read : Bytes → Except Fault (β × Bytes)} (found : some (layout.readAs pack) = some read)
    {content rest : Bytes} {b : β} (accepted : read content = .ok (b, rest)) (tag : Nat) :
    ∃ a, fits a ∧ pack a = b ∧
      writeTagged tag content = writeTagged tag (layout.write a) ++ rest := by
  obtain rfl := Option.some.inj found
  obtain ⟨a, readAs, packed⟩ := readAs_eq_ok_iff.mp accepted
  obtain ⟨fit, rfl⟩ := canonical.write_of_read _ _ _ readAs
  exact ⟨a, fit, packed, writeTagged_append ..⟩

/-- A codec has one form. -/
theorem canonical_codec : (choice Codec.all).Canonical (fun _ => True) :=
  (canonical_choice (by decide) (by decide)).congr fun codec =>
    iff_of_true (by cases codec <;> decide) trivial

/-- A rotation has one form. -/
theorem canonical_rotation : (choice Rotation.all).Canonical (fun _ => True) :=
  (canonical_choice (by decide) (by decide)).congr fun rotation =>
    iff_of_true (by cases rotation <;> decide) trivial

/-- A switch of the rate control has one form. -/
theorem canonical_rateTrigger :
    (choice [RateTrigger.turnOnAuto, .turnOffAuto]).Canonical (fun _ => True) :=
  (canonical_choice (by decide) (by decide)).congr fun trigger =>
    iff_of_true (by cases trigger <;> decide) trivial

/-- A single-precision number has one form, its bits. -/
theorem canonical_single : single.Canonical (fun _ => True) :=
  canonical_u32.map (fun _ => rfl) fun _ _ => rfl

private theorem canonical_encodedFrame :
    encodedFrame.Canonical (fun frame => frame.payload.length < 2 ^ 64) :=
  ((canonical_codec.pair <| canonical_u32.pair <| canonical_u32.pair <| canonical_bool.pair <|
    canonical_u64.pair <| canonical_u64.pair <| canonical_u64.pair <| canonical_u64.pair
    canonical_bytes).map (fun _ => rfl) fun _ _ => rfl).congr
    fun _ => by simp only [true_and, Nat.reducePow]

private theorem canonical_rateRequest : rateRequest.Canonical (fun _ => True) :=
  ((canonical_rateTrigger.option.pair <| canonical_u64.option.pair canonical_u32.option).map
    (fun _ => rfl) fun _ _ => rfl).congr
    fun _ => by simp only [implies_true, and_self]

private theorem canonical_displayMode : displayMode.Canonical (fun _ => True) :=
  ((canonical_u32.pair <| canonical_u32.pair <| canonical_u32.pair canonical_rotation).map
    (fun _ => rfl) fun _ _ => rfl).congr
    fun _ => by simp only [and_self]

private theorem canonical_transportStat : transportStat.Canonical (fun _ => True) :=
  ((canonical_u32.pair <| canonical_u64.pair canonical_single).map
    (fun _ => rfl) fun _ _ => rfl).congr
    fun _ => by simp only [and_self]

private theorem canonical_cursorBitmap :
    cursorBitmap.Canonical (fun bitmap => bitmap.data.length < 2 ^ 64) :=
  ((canonical_u32.pair <| canonical_u32.pair <| canonical_u32.pair <| canonical_u32.pair
    canonical_bytes).map (fun _ => rfl) fun _ _ => rfl).congr
    fun _ => by simp only [true_and, Nat.reducePow]

/-- A bitmap with the number it is given. -/
theorem canonical_numberedBitmap :
    (cursorBitmap.pair u32).Canonical (fun v => v.1.data.length < 2 ^ 64) :=
  (canonical_cursorBitmap.pair canonical_u32).congr fun _ => by simp only [and_true]

/-- A cursor's shape has one form, its kind in front. -/
theorem canonical_cursorShape : cursorShape.Canonical CursorShape.Writable where
  read_write shape fit rest := by
    simp only [cursorShape]
    cases shape with
    | preset id =>
        exact canonical_u32.readTagged_write 0 CursorShape.preset (by decide) rfl id trivial rest
    | bitmap bitmap id =>
        exact canonical_numberedBitmap.readTagged_write 1 (fun v => CursorShape.bitmap v.1 v.2)
          (by decide) rfl (bitmap, id) fit rest
    | cached id =>
        exact canonical_u32.readTagged_write 2 CursorShape.cached (by decide) rfl id trivial rest
  write_of_read input shape rest accepted := by
    obtain ⟨tag, content, read, _, rfl, found, result⟩ := readTagged_eq_ok_iff.mp accepted
    -- Otherwise the match carries the whole reader along into each of its cases.
    clear accepted
    match tag with
    | 0 =>
        obtain ⟨id, _, rfl, written⟩ := canonical_u32.write_of_readAs found result 0
        exact ⟨trivial, written⟩
    | 1 =>
        obtain ⟨bitmap, fit, rfl, written⟩ :=
          canonical_numberedBitmap.write_of_readAs found result 1
        exact ⟨fit, written⟩
    | 2 =>
        obtain ⟨id, _, rfl, written⟩ := canonical_u32.write_of_readAs found result 2
        exact ⟨trivial, written⟩
    | _ + 3 => exact absurd found (by simp only [reduceCtorEq, not_false_eq_true])

private theorem canonical_cursorInfo :
    cursorInfo.Canonical (fun info => info.shape.Writable) :=
  ((canonical_i32.pair <| canonical_i32.pair <| canonical_bool.pair canonical_cursorShape).map
    (fun _ => rfl) fun _ _ => rfl).congr
    fun _ => by simp only [true_and]

/-- **The layout of messages is canonical.** -/
theorem canonical_message : message.Canonical Message.Writable where
  read_write m fit rest := by
    simp only [message]
    cases m with
    | encodedFrame frame =>
        exact canonical_encodedFrame.readTagged_write 0 Message.encodedFrame (by decide) rfl
          frame fit rest
    | requestKeyframe =>
        exact readTagged_eq_ok_iff.mpr ⟨1, rest, fun rest => .ok (.requestKeyframe, rest),
          by decide, (writeTagged_append 1 [] rest).symm, rfl, rfl⟩
    | reconfigureEncoder request =>
        exact canonical_rateRequest.readTagged_write 2 Message.reconfigureEncoder (by decide) rfl
          request trivial rest
    | changeStreamingParams mode =>
        exact canonical_displayMode.readTagged_write 3 Message.changeStreamingParams (by decide)
          rfl mode trivial rest
    | changeStreamingParamsAck mode =>
        exact canonical_displayMode.readTagged_write 4 Message.changeStreamingParamsAck
          (by decide) rfl mode trivial rest
    | sendSideStat stat =>
        exact canonical_transportStat.readTagged_write 5 Message.sendSideStat (by decide) rfl
          stat trivial rest
    | cursorInfo info =>
        exact canonical_cursorInfo.readTagged_write 6 Message.cursorInfo (by decide) rfl
          info fit rest
  write_of_read input m rest accepted := by
    obtain ⟨tag, content, read, _, rfl, found, result⟩ := readTagged_eq_ok_iff.mp accepted
    clear accepted
    match tag with
    | 0 =>
        obtain ⟨frame, fit, rfl, written⟩ := canonical_encodedFrame.write_of_readAs found result 0
        exact ⟨fit, written⟩
    | 1 =>
        obtain rfl := Option.some.inj found
        obtain ⟨rfl, rfl⟩ := Prod.mk.inj (Except.ok.inj result)
        exact ⟨trivial, writeTagged_append 1 [] content⟩
    | 2 =>
        obtain ⟨request, _, rfl, written⟩ := canonical_rateRequest.write_of_readAs found result 2
        exact ⟨trivial, written⟩
    | 3 =>
        obtain ⟨mode, _, rfl, written⟩ := canonical_displayMode.write_of_readAs found result 3
        exact ⟨trivial, written⟩
    | 4 =>
        obtain ⟨mode, _, rfl, written⟩ := canonical_displayMode.write_of_readAs found result 4
        exact ⟨trivial, written⟩
    | 5 =>
        obtain ⟨stat, _, rfl, written⟩ := canonical_transportStat.write_of_readAs found result 5
        exact ⟨trivial, written⟩
    | 6 =>
        obtain ⟨info, fit, rfl, written⟩ := canonical_cursorInfo.write_of_readAs found result 6
        exact ⟨fit, written⟩
    | _ + 7 => exact absurd found (by simp only [reduceCtorEq, not_false_eq_true])

end Layout

namespace Message

/-- What is read from bytes is the message whose written form they begin with. -/
theorem ofBytes_eq_ok_iff (input : Bytes) (m : Message) :
    ofBytes input = .ok m ↔ m.Writable ∧ ∃ rest, input = m.toBytes ++ rest := by
  unfold ofBytes read
  constructor
  · intro accepted
    cases result : Layout.message.read input with
    | error fault => simp only [result, reduceCtorEq] at accepted
    | ok found =>
        obtain ⟨m', rest⟩ := found
        simp only [result, Except.ok.injEq] at accepted
        subst accepted
        obtain ⟨fit, written⟩ := Layout.canonical_message.write_of_read _ _ _ result
        exact ⟨fit, rest, written⟩
  · rintro ⟨fit, rest, rfl⟩
    simp only [toBytes, Layout.canonical_message.read_write m fit rest]

/-- Bytes that are no message are refused with the wording of a fault. -/
theorem ofBytes_eq_error_of_no_message {input : Bytes} (unread : ∀ m, ofBytes input ≠ .ok m) :
    ∃ fault : Fault, ofBytes input = .error (.encoding fault.message) := by
  unfold ofBytes at unread ⊢
  cases result : read input with
  | ok m => exact absurd (by rw [result]) (unread m)
  | error fault => exact ⟨fault, rfl⟩

/-- **A message has one written form, and nothing else is read.** Bytes are read as a message
exactly when they begin with its written form, whatever follows; bytes that begin with no written
form are refused as an encoding failure; and no written form begins another. -/
theorem ofBytes_accepts_written_forms :
    (∀ (input : Bytes) (m : Message),
      ofBytes input = .ok m ↔ m.Writable ∧ ∃ rest, input = m.toBytes ++ rest) ∧
    (∀ input : Bytes, (¬∃ m rest, Writable m ∧ input = m.toBytes ++ rest) →
      ∃ fault : Fault, ofBytes input = .error (.encoding fault.message)) ∧
    (∀ m m' : Message, m.Writable → m'.Writable → m.toBytes <+: m'.toBytes → m = m') := by
  refine ⟨ofBytes_eq_ok_iff, ?_, ?_⟩
  · intro input unwritten
    apply ofBytes_eq_error_of_no_message
    intro m accepted
    obtain ⟨fit, rest, written⟩ := (ofBytes_eq_ok_iff input m).mp accepted
    exact unwritten ⟨m, rest, fit, written⟩
  · intro m m' fit fit' begins
    obtain ⟨rest, joined⟩ := begins
    have readFirst : ofBytes m'.toBytes = .ok m :=
      (ofBytes_eq_ok_iff _ m).mpr ⟨fit, rest, joined.symm⟩
    have readSecond : ofBytes m'.toBytes = .ok m' :=
      (ofBytes_eq_ok_iff _ m').mpr ⟨fit', [], (List.append_nil _).symm⟩
    exact Except.ok.inj (readFirst.symm.trans readSecond)

/-- A report is read although a byte follows it, and there is no message of kind 7. -/
theorem ofBytes_accepts_report :
    ofBytes ([5, 0, 0, 0, 3, 0, 0, 0, 0, 18, 122, 0, 0, 0, 0, 0, 10, 215, 35, 60] ++ [255]) =
        .ok (.sendSideStat ⟨3, 8000000, ⟨0x3c23d70a⟩⟩) ∧
      ∃ fault : Fault, ofBytes [7, 0, 0, 0] = .error (.encoding fault.message) := by
  have accepts := ofBytes_accepts_written_forms
  have report : [5, 0, 0, 0, 3, 0, 0, 0, 0, 18, 122, 0, 0, 0, 0, 0, 10, 215, 35, 60] =
      (Message.sendSideStat ⟨3, 8000000, ⟨0x3c23d70a⟩⟩).toBytes := by decide +kernel
  have refused : ofBytes [7, 0, 0, 0] = .error (.encoding (Fault.invalidVariant 7 7).message) := rfl
  constructor
  · exact (accepts.1 _ _).mpr ⟨trivial, [255], congrArg (· ++ [255]) report⟩
  · apply accepts.2.1
    rintro ⟨m, rest, fit, written⟩
    have read : ofBytes [7, 0, 0, 0] = .ok m := (accepts.1 _ _).mpr ⟨fit, rest, written⟩
    rw [refused] at read
    cases read

end Message

end Wire

end Screencast
