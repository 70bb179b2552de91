import Screencast.Wire.Layout
import Screencast.Cursor.Basic
import Screencast.Error
import Screencast.Number.Single

/-! # Messages between host and client

The seven kinds of message and their one written form. A message begins with the number of its
kind in four bytes; the parts follow in order.
-/

namespace Screencast.Wire

/-- Who may set the bitrate from now on. -/
inductive RateTrigger
  /-- The host adapts the bitrate by itself again. -/
  | turnOnAuto
  /-- The user has chosen; nothing but the user changes the bitrate. -/
  | turnOffAuto
deriving DecidableEq, Repr, Inhabited

/-- Asks for other encoder rates. Without a trigger the wish is an automatic one. -/
structure RateRequest where
  trigger : Option RateTrigger := none
  bitrate : Option UInt64 := none
  fps : Option UInt32 := none
deriving DecidableEq, Repr, Inhabited

namespace RateRequest

/-- An automatic adjustment. -/
def auto (bitrate : UInt64) : RateRequest := ⟨none, some bitrate, none⟩

/-- A bitrate chosen by the user. -/
def manual (bitrate : UInt64) : RateRequest := ⟨some .turnOffAuto, some bitrate, none⟩

/-- Hands the bitrate back to the host. -/
def turnOnAuto : RateRequest := ⟨some .turnOnAuto, none, none⟩

def withFps (r : RateRequest) (fps : UInt32) : RateRequest := { r with fps := some fps }

/-- The rates asked for. -/
def patch (r : RateRequest) : RatePatch :=
  ⟨r.bitrate.map UInt64.toNat, r.fps.map UInt32.toNat⟩

end RateRequest

/-- What the client saw of the transport since its last report. -/
structure TransportStat where
  /-- Packets asked for again. -/
  nack : UInt32
  /-- Estimated bandwidth in bits a second, 0 when there is no estimate. -/
  bandwidth : UInt64
  /-- Share of packets lost. -/
  lossRate : Single
deriving DecidableEq, Repr, Inhabited

/-- A message. -/
inductive Message
  | encodedFrame (frame : EncodedFrame)
  | requestKeyframe
  | reconfigureEncoder (request : RateRequest)
  /-- Proposes a display mode. -/
  | changeStreamingParams (mode : DisplayMode)
  /-- Accepts a proposed display mode. -/
  | changeStreamingParamsAck (mode : DisplayMode)
  | sendSideStat (stat : TransportStat)
  | cursorInfo (info : CursorInfo)
deriving DecidableEq, Repr

instance : Inhabited Message := ⟨.requestKeyframe⟩

/-- The name of a message's kind. -/
def Message.kind : Message → String
  | encodedFrame _ => "EncodedFrame"
  | requestKeyframe => "RequestKeyframe"
  | reconfigureEncoder _ => "ReconfigureEncoder"
  | changeStreamingParams _ => "ChangeStreamingParams"
  | changeStreamingParamsAck _ => "ChangeStreamingParamsAck"
  | sendSideStat _ => "SendSideStat"
  | cursorInfo _ => "CursorInfo"

namespace Layout

def single : Layout Single := u32.map Single.mk Single.bits

def encodedFrame : Layout EncodedFrame :=
  ((choice Codec.all).pair <| u32.pair <| u32.pair <| bool.pair <| u64.pair <| u64.pair <|
    u64.pair <| u64.pair bytes).map
    (fun (codec, width, height, key, id, captured, start, finish, payload) =>
      ⟨codec, width, height, key, id, captured, start, finish, payload⟩)
    (fun f => (f.codec, f.width, f.height, f.isKeyframe, f.pictureId, f.captureTime,
      f.encodeStart, f.encodeEnd, f.payload))

def rateRequest : Layout RateRequest :=
  ((choice [RateTrigger.turnOnAuto, .turnOffAuto]).option.pair <| u64.option.pair u32.option).map
    (fun (trigger, bitrate, fps) => ⟨trigger, bitrate, fps⟩)
    (fun r => (r.trigger, r.bitrate, r.fps))

def displayMode : Layout DisplayMode :=
  (u32.pair <| u32.pair <| u32.pair <| choice Rotation.all).map
    (fun (width, height, refreshRate, rotation) => ⟨width, height, refreshRate, rotation⟩)
    (fun m => (m.width, m.height, m.refreshRate, m.rotation))

def transportStat : Layout TransportStat :=
  (u32.pair <| u64.pair single).map
    (fun (nack, bandwidth, lossRate) => ⟨nack, bandwidth, lossRate⟩)
    (fun s => (s.nack, s.bandwidth, s.lossRate))

def cursorBitmap : Layout CursorBitmap :=
  (u32.pair <| u32.pair <| u32.pair <| u32.pair bytes).map
    (fun (width, height, hotspotX, hotspotY, data) => ⟨width, height, hotspotX, hotspotY, data⟩)
    (fun b => (b.width, b.height, b.hotspotX, b.hotspotY, b.data))

def cursorShape : Layout CursorShape where
  write
    | .preset id => writeTagged 0 (u32.write id)
    | .bitmap bitmap id => writeTagged 1 ((cursorBitmap.pair u32).write (bitmap, id))
    | .cached id => writeTagged 2 (u32.write id)
  read := readTagged 3 fun
    | 0 => some (u32.readAs .preset)
    | 1 => some ((cursorBitmap.pair u32).readAs fun (bitmap, id) => .bitmap bitmap id)
    | 2 => some (u32.readAs .cached)
    | _ => none

def cursorInfo : Layout CursorInfo :=
  (i32.pair <| i32.pair <| bool.pair cursorShape).map
    (fun (x, y, visible, shape) => ⟨x, y, visible, shape⟩)
    (fun c => (c.x, c.y, c.visible, c.shape))

def message : Layout Message where
  write
    | .encodedFrame frame => writeTagged 0 (encodedFrame.write frame)
    | .requestKeyframe => writeTagged 1 []
    | .reconfigureEncoder request => writeTagged 2 (rateRequest.write request)
    | .changeStreamingParams mode => writeTagged 3 (displayMode.write mode)
    | .changeStreamingParamsAck mode => writeTagged 4 (displayMode.write mode)
    | .sendSideStat stat => writeTagged 5 (transportStat.write stat)
    | .cursorInfo info => writeTagged 6 (cursorInfo.write info)
  read := readTagged 7 fun
    | 0 => some (encodedFrame.readAs .encodedFrame)
    | 1 => some fun rest => .ok (.requestKeyframe, rest)
    | 2 => some (rateRequest.readAs .reconfigureEncoder)
    | 3 => some (displayMode.readAs .changeStreamingParams)
    | 4 => some (displayMode.readAs .changeStreamingParamsAck)
    | 5 => some (transportStat.readAs .sendSideStat)
    | 6 => some (cursorInfo.readAs .cursorInfo)
    | _ => none

end Layout

namespace Message

/-- The written form of a message. -/
def toBytes (m : Message) : Bytes := Layout.message.write m

/-- Reads a message from the front of `input`, whatever follows it. -/
def read (input : Bytes) : Except Fault Message :=
  match Layout.message.read input with
  | .ok (m, _) => .ok m
  | .error fault => .error fault

/-- Reads a message; the failure carries the wording of the first field at fault. -/
def ofBytes (input : Bytes) : Except StreamError Message :=
  match read input with
  | .ok m => .ok m
  | .error fault => .error (.encoding fault.message)

end Message

end Screencast.Wire
