import Screencast.Bytes
import Screencast.Media.Display

/-! # Pictures on their way from the screen to the screen

A captured picture belongs to the capturer; an encoded one crosses the wire; a decoded one is a
texture the renderer knows by number.
-/

namespace Screencast

/-- How pixels lie in memory. -/
inductive PixelFormat
  /-- Four bytes a pixel: blue, green, red, alpha. -/
  | bgra8
  /-- A luma plane and a chroma plane of half the resolution. -/
  | nv12
deriving DecidableEq, Repr, Inhabited

namespace PixelFormat

def name : PixelFormat → String
  | bgra8 => "bgra8"
  | nv12 => "nv12"

def label : PixelFormat → String
  | bgra8 => "Bgra8"
  | nv12 => "Nv12"

def ofName? (text : String) : Option PixelFormat := [bgra8, nv12].find? (·.name == text)

/-- Bytes of a tightly packed picture. -/
def frameLength (p : PixelFormat) (width height : UInt32) : Nat :=
  let pixels := width.toNat * height.toNat
  match p with
  | bgra8 => pixels * 4
  | nv12 => pixels + pixels / 2

end PixelFormat

/-- What an encoder wants to be fed: a pixel format, and whether it reads the pixels itself. -/
structure CaptureFormat where
  pixel : PixelFormat
  cpuReadable : Bool
deriving DecidableEq, Repr, Inhabited

/-- Where the pixels of a captured picture are. -/
inductive Pixels
  /-- On the capturer's device, under a handle. -/
  | surface (handle : UInt64)
  /-- In memory, with `stride` bytes from one row to the next. -/
  | memory (stride : UInt32) (data : Bytes)
deriving DecidableEq, Repr, Inhabited

/-- A picture taken from the screen, with the time it was taken in microseconds. -/
structure CapturedFrame where
  width : UInt32
  height : UInt32
  format : PixelFormat
  pixels : Pixels
  timestamp : UInt64
deriving DecidableEq, Repr, Inhabited

/-- A compressed picture from host to client. All times are the host's, in microseconds. -/
structure EncodedFrame where
  codec : Codec
  width : UInt32
  height : UInt32
  isKeyframe : Bool
  pictureId : UInt64
  captureTime : UInt64
  encodeStart : UInt64
  encodeEnd : UInt64
  payload : Bytes
deriving DecidableEq, Repr, Inhabited

/-- Time spent encoding; a clock that went backwards counts as none. -/
def EncodedFrame.encodeDuration (f : EncodedFrame) : Nat := f.encodeEnd.toNat - f.encodeStart.toNat

/-- The number of a texture the renderer can draw. -/
abbrev Resource := Nat

/-- How a decode call ended. -/
inductive DecodeStatus
  | ok
  /-- This picture is lost; the next keyframe repairs the stream. -/
  | failed
  /-- The decoder makes no progress any more. -/
  | eAgain
  /-- The decoder lost its state. -/
  | needReset
deriving DecidableEq, Repr, Inhabited

namespace DecodeStatus

def label : DecodeStatus → String
  | ok => "Ok"
  | failed => "Failed"
  | eAgain => "EAgain"
  | needReset => "NeedReset"

def ofLabel? (text : String) : Option DecodeStatus :=
  [ok, failed, eAgain, needReset].find? (·.label == text)

/-- Statuses after which only a new pipeline instance helps. -/
def isFatal : DecodeStatus → Bool
  | eAgain | needReset => true
  | ok | failed => false

end DecodeStatus

/-- The answer to one decode call. -/
structure DecodedFrame where
  status : DecodeStatus
  resource : Option Resource
deriving DecidableEq, Repr, Inhabited

namespace DecodedFrame

def shown (r : Resource) : DecodedFrame := ⟨.ok, some r⟩

def withStatus (s : DecodeStatus) : DecodedFrame := ⟨s, none⟩

end DecodedFrame

/-- A sparse change to an encoder's rates: only the parts given are changed. -/
structure RatePatch where
  bitrate : Option Nat := none
  fps : Option Nat := none
deriving DecidableEq, Repr, Inhabited

def RatePatch.isEmpty (p : RatePatch) : Bool := p.bitrate.isNone && p.fps.isNone

end Screencast
