import Screencast.Media.Device
import Screencast.Media.Picture

/-! # Encoders

What the host's pipeline knows of an encoder, and where encoders come from. The type of a
factory's encoders is a parameter, so that one host serves every family of them.
-/

namespace Screencast

/-- What an encoder is made for. -/
structure EncoderParams where
  codec : Codec
  width : UInt32
  height : UInt32
  fps : Nat
  bitrate : Nat
  /-- The capturer's device; encoders never own it. -/
  device : DeviceHandle
deriving DecidableEq, Repr, Inhabited

/-- What one encode call produced. -/
structure EncodedOutput where
  payload : Bytes
  isKeyframe : Bool
deriving DecidableEq, Repr, Inhabited

/-- An encoder, bound to one codec on one backend. -/
class Encoder (ε : Type) where
  ability : ε → Ability
  /-- What the encoder wants to be fed. -/
  captureFormat : ε → CaptureFormat
  /-- Encodes a picture; without output the picture is left out of the stream. -/
  encode : ε → CapturedFrame → Option EncodedOutput × ε
  /-- Changes rates; the flag tells whether the encoder agrees. -/
  reconfigure : ε → RatePatch → Bool × ε
  /-- Makes the next output one that needs no earlier picture. -/
  requestKeyframe : ε → ε

/-- Makes encoders of one family. -/
structure EncoderFactory (ε : Type) where
  /-- All the ways this host can encode, those in hardware before those in software. -/
  abilities : List Ability
  /-- The hardware backends in the host's order. -/
  backends : List Backend
  createHard : Backend → EncoderParams → Option ε
  createSoft : EncoderParams → Option ε

end Screencast
