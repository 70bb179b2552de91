import Screencast.Encoder.Basic
import Screencast.Zstd.Frame

/-! # The lossless encoder

A keyframe is the picture with its rows packed tightly; any other output is the bytewise
exclusive or of the picture and the one before it, which is mostly zeros where little moves.
Either is compressed; the bitrate decides how hard. A keyframe comes at least every four seconds,
so that a lost picture does not go unnoticed for longer.
-/

namespace Screencast

/-- How hard to compress: the more bandwidth there is, the lighter. -/
def compressionLevel (bitrate : Nat) : Nat :=
  if 50000000 ≤ bitrate then 1 else if 20000000 ≤ bitrate then 3
  else if 8000000 ≤ bitrate then 6 else 9

/-- The bytewise exclusive or, as long as the shorter of the two. -/
def xorBytes (a b : Bytes) : Bytes := List.zipWith (· ^^^ ·) a b

/-- The first `width` bytes of each of `height` rows that begin `stride` bytes apart. -/
def packRows (width stride : Nat) : Nat → Bytes → Bytes
  | 0, _ => []
  | height + 1, data => data.take width ++ packRows width stride height (data.drop stride)

/-- The visible pixels of a picture in memory, if its buffer is as large as it claims. -/
def CapturedFrame.packed? (f : CapturedFrame) : Option Bytes :=
  match f.pixels with
  | .surface _ => none
  | .memory stride data =>
    let width := f.width.toNat * 4
    if stride.toNat < width ∨ data.length < stride.toNat * f.height.toNat then none
    else some (packRows width stride.toNat f.height.toNat data)

/-- The state of a lossless encoder. -/
structure LosslessEncoder where
  params : EncoderParams
  level : Nat
  /-- The picture before, packed. -/
  previous : Option Bytes := none
  /-- Whether the next output has to be a keyframe. -/
  forced : Bool := true
  /-- Outputs since the last keyframe. -/
  sinceKeyframe : Nat := 0
  outputs : Nat := 0
deriving DecidableEq, Repr

namespace LosslessEncoder

def new (params : EncoderParams) : LosslessEncoder :=
  { params, level := compressionLevel params.bitrate }

/-- The greatest number of outputs from one keyframe to the next. -/
def keyframeInterval (e : LosslessEncoder) : Nat := max e.params.fps 1 * 4

/-- Whether a packed picture goes out as a keyframe. -/
def wantsKeyframe (e : LosslessEncoder) (packed : Bytes) : Bool :=
  match e.previous with
  | none => true
  | some previous => e.forced || previous.length != packed.length ||
      decide (e.keyframeInterval ≤ e.sinceKeyframe)

/-- What goes out for a packed picture, before compression. -/
def content (e : LosslessEncoder) (packed : Bytes) : Bytes :=
  match e.previous, e.wantsKeyframe packed with
  | some previous, false => xorBytes previous packed
  | _, _ => packed

/-- The encoder after a packed picture went out. -/
def advance (e : LosslessEncoder) (packed : Bytes) : LosslessEncoder :=
  let e' := { e with previous := some packed, outputs := e.outputs + 1 }
  if e.wantsKeyframe packed then { e' with forced := false, sinceKeyframe := 0 }
  else { e' with sinceKeyframe := e.sinceKeyframe + 1 }

/-- Encodes a picture; one that cannot be read leaves the encoder as it was. -/
def encode (z : Compression) (e : LosslessEncoder) (f : CapturedFrame) :
    Option EncodedOutput × LosslessEncoder :=
  match f.packed? with
  | none => (none, e)
  | some packed =>
    (some ⟨z.compress e.level (e.content packed), e.wantsKeyframe packed⟩, e.advance packed)

/-- Takes over the rates of a patch. -/
def reconfigure (e : LosslessEncoder) (p : RatePatch) : LosslessEncoder :=
  let bitrate := p.bitrate.getD e.params.bitrate
  let fps := (p.fps.map (max · 1)).getD e.params.fps
  { e with
    params := { e.params with bitrate, fps }
    level := (p.bitrate.map compressionLevel).getD e.level }

def requestKeyframe (e : LosslessEncoder) : LosslessEncoder := { e with forced := true }

/-- What every lossless encoder is. -/
def ability : Ability := ⟨.zstd, .software⟩

/-- The encoder reads pixels, four bytes each. -/
def captureFormat : CaptureFormat := ⟨.bgra8, true⟩

instance : Encoder LosslessEncoder where
  ability _ := ability
  captureFormat _ := captureFormat
  encode := encode .stored
  reconfigure e p := (true, e.reconfigure p)
  requestKeyframe := requestKeyframe

/-- The factory of a host that has no encoding hardware. -/
def factory : EncoderFactory LosslessEncoder where
  abilities := [ability]
  backends := []
  createHard _ _ := none
  createSoft params := if params.codec = .zstd then some (new params) else none

end LosslessEncoder

end Screencast
