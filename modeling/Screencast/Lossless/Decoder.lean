import Screencast.Lossless.Encoder

/-! # The lossless decoder

Rebuilds pictures from keyframes and differences, and writes them into a ring of textures.
Whatever cannot be rebuilt for sure counts as failed and drops the reference picture, so that
only a keyframe resumes.
-/

namespace Screencast

/-- The number of textures that pictures rotate through. -/
def textureRing : Nat := 3

/-- The state of a lossless decoder for pictures of one size. -/
structure LosslessDecoder where
  width : UInt32
  height : UInt32
  /-- The picture that differences refer to. -/
  reference : Option Bytes := none
  textures : List Bytes := List.replicate textureRing []
  /-- The texture to be written next. -/
  next : Nat := 0
  decoded : Nat := 0
  failures : Nat := 0
  hasContextLock : Bool := false
deriving DecidableEq, Repr

namespace LosslessDecoder

def new (width height : UInt32) : LosslessDecoder := { width, height }

/-- The bytes of one picture. -/
def frameLength (d : LosslessDecoder) : Nat := PixelFormat.bgra8.frameLength d.width d.height

def textureIds (_ : LosslessDecoder) : List Resource := List.range textureRing

def format (_ : LosslessDecoder) : PixelFormat := .bgra8

/-- The picture written last into a texture. -/
def texture? (d : LosslessDecoder) (r : Resource) : Option Bytes := d.textures[r]?

/-- The picture a frame stands for, if it can be told for sure. -/
def rebuild? (z : Compression) (d : LosslessDecoder) (f : EncodedFrame) : Option Bytes := do
  guard (f.codec = .zstd)
  let content ← z.decompress f.payload
  guard (f.width = d.width ∧ f.height = d.height)
  guard (content.length = d.frameLength)
  if f.isKeyframe then some content else d.reference.map (xorBytes · content)

/-- A failure drops the reference. -/
def fail (d : LosslessDecoder) : LosslessDecoder :=
  { d with reference := none, failures := d.failures + 1 }

/-- A picture becomes the reference and goes into the next texture. -/
def accept (d : LosslessDecoder) (picture : Bytes) : LosslessDecoder :=
  { d with
    reference := some picture
    textures := d.textures.set d.next picture
    next := (d.next + 1) % textureRing
    decoded := d.decoded + 1 }

/-- Decodes one frame. -/
def decode (z : Compression) (d : LosslessDecoder) (f : EncodedFrame) :
    DecodedFrame × LosslessDecoder :=
  match d.rebuild? z f with
  | none => (.withStatus .failed, d.fail)
  | some picture => (.shown d.next, d.accept picture)

end LosslessDecoder

end Screencast
