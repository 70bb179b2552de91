import Screencast.Encoder.Basic
import Screencast.Error

/-! # Agreeing on a codec and selecting an encoder

Agreeing on a codec comes first, before either end builds a pipeline. The receiver's order of
preference decides the codec; the order in which the sender lists its abilities decides the backend.

Then the host selects an encoder. For each codec in the client's order every hardware backend is
tried in the host's order. When none of them comes up, the codecs are tried in software, at a frame
rate kept below a ceiling. The first encoder that comes up is taken; the attempts made on the way
are reported with it.
-/

namespace Screencast

/-- The first ability of the sender for the first codec of the receiver that it has. -/
def negotiate (sender : List Ability) (receiver : List Codec) : Option Ability :=
  receiver.findSome? fun codec => sender.find? (·.codec == codec)

/-- What both ends build their pipelines for. -/
def negotiateParams (mode : DisplayMode) (sender : List Ability) (receiver : List Codec)
    (stretch : Bool) : Except StreamError Negotiated :=
  match negotiate sender receiver with
  | some ability => .ok ⟨mode, ability, stretch⟩
  | none => .error (.negotiationFailure receiver)

/-- One way to create an encoder. -/
structure Candidate where
  backend : Backend
  params : EncoderParams
deriving DecidableEq, Repr

def Candidate.ability (c : Candidate) : Ability := ⟨c.params.codec, c.backend⟩

/-- One attempt to create an encoder, and whether it came up. -/
structure Attempt where
  candidate : Candidate
  succeeded : Bool
deriving DecidableEq, Repr

/-- Creates an encoder in hardware or in software, as the candidate's backend says. -/
def EncoderFactory.create {ε : Type} (factory : EncoderFactory ε) (c : Candidate) : Option ε :=
  if c.backend.isHardware then factory.createHard c.backend c.params
  else factory.createSoft c.params

/-- An encoder that came up. The frame rate may be lower than the one asked for. -/
structure SelectedEncoder (ε : Type) where
  encoder : ε
  ability : Ability
  fps : Nat

/-- A selected encoder as messages show it. -/
def SelectedEncoder.label {ε : Type} (s : SelectedEncoder ε) : String :=
  "SelectedEncoder \x7b ability: " ++ s.ability.label ++ ", fps: " ++ toString s.fps ++ ", .. \x7d"

namespace Selection

/-- Tries one candidate after another until an encoder comes up, and keeps account of it. -/
def tryAll {ε : Type} (create : Candidate → Option ε) :
    List Candidate → List Attempt × Option (Candidate × ε)
  | [] => ([], none)
  | c :: rest =>
    match create c with
    | some encoder => ([⟨c, true⟩], some (c, encoder))
    | none =>
      let (attempts, found) := tryAll create rest
      (⟨c, false⟩ :: attempts, found)

/-- Every codec on every hardware backend, at the frame rate asked for. -/
def hardware (backends : List Backend) (preferences : List Codec) (base : EncoderParams) :
    List Candidate :=
  preferences.flatMap fun codec =>
    (backends.filter Backend.isHardware).map fun backend => ⟨backend, { base with codec }⟩

/-- The frame rate of an encoder in software. -/
def softFps (base : EncoderParams) (ceiling : Nat) : Nat := min base.fps (max ceiling 1)

/-- Every codec in software, at a frame rate below the ceiling. -/
def software (preferences : List Codec) (base : EncoderParams) (ceiling : Nat) : List Candidate :=
  preferences.map fun codec => ⟨.software, { base with codec, fps := softFps base ceiling }⟩

/-- The attempts made, and the encoder that came of them. -/
def run {ε : Type} (factory : EncoderFactory ε) (preferences : List Codec) (base : EncoderParams)
    (ceiling : Nat) : List Attempt × Except StreamError (SelectedEncoder ε) :=
  let (attempts, found) := tryAll factory.create
    (hardware factory.backends preferences base ++ software preferences base ceiling)
  (attempts, match found with
    | some (c, encoder) => .ok ⟨encoder, c.ability, c.params.fps⟩
    | none => .error (.encoderCreateFailure
        ("no hardware or software encoder for " ++ Codec.listLabel preferences)))

end Selection

/-- The encoder a host works with. -/
def selectEncoder {ε : Type} (factory : EncoderFactory ε) (preferences : List Codec)
    (base : EncoderParams) (ceiling : Nat) : Except StreamError (SelectedEncoder ε) :=
  (Selection.run factory preferences base ceiling).2

end Screencast
