/-! # Codecs and the backends that run them

Which compressed formats a session can agree on, and which kind of device produces them. Each
value has a short name, used in configuration and on the command line, and a label, used inside
messages.
-/

namespace Screencast

/-- A video codec. `zstd` is the lossless codec every host can run in software. -/
inductive Codec
  | h264 | h265 | zstd
deriving DecidableEq, Repr, Inhabited

namespace Codec

def name : Codec → String
  | h264 => "h264"
  | h265 => "h265"
  | zstd => "zstd"

def label : Codec → String
  | h264 => "H264"
  | h265 => "H265"
  | zstd => "Zstd"

def all : List Codec := [h264, h265, zstd]

def ofName? (text : String) : Option Codec := all.find? (·.name == text)

/-- ASCII letters in lower case; every other character as it is. -/
def lowered (text : String) : String := text.map Char.toLower

/-- Reads a codec from text, whatever the case of its letters. `avc` and `hevc` are other names of
the first two. The error is the lower-case text itself. -/
def parse (text : String) : Except String Codec :=
  match lowered text with
  | "h264" | "avc" => .ok h264
  | "h265" | "hevc" => .ok h265
  | "zstd" => .ok zstd
  | other => .error other

/-- What is said of a text that names no codec. -/
def unknownMessage (text : String) : String := "unknown codec '" ++ text ++ "'"

/-- A list of codecs as messages show it. -/
def listLabel (codecs : List Codec) : String :=
  "[" ++ String.intercalate ", " (codecs.map label) ++ "]"

end Codec

/-- What runs a codec: one of the hardware vendors' units, or the processor. -/
inductive Backend
  | nvidia | amd | intel | software
deriving DecidableEq, Repr, Inhabited

namespace Backend

def name : Backend → String
  | nvidia => "nvidia"
  | amd => "amd"
  | intel => "intel"
  | software => "software"

def label : Backend → String
  | nvidia => "Nvidia"
  | amd => "Amd"
  | intel => "Intel"
  | software => "Software"

def all : List Backend := [nvidia, amd, intel, software]

def ofName? (text : String) : Option Backend := all.find? (·.name == text)

def isHardware (b : Backend) : Bool := b != software

end Backend

/-- One way a sender can encode: a codec on a backend. -/
structure Ability where
  codec : Codec
  backend : Backend
deriving DecidableEq, Repr, Inhabited

/-- An ability as messages show it. -/
def Ability.label (a : Ability) : String :=
  "EncodeAbility \x7b codec: " ++ a.codec.label ++ ", backend: " ++ a.backend.label ++ " \x7d"

end Screencast
