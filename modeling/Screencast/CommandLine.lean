import Screencast.Config.Basic

/-! # The command line

What the program is asked to do, and how that changes the settings.
-/

namespace Screencast

/-- What the program is asked to do. -/
structure CommandLine where
  /-- The file with the settings. -/
  configPath : String := "screencast.toml"
  /-- Whether to print the settings to start from, and nothing else. -/
  showDefaults : Bool := false
  /-- The length of the session in seconds. -/
  duration : Option Nat := none
  /-- The refresh rate of the display. -/
  fps : Option UInt32 := none
  help : Bool := false
deriving DecidableEq, Repr, Inhabited

namespace CommandLine

def usage : String := String.intercalate "\n"
  ["Host and client streaming pipelines over an in-memory link", "",
    "Usage: screencast [OPTIONS]", "", "Options:",
    "  -c, --config <CONFIG>      Path to configuration TOML file [default: screencast.toml]",
    "      --gen-config           Print the default configuration to stdout and exit",
    "  -d, --duration <DURATION>  Session length in seconds; 0 runs until Ctrl-C",
    "      --fps <FPS>            Display refresh rate of the synthetic host",
    "  -h, --help                 Print help"]

/-- A number below a limit. -/
def number (option text : String) (limit : Nat) : Except String Nat :=
  match text.toNat? with
  | some n =>
    if text.all Char.isDigit && decide (n < limit) then .ok n
    else .error ("invalid value '" ++ text ++ "' for '" ++ option ++ "'")
  | none => .error ("invalid value '" ++ text ++ "' for '" ++ option ++ "'")

/-- Reads arguments one after the other. -/
def read (c : CommandLine) : List String → Except String CommandLine
  | [] => .ok c
  | "--gen-config" :: rest => { c with showDefaults := true }.read rest
  | "-h" :: rest | "--help" :: rest => { c with help := true }.read rest
  | "-c" :: path :: rest | "--config" :: path :: rest => { c with configPath := path }.read rest
  | "-d" :: n :: rest | "--duration" :: n :: rest => do
    let secs ← number "--duration" n (2 ^ 64)
    read { c with duration := some secs } rest
  | "--fps" :: n :: rest => do
    let fps ← number "--fps" n (2 ^ 32)
    read { c with fps := some (UInt32.ofNat fps) } rest
  | other :: _ => .error ("unexpected argument '" ++ other ++ "'")

/-- What the arguments ask for. -/
def parse (args : List String) : Except String CommandLine := read {} args

/-- The settings of a file with what the command line says otherwise. -/
def apply (c : CommandLine) (config : Config) : Config :=
  { config with
    session := { config.session with
      durationSecs := c.duration.getD config.session.durationSecs }
    display := { config.display with refreshRate := c.fps.getD config.display.refreshRate } }

end CommandLine

end Screencast
