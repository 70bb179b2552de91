import Screencast.CommandLine
import Screencast.Config.Reading
import Screencast.Config.Text
import Screencast.Report.Session

/-! # The program

Reads the command line and the settings, runs a session at the pace of the clock, and tells what
came of it.
-/

namespace Screencast

/-- The content of a file, if there is one. -/
def contentOf (path : String) : IO (Option Bytes) := do
  try return some (← IO.FS.readBinFile path).toList catch _ => return none

/-- Runs a session round by round; it never gets ahead of the clock. -/
partial def stream (begun : Nat) (s : Session) : IO (Except StreamError SessionSummary) := do
  match s.round false with
  | .ended result => return result
  | .working s =>
    let elapsed := (← IO.monoNanosNow) - begun
    IO.sleep (UInt32.ofNat ((s.now - elapsed) / 1000000))
    stream begun s

/-- Runs a session with some settings; the answer is the exit code. -/
def runSession (config : Config) : IO UInt32 := do
  let say (lines : List String) : IO Unit :=
    if showsInfo config.logLevel then lines.forM IO.eprintln else pure ()
  say config.opening
  match ← stream (← IO.monoNanosNow) (.new config) with
  | .ok summary =>
    say summary.closing
    return 0
  | .error e =>
    IO.eprintln ("Error: " ++ e.message)
    return 1

end Screencast

open Screencast in
/-- Answers with an exit code. -/
def main (args : List String) : IO UInt32 := do
  match CommandLine.parse args with
  | .error e =>
    IO.eprintln ("error: " ++ e)
    return 2
  | .ok c =>
    if c.help then
      IO.println CommandLine.usage
      return 0
    if c.showDefaults then
      IO.println ({} : Config).text
      return 0
    runSession (c.apply (.load (← contentOf c.configPath)))
