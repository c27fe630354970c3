import AuctionHouse.Client.Session
import AuctionHouse.Node.Settings

/-!
# The command line

Commands to a node of its own.  With words behind the name of the program they are one command; else
every line of standard input is one, until the input ends.  `--config` and the path of a settings
file may come first.
-/

namespace AuctionHouse.CommandLine

/-- When the clock of a node starts that has no settings for it. -/
def epoch : Option Instant := Instant.ofText? "1970-01-01T00:00:00Z"

/-- The settings in a file. -/
def settingsIn (path : String) : IO (Except NodeSettingsError NodeSettings) := do
  try
    return NodeSettings.load (.text (← IO.FS.readFile path))
  catch _ =>
    return NodeSettings.load (.missing path)

/-- Prints what a command came to. -/
def report (result : CommandResult) : IO Unit := do
  result.lines.forM IO.println
  result.error.forM IO.eprintln

/-- Carries out the commands of standard input. -/
partial def converse (input : IO.FS.Stream) (endpoint : Endpoint) : IO UInt32 := do
  let line ← input.getLine
  if line.isEmpty then return 0
  let words := (line.trimAscii.toString.splitOn " ").filter (· ≠ "")
  let (result, endpoint) := endpoint.execute words
  report result
  converse input endpoint

/-- Carries out a command, or all of standard input if there is none. -/
def carryOut (settings : NodeSettings) (words : List String) : IO UInt32 := do
  let some now := epoch | return 1
  let endpoint := Endpoint.serving (settings.node now)
  if words.isEmpty then converse (← IO.getStdin) endpoint
  else
    let (result, _) := endpoint.execute words
    report result
    return result.exitCode.toUInt32

end AuctionHouse.CommandLine

open AuctionHouse in
def main : List String → IO UInt32
  | "--config" :: path :: words => do
    match ← CommandLine.settingsIn path with
    | .ok settings => CommandLine.carryOut settings words
    | .error error =>
      IO.eprintln ("Error: " ++ error.message)
      return 1
  | words => CommandLine.carryOut {} words
