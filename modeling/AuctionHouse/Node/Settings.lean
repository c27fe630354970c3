import AuctionHouse.Config.File
import AuctionHouse.Node.Address
import AuctionHouse.Node.Basic

/-!
# Settings of a node

Where a node listens, when its clock starts, and how its house is run.
-/

namespace AuctionHouse

open Wire

/-- The settings of a node (`NodeConfig`). -/
structure NodeSettings where
  listen : Option SocketAddress := none
  start : Option Instant := none
  house : Config := {}

/-- Why there are no settings. -/
inductive NodeSettingsError where
  | unparsable
  | unreadable (path : String)
  | wrong (error : ConfigError)
deriving DecidableEq

/-- What is said of settings that cannot be had. -/
def NodeSettingsError.message : NodeSettingsError → String
  | unparsable => "Failed to parse node config"
  | unreadable path => "Failed to read " ++ path
  | wrong error => error.message

namespace NodeSettings

/-- The address that a node with these settings listens on (`listen_addr`). -/
def address (settings : NodeSettings) : SocketAddress := settings.listen.getD .standard

/-- The settings that data in a file stand for. -/
def decode (data : Json) : Option NodeSettings := do
  let m ← Members.of? ["listen", "start_time", "engine"] data .file
  return {
    listen := ← m.withDefault "listen"
      (fun data => (data.str? >>= SocketAddress.ofText?).map some) none
    start := ← m.withDefault "start_time" (fun data => (Wire.decode data).map some) none
    house := ← m.withDefault "engine" (Config.decodeIn .file) {} }

/-- The settings that a text stands for, if a node can be run with them (`from_toml`). -/
def ofToml (contents : String) : Except NodeSettingsError NodeSettings :=
  match (Toml.ofText? contents).bind decode with
  | none => .error .unparsable
  | some settings =>
    match settings.house.validate with
    | .ok _ => .ok settings
    | .error error => .error (.wrong error)

/-- The settings from a source (`from_file`). -/
def load : ConfigSource → Except NodeSettingsError NodeSettings
  | .text contents => ofToml contents
  | .missing path => .error (.unreadable path)

/-- The node that settings make, with its clock at `now` unless they say otherwise. -/
def node (settings : NodeSettings) (now : Instant) : Node :=
  Node.start settings.house (settings.start.getD now)

end NodeSettings

end AuctionHouse
