import AuctionHouse.Config
import AuctionHouse.Toml.Parser
import AuctionHouse.Wire.Auction

/-!
# Configuration files

The settings of the house as they stand in a configuration file.
-/

namespace AuctionHouse

/-- Where a configuration comes from: a text, or a file that is not there. -/
inductive ConfigSource where
  | text (contents : String)
  | missing (path : String)
deriving DecidableEq, Repr

namespace Config

/-- The settings that a text stands for, if the house can be run with them (`from_toml`). -/
def ofToml (contents : String) : Except ConfigError Config :=
  match (Toml.ofText? contents).bind (decodeIn .file) with
  | some config => config.validate
  | none => .error (.invalidConfig .unparsable)

/-- The settings from a source (`from_file`). -/
def load : ConfigSource → Except ConfigError Config
  | .text contents => ofToml contents
  | .missing path => .error (.invalidConfig (.unreadable (.ofPath path)))

/-- What can be loaded is valid. -/
theorem validate_of_load {source : ConfigSource} {config : Config}
    (h : load source = .ok config) : config.validate = .ok config := by
  have key : ∀ c c' : Config, c.validate = .ok c' → c = c' := by
    intro c c' h
    unfold validate at h
    split at h
    · simp at h
    · split at h <;> simp_all
  cases source with
  | missing path => simp [load] at h
  | text contents =>
    simp only [load, ofToml] at h
    split at h
    · next read _ =>
      obtain rfl := key _ _ h
      exact h
    · simp at h

end Config

end AuctionHouse
