import AuctionHouse.Config.Path
import AuctionHouse.Fee.Range
import AuctionHouse.Item
import AuctionHouse.Violation

/-!
# Refusals

Why a call of the house is not carried out, other than by a fault of arithmetic: the request breaks
rules, the house is not set up properly, what is stored cannot be reached, or the request names
something that there is not.
-/

namespace AuctionHouse

/-- What can be wrong with a configuration (`InvalidConfig`). -/
inductive ConfigFlaw where
  | emptyListing
  /-- The text cannot be read.  What its reader has to say of it is left out. -/
  | unparsable
  | unreadable (problem : PathProblem)
  /-- Anything else, in words. -/
  | other (text : String)
deriving DecidableEq, Repr

/-- What is said of a flaw. -/
def ConfigFlaw.message : ConfigFlaw → String
  | emptyListing => "highest_bids_limit cannot be zero"
  | unparsable => "Failed to parse config"
  | unreadable problem => "Failed to read config file: " ++ problem.message
  | other text => text

/-- A setting that someone who runs the house has to mend (`ConfigurationError`). -/
inductive ConfigError where
  | emptyFeeTable
  | malformedWindow (item : ItemId)
  | invalidFeeRange (start : Decimal) (flaw : FeeRange.Flaw)
  | invalidConfig (flaw : ConfigFlaw)
deriving DecidableEq

/-- What is said of a wrong setting. -/
def ConfigError.message : ConfigError → String
  | emptyFeeTable => "Fee table is empty"
  | malformedWindow item =>
    "Malformed bidding window on item " ++ item.repr ++ ": end must be after start"
  | invalidFeeRange start flaw =>
    "Invalid fee range starting at " ++ start.text ++ ": " ++ flaw.message
  | invalidConfig flaw => "Invalid configuration: " ++ flaw.message

/-- The places at which access to what is stored can fail.  All but the last two are the operations
of a store.  Those two are ways in which `append` alone goes wrong. -/
inductive AccessPoint where
  | item
  | setWorkflow
  | bidsFor
  | append
  | appendClosing
  | activeProxy
  | activeProxies
  | putProxy
  | deleteProxy
  /-- A store whose `append` fails on every batch of two bids and takes all others, like the flaky
  store that a raised ceiling is tested on. -/
  | pair
  /-- A store whose `append` writes nothing and answers an empty batch, which is all that
  `StorageError.nothingWritten` can come from. -/
  | lost
deriving DecidableEq, Repr

namespace AccessPoint

/-- All access points, in their order. -/
def all : List AccessPoint :=
  [item, setWorkflow, bidsFor, append, appendClosing, activeProxy, activeProxies, putProxy,
   deleteProxy, pair, lost]

/-- The name of an access point. -/
def name : AccessPoint → String
  | item => "item"
  | setWorkflow => "set_workflow"
  | bidsFor => "bids_for"
  | append => "append"
  | appendClosing => "append_closing"
  | activeProxy => "active_proxy"
  | activeProxies => "active_proxies"
  | putProxy => "put_proxy"
  | deleteProxy => "delete_proxy"
  | pair => "pair"
  | lost => "lost"

/-- The access point of a name. -/
def ofName? (name : String) : Option AccessPoint :=
  all.find? (·.name = name)

end AccessPoint

/-- A failure of what is stored. -/
inductive StorageError where
  | unknownItem (item : ItemId)
  | unavailable (point : AccessPoint)
  | nothingWritten
  /-- A failure that a store tells of in its own words. -/
  | other (text : String)
deriving DecidableEq, Repr

/-- What is said of a failure. -/
def StorageError.message : StorageError → String
  | unknownItem item => "Storage failure: Item " ++ item.repr ++ " does not exist"
  | unavailable point => "Storage failure: " ++ point.name ++ " unavailable"
  | nothingWritten => "Storage failure: Ledger returned no bid"
  | other text => "Storage failure: " ++ text

/-- Why a call is refused (`EngineError`). -/
inductive Refusal where
  | rejected (violations : List Violation)
  | configuration (error : ConfigError)
  | storage (error : StorageError)
  | itemNotFound (item : ItemId)
  | roundMismatch (expected got : Round)
  | notAuthorized
deriving DecidableEq

/-- What is said of a refusal. -/
def Refusal.message : Refusal → String
  | rejected violations => Violation.summary violations
  | configuration error => error.message
  | storage error => error.message
  | itemNotFound item => "Auction item not found: " ++ item.repr
  | roundMismatch expected got =>
    "Round mismatch. Expected: " ++ expected.toNat.repr ++ ", Got: " ++ got.toNat.repr
  | notAuthorized => "Not authorized"

/-- Why a call stops: it is refused, or its arithmetic has no answer. -/
inductive Stop where
  | refused (refusal : Refusal)
  | faulted (fault : Fault)
deriving DecidableEq

namespace Stop

/-- A setting that stops a call. -/
def ofConfig (error : ConfigError) : Stop := refused (.configuration error)

/-- A failure of what is stored that stops a call. -/
def ofStorage (error : StorageError) : Stop := refused (.storage error)

/-- The answer of arithmetic in a call. -/
def ofFault {α : Type} : Except Fault α → Except Stop α
  | .ok value => .ok value
  | .error fault => .error (.faulted fault)

end Stop

end AuctionHouse
