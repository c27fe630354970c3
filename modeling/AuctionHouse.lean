import AuctionHouse.Text.Blank
import AuctionHouse.Decimal.Arithmetic
import AuctionHouse.Decimal.Quotient
import AuctionHouse.Decimal.Printer
import AuctionHouse.Decimal.Parser
import AuctionHouse.Json.Parser
import AuctionHouse.Json.Printer
import AuctionHouse.Toml.Parser
import AuctionHouse.Instant.Printer
import AuctionHouse.Instant.Parser
import AuctionHouse.Validation
import AuctionHouse.Visibility
import AuctionHouse.House.Call
import AuctionHouse.House.Query
import AuctionHouse.Wire.Message
import AuctionHouse.Config.File
import AuctionHouse.Node.Settings
import AuctionHouse.Client.Session
import AuctionHouse.Main
import AuctionHouse.Proofs.Decimal.Value
import AuctionHouse.Proofs.Decimal.Cents
import AuctionHouse.Proofs.Decimal.Sum
import AuctionHouse.Proofs.Decimal.Overflow
import AuctionHouse.Proofs.Decimal.Text
import AuctionHouse.Proofs.Instant.Text
import AuctionHouse.Proofs.Ranking
import AuctionHouse.Proofs.Rival
import AuctionHouse.Proofs.Settlement
import AuctionHouse.Proofs.Reconciliation
import AuctionHouse.Proofs.Store
import AuctionHouse.Proofs.Grouping
import AuctionHouse.Proofs.Validation
import AuctionHouse.Proofs.Visibility
import AuctionHouse.Proofs.House.Floor
import AuctionHouse.Proofs.House.Terms
import AuctionHouse.Proofs.House.Calm
import AuctionHouse.Proofs.House.Run
import AuctionHouse.Proofs.House.Answers
import AuctionHouse.Proofs.House.Kept
import AuctionHouse.Proofs.House.History
import AuctionHouse.Proofs.House.Spending
import AuctionHouse.Proofs.House.Settling
import AuctionHouse.Proofs.House.IdleProxy
import AuctionHouse.Proofs.House.SecondPrice
import AuctionHouse.Proofs.House.Leading
import AuctionHouse.Proofs.House.Closing
import AuctionHouse.Proofs.House.Replies
import AuctionHouse.Proofs.House.Ordering
import AuctionHouse.Proofs.House.Rounds
import AuctionHouse.Proofs.House.Sale
import AuctionHouse.Proofs.House.Renumbering
import AuctionHouse.Proofs.House.Isolation
import AuctionHouse.Proofs.House.Amounts
import AuctionHouse.Proofs.House.Openness
import AuctionHouse.Proofs.House.Ceilings
import AuctionHouse.Proofs.House.Aftermath
import AuctionHouse.Proofs.House.Traces
import AuctionHouse.Proofs.House.Overflow
import AuctionHouse.Proofs.House.Counters
import AuctionHouse.Proofs.House.Bounds
import AuctionHouse.Proofs.House.Raising
import AuctionHouse.Proofs.House.Retries
import AuctionHouse.Proofs.House.Resubmission
import AuctionHouse.Proofs.House.Losers
import AuctionHouse.Proofs.Fee.Tiers
import AuctionHouse.Proofs.Node.Messages
import AuctionHouse.Proofs.Node.Registry
import AuctionHouse.Proofs.Node.Records
import AuctionHouse.Proofs.Wire.Request
import AuctionHouse.Proofs.Json.Text
import AuctionHouse.Proofs.Client.Rejection
import AuctionHouse.Proofs.Money
import AuctionHouse.Proofs.Config
import AuctionHouse.Proofs.Decimal.Quotient
import AuctionHouse.Proofs.House.Hidden
import AuctionHouse.Proofs.House.Leaders
import AuctionHouse.Proofs.House.Shown
