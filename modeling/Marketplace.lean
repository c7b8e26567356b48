import Marketplace.Launch.Start
import Marketplace.Main
import Marketplace.Order.Routes
import Marketplace.Order.Statements
import Marketplace.Premium.Routes
import Marketplace.Premium.Statements
import Marketplace.Proofs.Table
import Marketplace.Proofs.Work
import Marketplace.Proofs.Order.Effect
import Marketplace.Proofs.Order.Reachable
import Marketplace.Proofs.Order.History
import Marketplace.Proofs.Order.StockLedger
import Marketplace.Proofs.Order.Work
import Marketplace.Proofs.Order.Noninterference
import Marketplace.Proofs.Order.Purchases
import Marketplace.Proofs.Order.Statements
import Marketplace.Proofs.Order.Listing
import Marketplace.Proofs.Order.Refusal
import Marketplace.Proofs.Order.Writes
import Marketplace.Proofs.Order.Clock
import Marketplace.Proofs.Order.Representation
import Marketplace.Proofs.Order.StockSafety
import Marketplace.Proofs.Order.ListingOrder
import Marketplace.Proofs.Order.ExactListing
import Marketplace.Proofs.Order.Adding
import Marketplace.Proofs.Order.BasketPurchase
import Marketplace.Proofs.Order.WriteDiscipline
import Marketplace.Proofs.Order.Update
import Marketplace.Proofs.Order.Replies
import Marketplace.Proofs.Premium.Run
import Marketplace.Proofs.Premium.Window
import Marketplace.Proofs.Premium.Columns
import Marketplace.Proofs.Premium.RowServer
import Marketplace.Proofs.Premium.Desk
import Marketplace.Proofs.Premium.Invariant
import Marketplace.Proofs.Premium.Liveness
import Marketplace.Proofs.Premium.Keys
import Marketplace.Proofs.Premium.Projection
import Marketplace.Proofs.Premium.Refinement
import Marketplace.Proofs.Http.Routing
import Marketplace.Proofs.Http.Refusal
import Marketplace.Proofs.Http.Provider
import Marketplace.Proofs.Sql.Reading
import Marketplace.Proofs.Sql.Transaction
import Marketplace.Proofs.Sql.Exchange
import Marketplace.Proofs.Sql.Session
import Marketplace.Proofs.Sql.Fault
import Marketplace.Proofs.Text.Integer
import Marketplace.Proofs.Decimal
import Marketplace.Proofs.Instant.Calendar
import Marketplace.Proofs.Instant.Text
import Marketplace.Proofs.Json.Reader
import Marketplace.Proofs.Json.Number
import Marketplace.Proofs.Json.Codec
import Marketplace.Proofs.Json.Record
import Marketplace.Proofs.Wire
import Marketplace.Proofs.Http.Concealment
import Marketplace.Proofs.Text.Bytes
import Marketplace.Proofs.Http.Body
