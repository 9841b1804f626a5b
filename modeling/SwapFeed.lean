import SwapFeed.Cancellation
import SwapFeed.Config.DotEnv
import SwapFeed.Config.Settings
import SwapFeed.Endpoint
import SwapFeed.Proofs.Book.Basis
import SwapFeed.Proofs.Book.Runs
import SwapFeed.Proofs.Desk.Basic
import SwapFeed.Proofs.Desk.Reconstruction
import SwapFeed.Proofs.Desk.Staleness
import SwapFeed.Proofs.Desk.Steps
import SwapFeed.Proofs.Double.Order
import SwapFeed.Proofs.Double.Range
import SwapFeed.Proofs.Double.Rounding
import SwapFeed.Proofs.Funding.Desk
import SwapFeed.Proofs.Funding.Latest
import SwapFeed.Proofs.Instrument
import SwapFeed.Proofs.Json.Range
import SwapFeed.Proofs.Numbers
import SwapFeed.Proofs.Queue
import SwapFeed.Proofs.Rest.Agreement
import SwapFeed.Proofs.Rest.Faults
import SwapFeed.Proofs.Rest.Funding
import SwapFeed.Proofs.Rest.Kinds
import SwapFeed.Proofs.Rest.Reply
import SwapFeed.Proofs.Rest.Snapshot
import SwapFeed.Proofs.Session.Bound
import SwapFeed.Proofs.Session.Conduct
import SwapFeed.Proofs.Session.Connection
import SwapFeed.Proofs.Session.Custody
import SwapFeed.Proofs.Session.Handlers
import SwapFeed.Proofs.Session.Phases
import SwapFeed.Proofs.Session.Stopping
import SwapFeed.Proofs.Session.Subscription
import SwapFeed.Proofs.Session.Windows
import SwapFeed.Proofs.Stream.Delivery
import SwapFeed.Proofs.Stream.Field
import SwapFeed.Proofs.Stream.Numbers
import SwapFeed.Proofs.Stream.Queues
import SwapFeed.Proofs.Stream.Seconds
import SwapFeed.Proofs.Stream.WellFormed
import SwapFeed.Proofs.Text.Integer
import SwapFeed.Proofs.UpdateId
import SwapFeed.Proofs.UpdateId.Drift
import SwapFeed.Proofs.UpdateId.SameTime
import SwapFeed.Rest.Client
import SwapFeed.Session.Script
import SwapFeed.Source
import SwapFeed.Time.Stamp
import SwapFeed.Tracker
import SwapFeed.Proofs.Time.Calendar
import SwapFeed.Proofs.Time.Written
import SwapFeed.Proofs.Time.Stamp
import SwapFeed.Proofs.Time.Acceptance
import SwapFeed.Proofs.Funding.Epoch
import SwapFeed.Proofs.Stream.Footprint
import SwapFeed.Proofs.Text.Split
import SwapFeed.Proofs.Rest.Query
import SwapFeed.Proofs.Rest.Signature
import SwapFeed.Proofs.Stream.Routing
import SwapFeed.Proofs.Json.RoundTrip
import SwapFeed.Proofs.Session.Requests
import SwapFeed.Proofs.Endpoint
import SwapFeed.Proofs.Queue.Calls
import SwapFeed.Proofs.Config.DotEnv
import SwapFeed.Proofs.Config.Settings
import SwapFeed.Proofs.Config.PairList
