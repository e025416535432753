import RewardDesk.Command.Payload
import RewardDesk.Command.Router
import RewardDesk.Command.Standard
import RewardDesk.Config.EnvFile
import RewardDesk.Config.Environment
import RewardDesk.Config.Folder
import RewardDesk.Config.Load
import RewardDesk.Config.Sections
import RewardDesk.Config.Setting
import RewardDesk.Database.Address
import RewardDesk.Database.Connect
import RewardDesk.Database.IpAddress
import RewardDesk.Database.Options
import RewardDesk.Desk.Events
import RewardDesk.Desk.Links
import RewardDesk.Desk.Program
import RewardDesk.Desk.Requests
import RewardDesk.Desk.Rewards
import RewardDesk.Error.Basic
import RewardDesk.Error.Setup
import RewardDesk.Error.Storage
import RewardDesk.Http.Endpoint
import RewardDesk.Http.Envelope
import RewardDesk.Http.Message
import RewardDesk.Json.Basic
import RewardDesk.Json.Codec
import RewardDesk.Json.Document
import RewardDesk.Json.Fault
import RewardDesk.Json.Lexer
import RewardDesk.Json.Record
import RewardDesk.Json.Writer
import RewardDesk.Keyed
import RewardDesk.Log.Entry
import RewardDesk.Log.Filter
import RewardDesk.Log.Writer
import RewardDesk.Main
import RewardDesk.Metrics.Exposition
import RewardDesk.Metrics.Measure
import RewardDesk.Model.Event
import RewardDesk.Model.Filter
import RewardDesk.Model.Request
import RewardDesk.Model.Reward
import RewardDesk.Model.RewardData
import RewardDesk.Notice.Channel
import RewardDesk.Number.Binary64
import RewardDesk.Number.Reading
import RewardDesk.Number.Shortest
import RewardDesk.Paging.Cursor
import RewardDesk.Paging.Offset
import RewardDesk.Proofs.Interleaving.Contract
import RewardDesk.Proofs.Interleaving.Crew
import RewardDesk.Proofs.Interleaving.Determined
import RewardDesk.Proofs.Interleaving.Errand
import RewardDesk.Proofs.Interleaving.Reserve
import RewardDesk.Proofs.Json.Strings
import RewardDesk.Proofs.Paging.Cursor
import RewardDesk.Proofs.Paging.Leafing
import RewardDesk.Proofs.Paging.Listing
import RewardDesk.Proofs.Paging.Offset
import RewardDesk.Proofs.Paging.Pages
import RewardDesk.Proofs.Paging.StillWalk
import RewardDesk.Proofs.Paging.Walk
import RewardDesk.Proofs.Records.Deeds
import RewardDesk.Proofs.Records.Docket
import RewardDesk.Proofs.Records.Effects
import RewardDesk.Proofs.Records.InOrder
import RewardDesk.Proofs.Records.Lifecycle
import RewardDesk.Proofs.Records.Soundness
import RewardDesk.Proofs.Requests.Announcements
import RewardDesk.Proofs.Requests.Conduct
import RewardDesk.Proofs.Requests.Ids
import RewardDesk.Proofs.Requests.Linearizability
import RewardDesk.Proofs.Requests.Order
import RewardDesk.Proofs.Requests.PendingIndex
import RewardDesk.Proofs.Requests.Workflow
import RewardDesk.Proofs.Store.Filed
import RewardDesk.Proofs.Store.Requests
import RewardDesk.Proofs.Store.Table
import RewardDesk.Proofs.Text.Order
import RewardDesk.Proofs.Text.RoundTrip
import RewardDesk.Proofs.Time.Order
import RewardDesk.Service.Life
import RewardDesk.Service.Network
import RewardDesk.Service.Observability
import RewardDesk.Session.World
import RewardDesk.Store.Basic
import RewardDesk.Store.Disturbed
import RewardDesk.Store.LinkBook
import RewardDesk.Store.Listing
import RewardDesk.Store.RequestBook
import RewardDesk.Store.Statement
import RewardDesk.Store.Table
import RewardDesk.Text.Alphanumeric
import RewardDesk.Text.Base64
import RewardDesk.Text.Blank
import RewardDesk.Text.Bytes
import RewardDesk.Text.CaseTable
import RewardDesk.Text.LetterCase
import RewardDesk.Text.Percent
import RewardDesk.Text.Quoted
import RewardDesk.Text.Ranges
import RewardDesk.Text.Visible
import RewardDesk.Time.Calendar
import RewardDesk.Time.Instant
import RewardDesk.Time.Rfc3339
import RewardDesk.Toml.Document
import RewardDesk.Toml.Scalar
import RewardDesk.Proofs.Records.Care
import RewardDesk.Proofs.Records.WellFormed
import RewardDesk.Proofs.Interleaving.Solo
import RewardDesk.Proofs.Session.Turns
import RewardDesk.Proofs.Links.Book
import RewardDesk.Proofs.Links.Pairs
import RewardDesk.Proofs.Events.Revisions
import RewardDesk.Proofs.Notice.Channel
import RewardDesk.Proofs.Requests.Changes
import RewardDesk.Proofs.Notice.Subscribers
import RewardDesk.Proofs.Outcome
import RewardDesk.Proofs.Time.Calendar
import RewardDesk.Proofs.Time.RoundTrip
import RewardDesk.Proofs.Json.Fields
import RewardDesk.Proofs.Json.Shown
import RewardDesk.Proofs.Json.Numbers
import RewardDesk.Proofs.Json.Returns
import RewardDesk.Proofs.Json.Spelling
import RewardDesk.Proofs.Rewards.Data
import RewardDesk.Proofs.Rewards.Grammar
import RewardDesk.Proofs.Rewards.Wire
import RewardDesk.Proofs.Records.Lineage
import RewardDesk.Proofs.Json.Stems
import RewardDesk.Proofs.Json.Writes
import RewardDesk.Proofs.Records.RoundTrip
import RewardDesk.Proofs.Rewards.Rows
import RewardDesk.Proofs.Requests.Places
import RewardDesk.Proofs.Session.Outage
import RewardDesk.Proofs.Http.Reports
import RewardDesk.Proofs.Records.Receipts
import RewardDesk.Proofs.Session.Counters
import RewardDesk.Proofs.History
import RewardDesk.Proofs.Text.Base64
import RewardDesk.Proofs.Requests.Overwriting
import RewardDesk.Proofs.Links.Confusion
import RewardDesk.Proofs.Text.LetterCase
import RewardDesk.Proofs.Rewards.NameSearch
import RewardDesk.Proofs.Requests.Reviews
import RewardDesk.Proofs.Rewards.ByIds
import RewardDesk.Proofs.Config.Layers
import RewardDesk.Proofs.Config.Precedence
import RewardDesk.Proofs.Events.Chronicle
import RewardDesk.Proofs.Store.Selection
import RewardDesk.Proofs.Number.Counting
import RewardDesk.Proofs.Metrics.Exposition
