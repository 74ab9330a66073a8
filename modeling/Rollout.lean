import Rollout.App
import Rollout.App.EnvConfig
import Rollout.App.Environment
import Rollout.App.Error
import Rollout.App.Event
import Rollout.App.Name
import Rollout.App.Requirement
import Rollout.App.VersionControl
import Rollout.Artifacts
import Rollout.Codec
import Rollout.Codec.Domain
import Rollout.Command.Cleanup
import Rollout.Command.Deploy
import Rollout.Command.Error
import Rollout.Config
import Rollout.Connection
import Rollout.Connection.FileName
import Rollout.Decimal.Binary
import Rollout.Decimal.Shortest
import Rollout.Deployment
import Rollout.Deployment.Event
import Rollout.Deployment.Number
import Rollout.Deployment.State
import Rollout.EntityId
import Rollout.Failure
import Rollout.Files
import Rollout.Job.Basic
import Rollout.Job.Context
import Rollout.Job.Dispatch
import Rollout.Job.Error
import Rollout.Job.EventBuffer
import Rollout.Job.Handler
import Rollout.Job.Queue
import Rollout.Job.Queue.Lemmas
import Rollout.Job.Queue.Linked
import Rollout.Job.Queue.Moves
import Rollout.Job.Queue.State
import Rollout.Job.Retry
import Rollout.Job.Worker
import Rollout.Json
import Rollout.Json.Place
import Rollout.Json.Reader
import Rollout.Json.Shape
import Rollout.Json.Writer
import Rollout.Proofs.Command.Changes
import Rollout.Proofs.Interleaving
import Rollout.Proofs.Queue.Consistency
import Rollout.Proofs.Queue.History
import Rollout.Proofs.Queue.LifeCycle
import Rollout.Proofs.Queue.Precedence
import Rollout.Proofs.Queue.Stage
import Rollout.Proofs.Queue.Supersession
import Rollout.Proofs.Results
import Rollout.Proofs.Store.Delivery
import Rollout.Proofs.Store.Lookup
import Rollout.Proofs.Store.Reading
import Rollout.Proofs.Store.Transaction
import Rollout.Proofs.Store.Write
import Rollout.Proofs.Work.Dispatches
import Rollout.Proofs.Work.Keys
import Rollout.Rehearsal.Pool
import Rollout.Rehearsal.Script
import Rollout.Rehearsal.Stage
import Rollout.Rehearsal.Watch
import Rollout.Report.Aggregate
import Rollout.Report.Error
import Rollout.Report.Jobs
import Rollout.Report.Labels
import Rollout.Request
import Rollout.Runner
import Rollout.Runner.Script
import Rollout.Signature
import Rollout.Store
import Rollout.Store.Cell
import Rollout.Store.Column
import Rollout.Store.ColumnType
import Rollout.Store.Error
import Rollout.Store.RawCell
import Rollout.Store.Row
import Rollout.Store.Tables
import Rollout.System
import Rollout.System.Jobs
import Rollout.Text.Blank
import Rollout.Text.CombiningClass
import Rollout.Text.Composed
import Rollout.Text.Composition
import Rollout.Text.Decimal
import Rollout.Text.Dict
import Rollout.Text.Direction
import Rollout.Text.GraphemeExtend
import Rollout.Text.Hex
import Rollout.Text.Joining
import Rollout.Text.Mark
import Rollout.Text.Printable
import Rollout.Text.Quoted
import Rollout.Text.Split
import Rollout.Text.Table
import Rollout.Text.Utf8
import Rollout.Time.Date
import Rollout.Time.Duration
import Rollout.Time.Reader
import Rollout.Time.Timestamp
import Rollout.Url
import Rollout.Url.Domain
import Rollout.Url.Domain.Mapping
import Rollout.Url.Host
import Rollout.Url.Percent
import Rollout.Url.Punycode
import Rollout.UseCases
import Rollout.Uuid
import Rollout.Work
import Rollout.Proofs.Command.Statuses
import Rollout.Proofs.Deployment.Operations
import Rollout.Proofs.App.Operations
import Rollout.Proofs.Store.Projection
import Rollout.Proofs.Store.Kept
import Rollout.Proofs.Store.Agreement
import Rollout.Proofs.Store.Placement
import Rollout.Proofs.UseCases.Calls
import Rollout.Proofs.UseCases.NameClashes
import Rollout.Proofs.UseCases.Naming
import Rollout.Proofs.Command.RunnerCalls
import Rollout.Proofs.Service.Orphans
import Rollout.Proofs.UseCases.NamingGuard
import Rollout.Proofs.UseCases.Wholeness
import Rollout.Proofs.UseCases.Numbering
import Rollout.Proofs.Command.OnRecord
import Rollout.Proofs.Service.Drains
import Rollout.Proofs.Queue.Ancestry
import Rollout.Proofs.Queue.Handover
import Rollout.Proofs.Work.Routing
import Rollout.Proofs.Command.Served
import Rollout.Proofs.Command.Deployed
import Rollout.Proofs.Files
import Rollout.Proofs.Artifacts
import Rollout.Proofs.Command.Leftovers
import Rollout.Job.Wait
import Rollout.Store.NamingQuery
import Rollout.Proofs.Work.Grace
import Rollout.Proofs.Work.Draining
import Rollout.Proofs.Queue.Backoff
import Rollout.Proofs.UseCases.NamingQueries
import Rollout.Proofs.App.Course
import Rollout.Proofs.Writing
import Rollout.Proofs.Command.Cleaned
import Rollout.Proofs.Command.Logged
import Rollout.Proofs.Queue.Retention
import Rollout.Proofs.Queue.Order
import Rollout.Proofs.Work.Overruns
import Rollout.Proofs.Store.Versions
import Rollout.Proofs.Queue.Delays
import Rollout.Time.Words
import Rollout.Job.Guard
import Rollout.Proofs.Work.Looks
import Rollout.Proofs.Work.Stops
import Rollout.Proofs.Queue.Arrivals
