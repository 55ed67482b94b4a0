import UnitOfWork.Backoff
import UnitOfWork.Bus.Memory
import UnitOfWork.Bus.Notify
import UnitOfWork.Bus.Subscriptions
import UnitOfWork.Config
import UnitOfWork.Config.EnvFile
import UnitOfWork.Config.Environment
import UnitOfWork.Config.Issue
import UnitOfWork.DataLayer
import UnitOfWork.Database.Check
import UnitOfWork.Database.Client
import UnitOfWork.Database.Health
import UnitOfWork.Fault
import UnitOfWork.Journal
import UnitOfWork.Json.Basic
import UnitOfWork.Json.Parser
import UnitOfWork.Json.Printer
import UnitOfWork.Json.Reading
import UnitOfWork.Log
import UnitOfWork.Mail.Host
import UnitOfWork.Mail.Mailer
import UnitOfWork.Mail.Message
import UnitOfWork.Mail.Notifier
import UnitOfWork.Mail.Settings
import UnitOfWork.Main
import UnitOfWork.Number.Basic
import UnitOfWork.Number.Logarithm
import UnitOfWork.Number.Numeral
import UnitOfWork.Number.Shortest
import UnitOfWork.Outbox
import UnitOfWork.Platform
import UnitOfWork.Pool.Basic
import UnitOfWork.Pool.Guard
import UnitOfWork.Pool.Source
import UnitOfWork.Program.Basic
import UnitOfWork.Proofs.Apart.Alone
import UnitOfWork.Proofs.Apart.Binding
import UnitOfWork.Proofs.Apart.Linking
import UnitOfWork.Proofs.Apart.Parts
import UnitOfWork.Proofs.Apart.Scopes
import UnitOfWork.Proofs.Apart.Site
import UnitOfWork.Proofs.Bus.Arrival
import UnitOfWork.Proofs.Bus.Ending
import UnitOfWork.Proofs.Bus.Registrations
import UnitOfWork.Proofs.Config.Clients
import UnitOfWork.Proofs.Config.Numbers
import UnitOfWork.Proofs.Config.Reading
import UnitOfWork.Proofs.Config.WritingBack
import UnitOfWork.Proofs.Course.Programs
import UnitOfWork.Proofs.Course.Scopes
import UnitOfWork.Proofs.Course.Sessions
import UnitOfWork.Proofs.Drivers.Agreement
import UnitOfWork.Proofs.Drivers.Desks
import UnitOfWork.Proofs.Errand.Basic
import UnitOfWork.Proofs.InPlace.Buses
import UnitOfWork.Proofs.InPlace.Honest
import UnitOfWork.Proofs.InPlace.Office
import UnitOfWork.Proofs.InPlace.Soundness
import UnitOfWork.Proofs.InPlace.Standing
import UnitOfWork.Proofs.Inspection.Bench
import UnitOfWork.Proofs.Inspection.Diagnosis
import UnitOfWork.Proofs.Inspection.Masking
import UnitOfWork.Proofs.Inspection.Roles
import UnitOfWork.Proofs.Json.Members
import UnitOfWork.Proofs.Json.Numerals
import UnitOfWork.Proofs.Json.Order
import UnitOfWork.Proofs.Json.RoundTrip
import UnitOfWork.Proofs.Json.Texts
import UnitOfWork.Proofs.Linked.Errands
import UnitOfWork.Proofs.Linked.Programs
import UnitOfWork.Proofs.Linked.Publishing
import UnitOfWork.Proofs.Linked.Scopes
import UnitOfWork.Proofs.Linked.Sessions
import UnitOfWork.Proofs.Linked.Steps
import UnitOfWork.Proofs.Log.Lines
import UnitOfWork.Proofs.Log.Lowest
import UnitOfWork.Proofs.Mail.Bench
import UnitOfWork.Proofs.Mail.Host
import UnitOfWork.Proofs.Mail.Masking
import UnitOfWork.Proofs.Mail.Selection
import UnitOfWork.Proofs.Mail.Sending
import UnitOfWork.Proofs.Mail.Settings
import UnitOfWork.Proofs.Number.Moment
import UnitOfWork.Proofs.Number.Nearest
import UnitOfWork.Proofs.Number.Numerals
import UnitOfWork.Proofs.Number.Rounding
import UnitOfWork.Proofs.Number.Shortest
import UnitOfWork.Proofs.Overlap.Closing
import UnitOfWork.Proofs.Overlap.Committing
import UnitOfWork.Proofs.Overlap.Connecting
import UnitOfWork.Proofs.Overlap.Crowd
import UnitOfWork.Proofs.Overlap.Delivery
import UnitOfWork.Proofs.Overlap.OneTransaction
import UnitOfWork.Proofs.Overlap.Stages
import UnitOfWork.Proofs.Overlap.Turns
import UnitOfWork.Proofs.Pool.Accounting
import UnitOfWork.Proofs.Pool.Balance
import UnitOfWork.Proofs.Pool.Calls
import UnitOfWork.Proofs.Pool.Guard
import UnitOfWork.Proofs.Pool.Lending
import UnitOfWork.Proofs.Pool.Patience
import UnitOfWork.Proofs.Pool.Service
import UnitOfWork.Proofs.Pool.Tally
import UnitOfWork.Proofs.Pool.Turns
import UnitOfWork.Proofs.Publisher.Attempts
import UnitOfWork.Proofs.Publisher.Batch
import UnitOfWork.Proofs.Publisher.Calls
import UnitOfWork.Proofs.Publisher.Fates
import UnitOfWork.Proofs.Publisher.Flushing
import UnitOfWork.Proofs.Publisher.Limits
import UnitOfWork.Proofs.Publisher.Turns
import UnitOfWork.Proofs.Reentrant.Delivery
import UnitOfWork.Proofs.Reentrant.Hall
import UnitOfWork.Proofs.Reentrant.Publications
import UnitOfWork.Proofs.Run
import UnitOfWork.Proofs.Scope.Settling
import UnitOfWork.Proofs.Serialized.Amplification
import UnitOfWork.Proofs.Serialized.Attempt
import UnitOfWork.Proofs.Serialized.Effects
import UnitOfWork.Proofs.Serialized.ExactlyOnce
import UnitOfWork.Proofs.Serialized.Isolation
import UnitOfWork.Proofs.Serialized.Retrying
import UnitOfWork.Proofs.Session.Bracketing
import UnitOfWork.Proofs.Session.GivenBack
import UnitOfWork.Proofs.Session.Grip
import UnitOfWork.Proofs.Session.HandingOver
import UnitOfWork.Proofs.Session.Holding
import UnitOfWork.Proofs.Session.Ledger
import UnitOfWork.Proofs.Session.Nesting
import UnitOfWork.Proofs.Session.PublishOnCommit
import UnitOfWork.Proofs.Session.Quiet
import UnitOfWork.Proofs.Session.SavepointCalls
import UnitOfWork.Proofs.Text.Digits
import UnitOfWork.Proofs.Text.Parts
import UnitOfWork.Proofs.Text.Trimming
import UnitOfWork.Proofs.Thrown.Bench
import UnitOfWork.Proofs.Thrown.Containment
import UnitOfWork.Proofs.Trial.Basic
import UnitOfWork.Proofs.Trial.Calls
import UnitOfWork.Proofs.Trial.Flush
import UnitOfWork.Proofs.Trial.Operations
import UnitOfWork.Proofs.Trial.Playing
import UnitOfWork.Proofs.Trial.Reachable
import UnitOfWork.Proofs.Trial.Running
import UnitOfWork.Proofs.Trial.Savepoints
import UnitOfWork.Proofs.Trial.Work
import UnitOfWork.Proofs.Ulid.Ascending
import UnitOfWork.Proofs.Ulid.Numerals
import UnitOfWork.Publisher
import UnitOfWork.Rehearsal.Borrowing
import UnitOfWork.Rehearsal.Delivering
import UnitOfWork.Rehearsal.Described
import UnitOfWork.Rehearsal.Listening
import UnitOfWork.Rehearsal.Machine
import UnitOfWork.Rehearsal.Mailing
import UnitOfWork.Rehearsal.Plan
import UnitOfWork.Rehearsal.Publishing
import UnitOfWork.Rehearsal.Script
import UnitOfWork.Rehearsal.StandIns
import UnitOfWork.Rehearsal.Step
import UnitOfWork.Rehearsal.Storing
import UnitOfWork.Rehearsal.World
import UnitOfWork.Session.Basic
import UnitOfWork.Session.Scope
import UnitOfWork.Session.Serialized
import UnitOfWork.Session.State
import UnitOfWork.Text.Basic
import UnitOfWork.Text.Blank
import UnitOfWork.Text.Upper
import UnitOfWork.Time
import UnitOfWork.Timers
import UnitOfWork.Ulid
