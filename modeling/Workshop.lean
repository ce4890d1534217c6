import Workshop.Text.Basic
import Workshop.Text.Percent
import Workshop.Json.Encoding
import Workshop.Instant.Printer
import Workshop.Instant.Reader
import Workshop.Interval
import Workshop.Storage.Tables
import Workshop.Failure
import Workshop.Event.Patch
import Workshop.Event.View
import Workshop.Records
import Workshop.Booking.Archive
import Workshop.Comment
import Workshop.Document.Attach
import Workshop.State
import Workshop.Schema.Event
import Workshop.Schema.Query
import Workshop.Api.Message
import Workshop.Migration.Script
import Workshop.Migration.Database
import Workshop.Proofs.Schedule
import Workshop.Proofs.Tokens
import Workshop.Proofs.Orders
import Workshop.Proofs.Archival
import Workshop.Proofs.Bookkeeping
import Workshop.Proofs.Exclusion
import Workshop.Proofs.Stock
import Workshop.Proofs.Atomic
import Workshop.Proofs.Replay
import Workshop.Proofs.Filing
import Workshop.Proofs.Batch
import Workshop.Proofs.Download
import Workshop.Proofs.Additions
import Workshop.Proofs.OperationLinks
import Workshop.Proofs.Bookable
import Workshop.Proofs.Outcomes
import Workshop.Proofs.Replies
import Workshop.Proofs.Patchable
import Workshop.Proofs.Patched
import Workshop.Proofs.Reassignment
import Workshop.Proofs.Agenda
import Workshop.Proofs.Paging
import Workshop.Proofs.Race
import Workshop.Proofs.Commuting
import Workshop.Proofs.Storing
import Workshop.Proofs.Admitted
import Workshop.Proofs.Unchanged
import Workshop.Proofs.Confinement
import Workshop.Proofs.Respelling
import Workshop.Proofs.Validation
