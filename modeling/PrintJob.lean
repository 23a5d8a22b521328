import PrintJob.Command.Arguments
import PrintJob.Command.Console
import PrintJob.Command.Description
import PrintJob.Command.Listing
import PrintJob.Command.Run
import PrintJob.Disk.Basic
import PrintJob.Disk.Files
import PrintJob.Disk.Path
import PrintJob.Job.Basic
import PrintJob.Job.Capabilities
import PrintJob.Job.Connection
import PrintJob.Job.Document
import PrintJob.Job.Event
import PrintJob.Job.Listener
import PrintJob.Job.Parameters
import PrintJob.Job.Plan
import PrintJob.Job.Scaling
import PrintJob.Job.Settled
import PrintJob.Job.Submission
import PrintJob.Job.Transmission
import PrintJob.Job.Transport
import PrintJob.Json.Basic
import PrintJob.Json.Fields
import PrintJob.Json.Numeral
import PrintJob.Json.Printer
import PrintJob.Json.Reader
import PrintJob.Main
import PrintJob.Number.Binary
import PrintJob.Number.Shortest
import PrintJob.Range.Expression
import PrintJob.Range.Literal
import PrintJob.Range.Run
import PrintJob.Range.Segment
import PrintJob.Range.Token
import PrintJob.Reason.Basic
import PrintJob.Reason.Decode
import PrintJob.Records.Job
import PrintJob.Records.Settings
import PrintJob.Render.Flags
import PrintJob.Settings.Basic
import PrintJob.Settings.Store
import PrintJob.Text.Base64
import PrintJob.Text.Blank
import PrintJob.Text.Hidden
import PrintJob.Text.Numeral
import PrintJob.Text.Pieces
import PrintJob.Text.Quoted
import PrintJob.Proofs.Command.Listing
import PrintJob.Proofs.Command.Session
import PrintJob.Proofs.Disk.Replacement
import PrintJob.Proofs.Job.Course
import PrintJob.Proofs.Job.Resettling
import PrintJob.Proofs.Job.Settling
import PrintJob.Proofs.Json.RoundTrip
import PrintJob.Proofs.Listener.Delivery
import PrintJob.Proofs.Listener.Interleaving
import PrintJob.Proofs.Lookup
import PrintJob.Proofs.Words
import PrintJob.Proofs.Number.Conversion
import PrintJob.Proofs.Range.Blanks
import PrintJob.Proofs.Range.Bounds
import PrintJob.Proofs.Range.Concatenation
import PrintJob.Proofs.Range.Denotation
import PrintJob.Proofs.Range.Grammar
import PrintJob.Proofs.Range.Outcomes
import PrintJob.Proofs.Range.Overlay
import PrintJob.Proofs.Range.RoundTrip
import PrintJob.Proofs.Range.Selection
import PrintJob.Proofs.Range.Threshold
import PrintJob.Proofs.Reason.Beyond
import PrintJob.Proofs.Reason.Decoding
import PrintJob.Proofs.Records.Remains
import PrintJob.Proofs.Settings.Storing
import PrintJob.Proofs.Reason.Ascending
import PrintJob.Proofs.Reason.Walk
import PrintJob.Proofs.Job.Visiting
import PrintJob.Proofs.Job.Agreement
import PrintJob.Proofs.Job.Reporting
import PrintJob.Proofs.Render.Choices
import PrintJob.Proofs.Render.Provenance
import PrintJob.Proofs.Text.Positional
import PrintJob.Proofs.Command.Spelling
import PrintJob.Proofs.Disk.Names
import PrintJob.Proofs.Disk.Creation
import PrintJob.Proofs.Settings.Faults
import PrintJob.Proofs.Settings.Surroundings
