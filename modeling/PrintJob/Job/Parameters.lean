import PrintJob.Job.Basic
import PrintJob.Number.Binary
import PrintJob.Render.Flags

/-! # Job parameters

What the caller asks of a job. Settling the job fills in the flags, the scaling, the page total and
the certificate. -/

namespace PrintJob

/-- Margins in inches. -/
structure Margin where
  top : Number.Single := .zero .single false
  bottom : Number.Single := .zero .single false
  left : Number.Single := .zero .single false
  right : Number.Single := .zero .single false
  deriving DecidableEq

structure Parameters where
  jobName : String := ""
  originatingUser : String := ""
  numCopies : UInt32 := 1
  duplex : Duplex := .off
  render : Render.Request := {}
  alignment : Render.Alignment := .unset
  renderFlags : Render.Flags := .empty
  pageMargins : Margin := {}
  jobMargins : Margin := {}
  documentCategory : String := ""
  pageRange : Option String := none
  sharedPhoto : Bool := false
  preserveScaling : Bool := false
  printScaling : String := ""
  jobPagesPerSet : UInt32 := 0
  certificate : Option (List UInt8) := none
  deriving DecidableEq

end PrintJob
