import PrintJob.Job.Plan
import PrintJob.Job.Scaling

/-! # Settled jobs

A job is settled before it is sent: its parameters take their final values, and a plan says what
goes out in which order. Of the printer only the capabilities are consulted. -/

namespace PrintJob

/-- Why a job is not settled. -/
inductive Refusal where
  | noDocuments
  | unsupportedPrinter (name : String)
  deriving DecidableEq, Repr

def Refusal.message : Refusal → String
  | noDocuments => "empty file list"
  | unsupportedPrinter name => "printer " ++ Text.quote name ++ " is not supported"

/-- A job with settled parameters and a plan. -/
structure SettledJob where
  params : Parameters
  documents : List Document
  /-- The type of the first document, by which the job is announced. -/
  mimeType : String
  format : TransferFormat
  stacking : Stacking
  /-- Printing on both sides was turned off because the job fits on one sheet. -/
  smartDuplex : Bool
  plan : Plan
  deriving DecidableEq

namespace SettledJob

/-- The pages of all paginated documents together, whatever ranges are printed. -/
def totalPages : List Document → Nat
  | [] => 0
  | document :: rest =>
    if document.range.isSome then document.descriptor.pageCount.toNat + totalPages rest
    else totalPages rest

/-- Turns printing on both sides off for a job on one sheet. -/
def settleDuplex (documents : List Document) (params : Parameters) : Bool × Parameters :=
  if disablesDuplex documents then (true, { params with duplex := .off }) else (false, params)

/-- Settles the job of a first document and all documents. -/
def settle (first : Descriptor) (descriptors : List Descriptor) (params : Parameters)
    (capabilities : Capabilities) : SettledJob :=
  let params :=
    { params with renderFlags := .derive params.renderFlags params.render params.alignment }
  let documents := descriptors.map (Document.ofDescriptor · params.pageRange)
  let (smartDuplex, params) := settleDuplex documents params
  let format := TransferFormat.detect first.mimeType capabilities
  let params := Scaling.apply format capabilities params
  let params :=
    { params with
      jobPagesPerSet := UInt32.ofNat (totalPages documents)
      certificate := capabilities.certificate }
  { params
    documents
    mimeType := first.mimeType
    format
    stacking := capabilities.stacking
    smartDuplex
    plan := Plan.compose documents capabilities.stacking }

/-- Settles a job. An empty job is refused before an unsupported printer. -/
def ofDescriptors (descriptors : List Descriptor) (params : Parameters)
    (capabilities : Capabilities) : Except Refusal SettledJob :=
  match descriptors with
  | [] => .error .noDocuments
  | first :: _ =>
    if capabilities.isSupported then .ok (settle first descriptors params capabilities)
    else .error (.unsupportedPrinter capabilities.name)

end SettledJob

end PrintJob
