import PrintJob.Job.Document
import PrintJob.Job.Parameters

/-! # Transmission plans

A plan is the sequence of steps that send the pages of a job, with the marker that ends it. The
documents and the pages of each document go out in the order of the tray. -/

namespace PrintJob

/-- A part of a page, in inches. -/
structure Crop where
  top : Number.Single
  left : Number.Single
  width : Number.Single
  height : Number.Single
  deriving DecidableEq

/-- One step of a plan: a page to send, or the marker. -/
structure PageStep where
  /-- The index of the document in the job; the end marker has none. -/
  document : Option Nat
  pageNumber : Nat
  /-- The path of the content; the end marker has none. -/
  content : Option String
  lastPage : Bool
  pdfPassthrough : Bool
  crop : Option Crop
  deriving DecidableEq

namespace PageStep

/-- The step for a page of a document. -/
def page (document pageNumber : Nat) (path : String) (pdfPassthrough : Bool) : PageStep :=
  { document := some document
    pageNumber
    content := some path
    lastPage := false
    pdfPassthrough
    crop := none }

/-- The marker after the last page. -/
def endMarker (pageNumber : Nat) : PageStep :=
  { document := none
    pageNumber
    content := none
    lastPage := true
    pdfPassthrough := false
    crop := none }

/-- The step closes the stream: it is the last one and has no content. -/
def isEndMarker (step : PageStep) : Bool := step.content.isNone && step.lastPage

@[simp] theorem isEndMarker_page (document pageNumber : Nat) (path : String) (pdf : Bool) :
    (page document pageNumber path pdf).isEndMarker = false := rfl

@[simp] theorem isEndMarker_endMarker (pageNumber : Nat) :
    (endMarker pageNumber).isEndMarker = true := rfl

end PageStep

/-- A job with a single document of a single sheet is not printed on both sides. -/
def disablesDuplex : List Document → Bool
  | [document] => document.isSingleSheet
  | _ => false

/-- What is sent for a job. -/
structure Plan where
  steps : List PageStep
  endMarker : PageStep
  deriving DecidableEq

namespace Plan

/-- The steps for a document. A document without pages is sent as a whole, and its step is
numbered by its place among the documents sent. -/
def ofDocument (stacking : Stacking) (index place : Nat) (document : Document) : List PageStep :=
  match document.range with
  | some range =>
    (stacking.order range.pages).map fun number =>
      .page index number document.descriptor.path true
  | none => [.page index place document.descriptor.path false]

/-- The steps for documents with their indices, the first of them in the place given. -/
def ofDocuments (stacking : Stacking) : Nat → List (Document × Nat) → List PageStep
  | _, [] => []
  | place, (document, index) :: rest =>
    ofDocument stacking index place document ++ ofDocuments stacking (place + 1) rest

/-- The plan for the documents of a job. -/
def compose (documents : List Document) (stacking : Stacking) : Plan :=
  { steps := ofDocuments stacking 1 (stacking.order documents.zipIdx)
    endMarker := .endMarker (documents.length + 1) }

/-- Leaves out every value that repeats the one before it. -/
def dropRepeats : List Nat → List Nat
  | [] => []
  | [x] => [x]
  | x :: y :: rest => if x = y then dropRepeats (y :: rest) else x :: dropRepeats (y :: rest)

/-- The documents of the steps in the order in which they come up. -/
def visits (plan : Plan) : List Nat :=
  dropRepeats (plan.steps.filterMap (·.document))

end Plan

end PrintJob
