import PrintJob.Range.Expression

/-! # Documents

A document of a job is described by its path, its type and its number of pages. A paginated document
prints a range of its pages; any other document is sent as a whole. -/

namespace PrintJob

/-- The type of documents that have pages and can be sent as they are. -/
def pdfType : String := "application/pdf"

/-- What is known about a document before its pages are chosen. -/
structure Descriptor where
  path : String
  mimeType : String
  /-- The number of pages, zero where the content has none. -/
  pageCount : UInt32
  deriving DecidableEq, Repr

/-- A document has pages if it is a PDF with a path. -/
def Descriptor.hasPages (descriptor : Descriptor) : Bool :=
  descriptor.mimeType == pdfType && !descriptor.path.isEmpty

/-- A document whose pages have been chosen. -/
structure Document where
  descriptor : Descriptor
  /-- The chosen pages; a document without pages has none. -/
  range : Option Range.Resolved
  deriving DecidableEq, Repr

namespace Document

/-- Chooses the pages of a document by an expression. -/
def ofDescriptor (descriptor : Descriptor) (expression : Option String) : Document :=
  { descriptor
    range :=
      if descriptor.hasPages then some (Range.resolve expression descriptor.pageCount.toNat)
      else none }

/-- The document prints on a single sheet: it is sent as a whole or has just one page to print. -/
def isSingleSheet (document : Document) : Bool :=
  match document.range with
  | none => true
  | some range => range.size == 1

end Document

end PrintJob
