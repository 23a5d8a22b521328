import PrintJob.Range.Segment
import PrintJob.Text.Pieces

/-! # Range expressions

An expression is a list of segments with commas between them. Its pages are those of its segments
one after another, neither sorted nor thinned out. An expression that is missing, empty or wrong
anywhere stands for the whole document. -/

namespace PrintJob.Range

/-- The segments of an expression: its pieces without the empty ones. -/
def segments (expression : List Char) : List (List Char) :=
  (Text.pieces ',' expression).filter fun piece => !piece.isEmpty

/-- Appends the pages of segments to a list, up to the first error. -/
def appendSegments (pageCount : Nat) : List (List Char) → List Nat → Except SegmentError (List Nat)
  | [], pages => .ok pages
  | segment :: rest, pages =>
    match appendSegment segment pageCount pages with
    | (.error e, _) => .error e
    | (.ok (), pages) => appendSegments pageCount rest pages

/-- The pages that an expression selects from a document. -/
def selectPages (expression : List Char) (pageCount : Nat) : Except SegmentError (List Nat) :=
  appendSegments pageCount (segments expression) []

/-- The expression for a whole document. -/
def wholeText (pageCount : Nat) : String := "1-" ++ toString pageCount

def wholePages (pageCount : Nat) : List Nat := List.range' 1 pageCount

/-- A range that has been applied to a document: how it is shown, and the pages it prints. -/
structure Resolved where
  applied : String
  pages : List Nat
  deriving DecidableEq, Repr

namespace Resolved

def size (range : Resolved) : Nat := range.pages.length

def isEmpty (range : Resolved) : Bool := range.pages.isEmpty

def whole (pageCount : Nat) : Resolved := ⟨wholeText pageCount, wholePages pageCount⟩

end Resolved

/-- Applies an expression to a document. -/
def resolve (expression : Option String) (pageCount : Nat) : Resolved :=
  match expression with
  | none => .whole pageCount
  | some text =>
    if text.isEmpty then .whole pageCount
    else
      match selectPages text.toList pageCount with
      | .ok pages => ⟨text, pages⟩
      | .error _ => .whole pageCount

end PrintJob.Range
