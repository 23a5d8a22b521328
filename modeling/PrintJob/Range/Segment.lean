import PrintJob.Range.Literal
import PrintJob.Range.Run
import PrintJob.Range.Token
import PrintJob.Text.Quoted

/-! # Segments of a range expression

A segment names one run of pages by its two bounds with a dash between them, or one page. Blanks do
not count. Every further dash starts the second bound again. -/

namespace PrintJob.Range

/-- Why a segment selects no pages. -/
inductive SegmentError where
  | notNumeric (first last : String)
  | notPositive (first last : Int)
  | outOfBounds (first last : Int) (pageCount : Nat)
  deriving DecidableEq, Repr

def SegmentError.message : SegmentError → String
  | notNumeric first last =>
    "range bounds are not numeric: first=" ++ Text.quote first ++ ", second=" ++ Text.quote last
  | notPositive first last =>
    "range bounds must be at least 1: first=" ++ toString first ++ ", second=" ++ toString last
  | outOfBounds first last pageCount =>
    "range bounds exceed " ++ toString pageCount ++ " pages: first=" ++ toString first ++
      ", second=" ++ toString last

/-- The two bounds of a segment while it is being read. -/
structure Bounds where
  first : Token
  last : Token
  dashed : Bool
  deriving DecidableEq, Repr

namespace Bounds

def empty : Bounds := ⟨.empty, .empty, false⟩

/-- Takes one character of the segment. -/
def feed (bounds : Bounds) (c : Char) : Bounds :=
  if Text.isAsciiBlank c then bounds
  else if c = '-' then ⟨bounds.first.rewind, bounds.last.rewind, true⟩
  else if bounds.dashed then { bounds with last := bounds.last.push c }
  else { bounds with first := bounds.first.push c }

def ofSegment (segment : List Char) : Bounds := segment.foldl feed empty

def firstText (bounds : Bounds) : List Char := bounds.first.text

/-- The text of the second bound; without a dash it is zero. -/
def lastText (bounds : Bounds) : List Char :=
  if bounds.dashed then bounds.last.text else ['0']

end Bounds

/-- The run that a segment selects from a document. A second bound of zero repeats the first. -/
def selectRun (segment : List Char) (pageCount : Nat) : Except SegmentError Run :=
  let bounds := Bounds.ofSegment segment
  let firstText := bounds.firstText
  let lastText := bounds.lastText
  if !isLiteral firstText || !isLiteral lastText then
    .error (.notNumeric (String.ofList firstText) (String.ofList lastText))
  else
    let first := initialInteger firstText
    let second := initialInteger lastText
    let last := if second = 0 then first else second
    if first ≤ 0 ∨ last ≤ 0 then .error (.notPositive first last)
    else if (pageCount : Int) < first ∨ (pageCount : Int) < last then
      .error (.outOfBounds first last pageCount)
    else .ok ⟨first.toNat, last.toNat⟩

/-- Appends the pages of a segment to a list. A segment with an error leaves the list alone. -/
def appendSegment (segment : List Char) (pageCount : Nat) (pages : List Nat) :
    Except SegmentError Unit × List Nat :=
  match selectRun segment pageCount with
  | .error e => (.error e, pages)
  | .ok run => (.ok (), pages ++ run.pages)

end PrintJob.Range
