/-! # Render flags

The renderer is told how to place a page by a word of flags. The flags follow from a base word, from
what was asked for, and from the alignment of the content on the sheet. -/

namespace PrintJob.Render

/-- What was asked for. -/
structure Request where
  portrait : Bool := false
  landscape : Bool := false
  autoRotate : Bool := false
  fillPage : Bool := false
  fitToPage : Bool := false
  documentScaling : Bool := false
  deriving DecidableEq, Repr

/-- The alignment of the content on the sheet. The word zero keeps the centring as it is. -/
structure Alignment where
  bits : BitVec 32
  deriving DecidableEq, Repr

namespace Alignment

def unset : Alignment := ⟨0⟩

def horizontal : Alignment := ⟨1⟩

def vertical : Alignment := ⟨2⟩

def onOrientation : Alignment := ⟨4⟩

def both : Alignment := ⟨horizontal.bits ||| vertical.bits⟩

def meets (alignment other : Alignment) : Bool := alignment.bits &&& other.bits != 0

def contains (alignment other : Alignment) : Bool := alignment.bits &&& other.bits == other.bits

end Alignment

structure Flags where
  bits : BitVec 32
  deriving DecidableEq, Repr

namespace Flags

def empty : Flags := ⟨0⟩

def portraitBit : Flags := ⟨0x1⟩

def landscapeBit : Flags := ⟨0x2⟩

def rotationBit : Flags := ⟨0x4⟩

def horizontalBit : Flags := ⟨0x8⟩

def verticalBit : Flags := ⟨0x10⟩

def orientationBit : Flags := ⟨0x20⟩

def fillBit : Flags := ⟨0x40⟩

def fitBit : Flags := ⟨0x80⟩

def ownScalingBit : Flags := ⟨0x100⟩

def union (flags others : Flags) : Flags := ⟨flags.bits ||| others.bits⟩

/-- Fill the page, centred on both axes. -/
def filling : Flags := (fillBit.union horizontalBit).union verticalBit

/-- Fit the content into the page, centred on both axes. -/
def fitting : Flags := (fitBit.union horizontalBit).union verticalBit

/-- Every flag that has to do with centring. -/
def centring : Flags := (horizontalBit.union verticalBit).union orientationBit

/-- Every flag of the second word is in the first. -/
def contains (flags others : Flags) : Bool := flags.bits &&& others.bits == others.bits

def insert (flags others : Flags) : Flags := ⟨flags.bits ||| others.bits⟩

def remove (flags others : Flags) : Flags := ⟨flags.bits &&& ~~~others.bits⟩

/-- Adds other flags on a condition. -/
def insertIf (condition : Bool) (flags others : Flags) : Flags :=
  if condition then flags.insert others else flags

def portrait (flags : Flags) : Bool := flags.contains portraitBit

def landscape (flags : Flags) : Bool := flags.contains landscapeBit

def autoRotate (flags : Flags) : Bool := flags.contains rotationBit

def fillPage (flags : Flags) : Bool := flags.contains filling

def fitToPage (flags : Flags) : Bool := flags.contains fitting

/-- Adds the orientation that was asked for: portrait before landscape before rotation. -/
def orient (request : Request) (flags : Flags) : Flags :=
  if request.portrait then flags.insert portraitBit
  else if request.landscape then flags.insert landscapeBit
  else if request.autoRotate then flags.insert rotationBit
  else flags

/-- Adds the scaling that was asked for: filling the page before fitting the content, and the
document's own scaling only with the latter. -/
def scale (request : Request) (flags : Flags) : Flags :=
  if request.fillPage then flags.insert filling
  else if request.fitToPage then
    insertIf request.documentScaling (flags.insert fitting) ownScalingBit
  else flags

/-- Replaces the centring by that of an alignment. Centring on both axes leaves no centring on the
orientation. -/
def align (alignment : Alignment) (flags : Flags) : Flags :=
  if alignment.bits = 0 then flags
  else
    let flags := flags.remove centring
    let flags := insertIf (alignment.meets .horizontal) flags horizontalBit
    let flags := insertIf (alignment.meets .vertical) flags verticalBit
    let flags :=
      insertIf (alignment.meets .onOrientation) flags orientationBit
    if alignment.contains .both then
      ((flags.remove orientationBit).insert horizontalBit).insert verticalBit
    else flags

/-- The flags for what was asked for, on top of a base word. -/
def derive (base : Flags) (request : Request) (alignment : Alignment) : Flags :=
  align alignment (scale request (orient request base))

end Flags

end PrintJob.Render
