import PrintJob.Job.Basic

/-! # Printer capabilities -/

namespace PrintJob

/-- The formats a printer accepts, one bit for each. -/
structure FormatSet where
  bits : BitVec 32
  deriving DecidableEq, Repr

namespace FormatSet

def empty : FormatSet := ⟨0⟩

def pdf : FormatSet := ⟨1⟩

def pclm : FormatSet := ⟨2⟩

def pwgRaster : FormatSet := ⟨4⟩

/-- Every format of the second set is in the first. -/
def contains (formats others : FormatSet) : Bool := formats.bits &&& others.bits == others.bits

def union (formats others : FormatSet) : FormatSet := ⟨formats.bits ||| others.bits⟩

def count (formats : FormatSet) : Nat := (List.range 32).countP formats.bits.getLsbD

end FormatSet

structure Capabilities where
  name : String := ""
  uuid : String := ""
  path : String := ""
  faceDownTray : Bool := true
  supportedScalings : List String := []
  defaultScaling : String := ""
  mediaDefault : String := ""
  supportedMediaTypes : List UInt32 := []
  supportedMediaSizes : List UInt32 := []
  ippVersionMajor : UInt32 := 1
  ippVersionMinor : UInt32 := 1
  inputFormats : FormatSet := .empty
  duplex : Bool := false
  borderless : Bool := false
  color : Bool := false
  isSupported : Bool := true
  certificate : Option (List UInt8) := none
  deriving DecidableEq, Repr

namespace Capabilities

def stacking (capabilities : Capabilities) : Stacking := .ofFaceDown capabilities.faceDownTray

def acceptsScaling (capabilities : Capabilities) (mode : String) : Bool :=
  capabilities.supportedScalings.contains mode

/-- Checks an answer of a printer: one that speaks a protocol version below 1.0 is not supported,
whatever it says. -/
def checked (capabilities : Capabilities) : Capabilities :=
  if capabilities.isSupported && capabilities.ippVersionMajor < 1 then
    { capabilities with isSupported := false }
  else capabilities

theorem isSupported_checked_eq_false_iff (capabilities : Capabilities) :
    capabilities.checked.isSupported = false ↔
      capabilities.isSupported = false ∨ capabilities.ippVersionMajor = 0 := by
  unfold checked
  cases hs : capabilities.isSupported with
  | false => simp [hs]
  | true =>
      by_cases hv : capabilities.ippVersionMajor = 0
      · simp [hv]
      · simp [hs, hv]

end Capabilities

end PrintJob
