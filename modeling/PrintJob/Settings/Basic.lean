import PrintJob.Text.Blank

/-! # Settings

How the program names itself to a printer, how long it waits for one, and where a transport may
leave copies of what it sends. -/

namespace PrintJob

/-- The name of the application towards a printer. -/
structure Application where
  name : String := "printseq_printing"
  version : String := "0.1.0"
  system : String := "linux"
  deriving DecidableEq, Repr

/-- A text unless it is blank. -/
def orDefault (default text : String) : String :=
  if Text.isBlankText text.toList then default else text

/-- Replaces blank names by the default ones. -/
def Application.mend (source : Application) : Application :=
  let default : Application := {}
  { name := orDefault default.name source.name
    version := orDefault default.version source.version
    system := orDefault default.system source.system }

structure Settings where
  version : UInt32 := 1
  source : Application := {}
  timeoutMs : UInt64 := 120000
  /-- A directory for what a transport leaves behind. -/
  debugDir : Option String := none
  deriving DecidableEq, Repr

namespace Settings

/-- The shortest time to wait for a printer, in milliseconds. -/
def shortestTimeout : UInt64 := 100

/-- The longest time to wait for a printer, in milliseconds. -/
def longestTimeout : UInt64 := 600000

/-- Brings a time to wait into its bounds. -/
def clampTimeout (timeout : UInt64) : UInt64 :=
  if timeout < shortestTimeout then shortestTimeout
  else if longestTimeout < timeout then longestTimeout
  else timeout

/-- Mends what a hand-written file can get wrong. -/
def mend (settings : Settings) : Settings :=
  { version := if settings.version = 0 then 1 else settings.version
    source := settings.source.mend
    timeoutMs := clampTimeout settings.timeoutMs
    debugDir := settings.debugDir.filter fun dir => !dir.isEmpty }

/-- The time to wait in whole seconds. -/
def timeoutSeconds (settings : Settings) : Nat := settings.timeoutMs.toNat / 1000

end Settings

end PrintJob
