import PrintJob.Job.Capabilities
import PrintJob.Settings.Basic

/-! # Connections

Where a printer is reached, and what it answers when it is asked for its capabilities. -/

namespace PrintJob

/-- Where and how a printer is reached. -/
structure Connection where
  address : String
  port : UInt16
  resource : String
  scheme : String
  timeoutMs : UInt64
  deriving DecidableEq, Repr

namespace Connection

/-- The usual connection to an address, with the time to wait from the settings. -/
def ofSettings (address : String) (port : UInt16) (settings : Settings) : Connection :=
  { address
    port
    resource := "/ipp/print"
    scheme := "ipp"
    timeoutMs := settings.timeoutMs }

def text (connection : Connection) : String :=
  connection.scheme ++ "://" ++ connection.address ++ ":" ++ toString connection.port.toNat ++
    connection.resource

end Connection

/-- The printer gave no answer. -/
structure UnreachablePrinter where
  target : String
  reason : String
  deriving DecidableEq, Repr

def UnreachablePrinter.message (error : UnreachablePrinter) : String :=
  "printer at " ++ error.target ++ " could not be queried: " ++ error.reason

/-- Asks a printer for its capabilities and checks the answer. An answer that makes the printer
unusable is still an answer. -/
def Connection.ask (connection : Connection) (printer : Connection → Except String Capabilities) :
    Except UnreachablePrinter Capabilities :=
  match printer connection with
  | .ok capabilities => .ok capabilities.checked
  | .error reason => .error ⟨connection.text, reason⟩

end PrintJob
