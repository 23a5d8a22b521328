import PrintJob.Json.Reader
import PrintJob.Records.Job

/-! # Job descriptions

A file that describes a printer and a job for it. -/

namespace PrintJob.Command

structure JobDescription where
  address : String := "localhost"
  port : UInt16 := 631
  capabilities : Capabilities
  params : Parameters := {}
  documents : List Descriptor
  deriving DecidableEq

namespace JobDescription

def fieldNames : List String := ["address", "port", "capabilities", "params", "documents"]

def ofJson? (value : Json) : Option JobDescription := do
  let fields ← value.fields? fieldNames 0
  let address ← fields.read "address" Json.toText? (some "localhost")
  let port ← fields.read "port" Json.toUInt16? (some 631)
  let capabilities ← fields.read "capabilities" Capabilities.ofJson? none
  let params ← fields.read "params" Parameters.ofJson? (some {})
  let documents ← fields.read "documents" (Json.toList? Descriptor.ofJson?) none
  some { address, port, capabilities, params, documents }

def ofText? (text : String) : Option JobDescription := (Json.parse? text).bind ofJson?

end JobDescription

end PrintJob.Command
