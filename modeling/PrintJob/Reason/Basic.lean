/-! # Reasons

Why a job does not go on, and why it ended without success. The place of a reason in its list is the
bit that stands for it in a status word. -/

namespace PrintJob

/-- A reason: its name, and the symbol that reports use. -/
structure Reason where
  name : String
  symbol : String
  deriving DecidableEq, Repr

namespace Reason

/-- Conditions that keep a job from going on for a while. -/
def blocked : List Reason := [
  ⟨"UnableToConnect", "device-offline"⟩,
  ⟨"Busy", "device-busy"⟩,
  ⟨"Cancelled", "print-job-cancelled"⟩,
  ⟨"OutOfPaper", "input-media-supply-empty"⟩,
  ⟨"OutOfInk", "marker-ink-empty"⟩,
  ⟨"OutOfToner", "marker-toner-empty"⟩,
  ⟨"Jammed", "jam"⟩,
  ⟨"DoorOpen", "cover-door-open"⟩,
  ⟨"ServiceRequest", "service-request"⟩,
  ⟨"Paused", "paused"⟩,
  ⟨"Stopped", "stopped"⟩,
  ⟨"LowOnInk", "marker-ink-almost-empty"⟩,
  ⟨"LowOnToner", "marker-toner-almost-empty"⟩,
  ⟨"InputCannotFeedSizeSelected", "input-cannot-feed-size-selected"⟩,
  ⟨"InterlockError", "interlock-error"⟩,
  ⟨"OutputTrayMissing", "output-tray-missing"⟩,
  ⟨"BanderError", "bander-error"⟩,
  ⟨"BinderError", "binder-error"⟩,
  ⟨"PowerError", "power-error"⟩,
  ⟨"CleanerError", "cleaner-error"⟩,
  ⟨"InputTrayError", "input-tray-error"⟩,
  ⟨"InserterError", "inserter-error"⟩,
  ⟨"InterpreterError", "interpreter-error"⟩,
  ⟨"MakeEnvelopeError", "make-envelope-error"⟩,
  ⟨"MarkerError", "marker-error"⟩,
  ⟨"MediaError", "media-error"⟩,
  ⟨"PerforaterError", "perforater-error"⟩,
  ⟨"PuncherError", "puncher-error"⟩,
  ⟨"SeparationCutterError", "separation-cutter-error"⟩,
  ⟨"SheetRotatorError", "sheet-rotator-error"⟩,
  ⟨"SlitterError", "slitter-error"⟩,
  ⟨"StackerError", "stacker-error"⟩,
  ⟨"StaplerError", "stapler-error"⟩,
  ⟨"StitcherError", "stitcher-error"⟩,
  ⟨"SubunitError", "subunit-error"⟩,
  ⟨"TrimmerError", "trimmer-error"⟩,
  ⟨"WrapperError", "wrapper-error"⟩,
  ⟨"ClientError", "client-error"⟩,
  ⟨"ServerError", "server-error"⟩,
  ⟨"AlertRemovalOfBinaryChangeEntry", "alert-removal-of-binary-change-entry"⟩,
  ⟨"ConfigurationChanged", "configuration-changed"⟩,
  ⟨"ConnectingToDevice", "connecting-to-device"⟩,
  ⟨"DeveloperError", "developer-error"⟩,
  ⟨"HoldNewJobs", "hold-new-jobs"⟩,
  ⟨"OpcLifeOver", "opc-life-over"⟩,
  ⟨"SpoolAreaFull", "spool-area-full"⟩,
  ⟨"TimedOut", "timed-out"⟩,
  ⟨"Shutdown", "shutdown"⟩,
  ⟨"PrinterManualReset", "printer-manual-reset"⟩,
  ⟨"PrinterNmsReset", "printer-nms-reset"⟩]

/-- Conditions that ended a job without success. -/
def failed : List Reason := [
  ⟨"UnableToConnect", "device-offline"⟩,
  ⟨"AbortedBySystem", "aborted-by-system"⟩,
  ⟨"UnsupportedCompression", "unsupported-compression"⟩,
  ⟨"CompressionError", "compression-error"⟩,
  ⟨"UnsupportedDocumentFormat", "unsupported-document-format"⟩,
  ⟨"DocumentFormatError", "document-format-error"⟩,
  ⟨"ServiceOffline", "service-off-line"⟩,
  ⟨"DocumentPasswordError", "document-password-error"⟩,
  ⟨"DocumentPermissionError", "document-permission-error"⟩,
  ⟨"DocumentSecurityError", "document-security-error"⟩,
  ⟨"DocumentUnprintableError", "document-unprintable-error"⟩,
  ⟨"DocumentAccessError", "document-access-error"⟩,
  ⟨"SubmissionInterrupted", "submission-interrupted"⟩,
  ⟨"AuthorizationFailed", "job-authorization-failed"⟩,
  ⟨"AccountClosed", "job-account-closed"⟩,
  ⟨"AccountInfoNeeded", "job-account-info-needed"⟩,
  ⟨"AccountLimitReached", "job-account-limit-reached"⟩]

end Reason

inductive ReasonFamily where
  | blocked
  | failed
  deriving DecidableEq, Repr

namespace ReasonFamily

/-- The reasons of a family in the order of their bits. -/
def reasons : ReasonFamily → List Reason
  | .blocked => Reason.blocked
  | .failed => Reason.failed

/-- The number of reasons; bits from this index on mean nothing. -/
def bound (family : ReasonFamily) : Nat := family.reasons.length

end ReasonFamily

end PrintJob
