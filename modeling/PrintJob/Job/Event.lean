import PrintJob.Job.Basic
import PrintJob.Reason.Decode

/-! # Job events

A transport notifies about the progress of a job in codes and status bits. A listener receives an
event with their meaning. -/

namespace PrintJob

/-- How far a job has come. -/
inductive Progress where
  | queued
  | running
  | blocked
  | done
  | other
  deriving DecidableEq, Repr

namespace Progress

def ofCode (code : Int) : Progress :=
  if code = 0 then .queued
  else if code = 1 then .running
  else if code = 2 then .blocked
  else if code = 3 then .done
  else .other

/-- Nothing follows. -/
def isFinal : Progress → Bool
  | .done => true
  | _ => false

def name : Progress → String
  | .queued => "queued"
  | .running => "running"
  | .blocked => "blocked"
  | .done => "done"
  | .other => "other"

end Progress

/-- How a job ended. -/
inductive Outcome where
  | success
  | error
  | cancelled
  | corrupt
  | badCertificate
  | other
  deriving DecidableEq, Repr

namespace Outcome

def ofCode (code : Int) : Outcome :=
  if code = 0 then .success
  else if code = -1 then .error
  else if code = -2 then .cancelled
  else if code = -3 then .corrupt
  else if code = -4 then .badCertificate
  else .other

/-- The status bits of such a job give reasons for its failure. -/
def isFailure : Outcome → Bool
  | .error => true
  | .corrupt => true
  | _ => false

def name : Outcome → String
  | .success => "ok"
  | .error => "error"
  | .cancelled => "cancelled"
  | .corrupt => "corrupt"
  | .badCertificate => "bad-certificate"
  | .other => "other"

end Outcome

/-- What a transport reports about a job. -/
structure Notification where
  stateCode : Int := 0
  resultCode : Int := 0
  statusBits : StatusWord := 0
  certificate : Option (List UInt8) := none
  deriving DecidableEq, Repr

/-- What a listener learns about a job. -/
structure JobEvent where
  job : JobId
  progress : Progress
  /-- Only a job that is done has an outcome. -/
  outcome : Option Outcome
  symbols : Symbols
  certificate : Option (List UInt8)
  deriving DecidableEq, Repr

namespace JobEvent

/-- The family of reasons that belongs to an outcome. -/
def reasonFamily : Option Outcome → ReasonFamily
  | some outcome => if outcome.isFailure then .failed else .blocked
  | none => .blocked

def ofNotification (job : JobId) (notification : Notification) : JobEvent :=
  let progress := Progress.ofCode notification.stateCode
  let outcome :=
    if progress.isFinal then some (Outcome.ofCode notification.resultCode) else none
  let family := reasonFamily outcome
  let count := StatusWord.countBelow notification.statusBits family.bound
  let symbols :=
    if 0 < count then StatusWord.decode notification.statusBits family.bound family.table count
    else .empty
  { job, progress, outcome, symbols, certificate := notification.certificate }

end JobEvent

end PrintJob
