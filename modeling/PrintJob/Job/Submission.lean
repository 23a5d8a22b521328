import PrintJob.Job.Settled
import PrintJob.Job.Transmission

/-! # Submission

A job is settled, started and sent. If a page is refused the job is cancelled and ended before the
error is given back, so that no half-sent job stays behind. -/

namespace PrintJob

/-- What is needed to submit a job. -/
structure Submission where
  connection : Connection
  documents : List Descriptor
  params : Parameters
  capabilities : Capabilities
  debugDir : Option String
  deriving DecidableEq

/-- A job that was sent in full. -/
structure SentJob where
  job : JobId
  settled : SettledJob
  deriving DecidableEq

/-- Why a job was not sent. -/
inductive SubmissionError where
  | refused (cause : Refusal)
  | startFailed (reason : String)
  | transmission (job : JobId) (cause : RefusedPage)
  deriving DecidableEq, Repr

namespace SubmissionError

def message : SubmissionError → String
  | refused cause => cause.message
  | startFailed reason => "failed to start job: " ++ reason
  | transmission job cause => job.text ++ " aborted: " ++ cause.message

/-- The wordings of the error and of the error behind it. -/
def chain : SubmissionError → List String
  | transmission job cause => [(transmission job cause).message, cause.message]
  | error => [error.message]

end SubmissionError

namespace Submission

/-- What the transport is told when the job starts. -/
def jobStart (submission : Submission) (settled : SettledJob) : JobStart :=
  { connection := submission.connection
    mimeType := settled.mimeType
    params := settled.params
    capabilities := submission.capabilities
    debugDir := submission.debugDir }

end Submission

namespace Transport

variable {σ : Type}

/-- Starts and sends a settled job. -/
def run (transport : Transport σ) (request : JobStart) (settled : SettledJob) (state : σ) :
    Except SubmissionError SentJob × σ :=
  match transport.start request state with
  | (.error reason, state) => (.error (.startFailed reason), state)
  | (.ok job, state) =>
    match transport.sendPlan job settled.plan state with
    | (.ok (), state) => (.ok ⟨job, settled⟩, state)
    | (.error cause, state) =>
      let (_, state) := transport.cancel job state
      let (_, state) := transport.finish job state
      (.error (.transmission job cause), state)

/-- Settles, starts and sends a job. -/
def submit (transport : Transport σ) (submission : Submission) (state : σ) :
    Except SubmissionError SentJob × σ :=
  match SettledJob.ofDescriptors submission.documents submission.params submission.capabilities with
  | .error cause => (.error (.refused cause), state)
  | .ok settled => transport.run (submission.jobStart settled) settled state

end Transport

end PrintJob
