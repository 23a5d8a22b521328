import PrintJob.Job.Transport

/-! # Transmission

The steps of a plan are sent one after another up to the first one that is refused. The end
marker follows in any case, so that the stream is always closed. -/

namespace PrintJob

/-- A page that a transport refused. -/
structure RefusedPage where
  document : Nat
  pageNumber : Nat
  reason : String
  deriving DecidableEq, Repr

def RefusedPage.message (error : RefusedPage) : String :=
  "failed to transmit page " ++ toString error.pageNumber ++ " of document " ++
    toString error.document ++ ": " ++ error.reason

/-- The error for a refused step. -/
def RefusedPage.ofStep (step : PageStep) (reason : String) : RefusedPage :=
  { document := step.document.getD 0, pageNumber := step.pageNumber, reason }

namespace Transport

variable {σ : Type}

/-- Sends steps up to the first one that is refused. -/
def sendSteps (transport : Transport σ) (job : JobId) :
    List PageStep → σ → Except RefusedPage Unit × σ
  | [], state => (.ok (), state)
  | step :: rest, state =>
    match transport.page job step state with
    | (.ok (), state) => transport.sendSteps job rest state
    | (.error reason, state) => (.error (.ofStep step reason), state)

/-- Sends a plan. Nothing depends on the answer to the end marker. -/
def sendPlan (transport : Transport σ) (job : JobId) (plan : Plan) (state : σ) :
    Except RefusedPage Unit × σ :=
  let (outcome, state) := transport.sendSteps job plan.steps state
  let (_, state) := transport.page job plan.endMarker state
  (outcome, state)

end Transport

end PrintJob
