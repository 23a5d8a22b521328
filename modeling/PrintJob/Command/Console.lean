import PrintJob.Command.Listing
import PrintJob.Job.Submission

/-! # The console transport

A transport that shows every call instead of talking to a printer, and can be told to refuse one
page. A session with a transport submits one job and ends it. -/

namespace PrintJob

/-- What the console has shown, and how many pages it was sent. -/
structure Console where
  lines : List String := []
  pages : Nat := 0
  deriving DecidableEq, Repr

namespace Console

def print (line : String) (console : Console) : Console :=
  { console with lines := console.lines ++ [line] }

/-- Shows a line and succeeds. -/
def accept (line : String) (console : Console) : Except String Unit × Console :=
  (.ok (), console.print line)

/-- The one job of a console. -/
def job : JobId := ⟨1⟩

def startLine (request : JobStart) : String :=
  job.text ++ " start " ++ request.connection.text ++ " " ++ request.mimeType ++ " scaling=" ++
    Text.quote request.params.printScaling

def start (request : JobStart) (console : Console) : Except String JobId × Console :=
  let console := console.print (startLine request)
  match request.debugDir with
  | none => (.ok job, console)
  | some directory => (.ok job, console.print (job.text ++ " debug dir " ++ directory))

/-- Receives a page. The page with the number `failAt`, counted from one, is refused. -/
def page (failAt : Option Nat) (job : JobId) (step : PageStep) (console : Console) :
    Except String Unit × Console :=
  let console := console.print (job.text ++ " send " ++ step.describe)
  if step.isEndMarker then (.ok (), console)
  else
    let console := { console with pages := console.pages + 1 }
    if failAt == some console.pages then
      (.error ("page " ++ toString step.pageNumber ++ " refused by console transport"), console)
    else (.ok (), console)

def sourceLine (source : Application) : String :=
  "source " ++ source.name ++ " " ++ source.version ++ " on " ++ source.system

def transport (failAt : Option Nat) : Transport Console :=
  { init := accept "init"
    announce := fun source console => console.print (sourceLine source)
    start
    page := page failAt
    cancel := fun job => accept (job.text ++ " cancel")
    finish := fun job => accept (job.text ++ " end")
    shutdown := accept "shutdown" }

end Console

namespace Transport

variable {σ : Type}

/-- Ends a session with the outcome of its submission. -/
def close (transport : Transport σ) (outcome : Except (List String) Unit) (state : σ) :
    Except (List String) Unit × σ :=
  match transport.shutdown state with
  | (.error reason, state) => (.error [reason], state)
  | (.ok (), state) => (outcome, state)

/-- Submits one job and ends it when it was sent in full. An error is a chain of wordings, each
with its cause behind it. -/
def session (transport : Transport σ) (source : Application) (submission : Submission)
    (submitted : JobId → σ → σ) (state : σ) : Except (List String) Unit × σ :=
  match transport.init state with
  | (.error reason, state) => (.error [reason], state)
  | (.ok (), state) =>
    match transport.submit submission (transport.announce source state) with
    | (.error error, state) =>
      transport.close (.error ("job submission failed" :: error.chain)) state
    | (.ok done, state) =>
      match transport.finish done.job state with
      | (.error reason, state) => (.error [reason], state)
      | (.ok (), state) => transport.close (.ok ()) (submitted done.job state)

end Transport

end PrintJob
