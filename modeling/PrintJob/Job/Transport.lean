import PrintJob.Job.Connection
import PrintJob.Job.Plan

/-! # Transports

A transport carries a job to a printer. It has a state of its own, answers every call as it likes,
and may refuse any of them with a reason. -/

namespace PrintJob

/-- What a transport is told when a job starts. -/
structure JobStart where
  connection : Connection
  mimeType : String
  params : Parameters
  capabilities : Capabilities
  debugDir : Option String
  deriving DecidableEq

/-- A transport with states of type `σ`. -/
structure Transport (σ : Type) where
  /-- Gets ready for jobs. -/
  init : σ → Except String Unit × σ := fun s => (.ok (), s)
  /-- Learns the name of the application. -/
  announce : Application → σ → σ := fun _ s => s
  start : JobStart → σ → Except String JobId × σ
  page : JobId → PageStep → σ → Except String Unit × σ
  cancel : JobId → σ → Except String Unit × σ
  finish : JobId → σ → Except String Unit × σ
  /-- Ends all work. -/
  shutdown : σ → Except String Unit × σ := fun s => (.ok (), s)

/-- A call to a transport. -/
inductive Call where
  | init
  | announce (source : Application)
  | start (request : JobStart)
  | page (job : JobId) (step : PageStep)
  | cancel (job : JobId)
  | finish (job : JobId)
  | shutdown
  deriving DecidableEq

namespace Transport

variable {σ : Type}

/-- Notes a call before its answer. -/
def note {α : Type} (call : Call) (answer : σ → α × σ) (state : σ × List Call) :
    α × (σ × List Call) :=
  let (result, next) := answer state.1
  (result, next, state.2 ++ [call])

/-- The same transport with a list of the calls it received. -/
def logged (transport : Transport σ) : Transport (σ × List Call) :=
  { init := note .init transport.init
    announce := fun source state =>
      (transport.announce source state.1, state.2 ++ [.announce source])
    start := fun request => note (.start request) (transport.start request)
    page := fun job step => note (.page job step) (transport.page job step)
    cancel := fun job => note (.cancel job) (transport.cancel job)
    finish := fun job => note (.finish job) (transport.finish job)
    shutdown := note .shutdown transport.shutdown }

end Transport

/-- A transport that follows a script, for rehearsing a submission. Its state is the number of pages
received so far. -/
structure Script where
  job : JobId := ⟨0⟩
  /-- The pages to refuse, counted from one. -/
  failOn : List Nat := []
  refuseStart : Option String := none
  failMarker : Option String := none
  failCancel : Option String := none
  failEnd : Option String := none
  deriving DecidableEq, Repr

namespace Script

/-- Refuses with a reason if there is one. -/
def answer (reason : Option String) : Except String Unit :=
  match reason with
  | none => .ok ()
  | some reason => .error reason

/-- The transport of a script. -/
def transport (script : Script) : Transport Nat :=
  { start := fun _ count =>
      match script.refuseStart with
      | none => (.ok script.job, count)
      | some reason => (.error reason, count)
    page := fun _ step count =>
      if step.isEndMarker then (answer script.failMarker, count)
      else if script.failOn.contains (count + 1) then
        (.error ("refused " ++ toString step.pageNumber ++ " at " ++ toString (count + 1)),
          count + 1)
      else (.ok (), count + 1)
    cancel := fun _ count => (answer script.failCancel, count)
    finish := fun _ count => (answer script.failEnd, count) }

end Script

end PrintJob
