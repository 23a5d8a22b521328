import PrintJob.Job.Event

/-! # Listeners

One listener at a time is registered for job events. While it handles an event a listener may
itself register and remove listeners and pass on notifications. -/

namespace PrintJob

variable {ι : Type}

/-- The place where the listener is registered, one of the listeners `ι`. -/
abbrev Registry (ι : Type) := Option ι

namespace Registry

/-- Registers a listener and gives back the one it replaces. -/
def install (listener : ι) (registry : Registry ι) : Option ι × Registry ι :=
  (registry, some listener)

/-- Removes the listener and gives it back. -/
def clear (registry : Registry ι) : Option ι × Registry ι := (registry, none)

end Registry

/-- A call that a listener makes while it handles an event. -/
inductive Reaction (ι : Type) where
  | install (listener : ι)
  | clear
  | dispatch (job : JobId) (notification : Notification)
  deriving DecidableEq, Repr

/-- Something that happened to listeners. -/
inductive ListenerEntry (ι : Type) where
  | delivered (listener : ι) (job : JobId) (event : JobEvent)
  /-- A listener registered another one. -/
  | installed (listener : ι) (replaced : Option ι)
  /-- A listener cleared the registry. -/
  | cleared (removed : Option ι)
  /-- A listener passed on a notification, which found a listener or not. -/
  | redispatched (delivered : Bool)
  deriving DecidableEq, Repr

/-- An event in the hands of a listener. -/
structure Delivery (ι : Type) where
  listener : ι
  job : JobId
  event : JobEvent
  /-- The number of entries made before. -/
  start : Nat
  deriving DecidableEq, Repr

namespace Delivery

/-- The delivery of the event for a notification. -/
def ofNotification (listener : ι) (job : JobId) (notification : Notification) (start : Nat) :
    Delivery ι :=
  { listener, job, event := .ofNotification job notification, start }

def entry (delivery : Delivery ι) : ListenerEntry ι :=
  .delivered delivery.listener delivery.job delivery.event

end Delivery

/-- How listeners behave: the call that comes next in the handling of an event, if any. It may
depend on everything that has happened, and so on the answers to earlier calls and on whatever the
listeners keep in mind. -/
abbrev Conduct (ι : Type) := Delivery ι → List (ListenerEntry ι) → Option (Reaction ι)

/-- The registry and the entries made so far, in order. -/
structure Stage (ι : Type) where
  registry : Registry ι
  log : List (ListenerEntry ι)
  deriving DecidableEq, Repr

namespace Stage

def add (entry : ListenerEntry ι) (stage : Stage ι) : Stage ι :=
  { stage with log := stage.log ++ [entry] }

/-- A listener registers another one. -/
def install (listener : ι) (stage : Stage ι) : Stage ι :=
  let (replaced, registry) := Registry.install listener stage.registry
  add (.installed listener replaced) { stage with registry }

/-- A listener clears the registry. -/
def clear (stage : Stage ι) : Stage ι :=
  let (removed, registry) := Registry.clear stage.registry
  add (.cleared removed) { stage with registry }

/-- Gives the event for a notification to a listener, to handle it in the given way. -/
def deliver (handle : Delivery ι → Stage ι → Option (Stage ι)) (listener : ι) (job : JobId)
    (notification : Notification) (stage : Stage ι) : Option (Stage ι) :=
  let delivery := Delivery.ofNotification listener job notification stage.log.length
  handle delivery (stage.add delivery.entry)

/-- Passes a notification on to the listener registered now, and says whether there was one. -/
def pass (handle : Delivery ι → Stage ι → Option (Stage ι)) (job : JobId)
    (notification : Notification) (stage : Stage ι) : Option (Bool × Stage ι) :=
  match stage.registry with
  | none => some (false, stage)
  | some listener => do
    let stage ← deliver handle listener job notification stage
    some (true, stage)

/-- Lets a listener make its calls. There is no result if they, or those that other listeners make
because of them, go on beyond the limit. -/
def handle (conduct : Conduct ι) : Nat → Delivery ι → Stage ι → Option (Stage ι)
  | 0, _, _ => none
  | limit + 1, delivery, stage =>
    match conduct delivery stage.log with
    | none => some stage
    | some (.install listener) => handle conduct limit delivery (stage.install listener)
    | some .clear => handle conduct limit delivery stage.clear
    | some (.dispatch job notification) => do
      let (delivered, stage) ← pass (handle conduct limit) job notification stage
      handle conduct limit delivery (stage.add (.redispatched delivered))

/-- Passes a notification on, to be handled within the limit. -/
def dispatch (conduct : Conduct ι) (limit : Nat) (job : JobId) (notification : Notification)
    (stage : Stage ι) : Option (Bool × Stage ι) :=
  pass (handle conduct limit) job notification stage

end Stage

end PrintJob
