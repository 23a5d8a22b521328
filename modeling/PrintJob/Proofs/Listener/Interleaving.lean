import Mathlib.Logic.Function.Basic
import PrintJob.Proofs.Listener.Delivery

/-! # Interleaving

Threads share the registry and make their calls in any order, each in one step. Every listener that
was ever installed was given back once or is registered still. -/

namespace PrintJob

variable {ι : Type}

/-! ## Listeners given back -/

namespace ListenerEntry

/-- The listener that a call gave back. -/
def returned? : ListenerEntry ι → Option ι
  | installed _ replaced => replaced
  | cleared removed => removed
  | _ => none

/-- The listener that a call installed. -/
def installed? : ListenerEntry ι → Option ι
  | installed listener _ => some listener
  | _ => none

end ListenerEntry

/-- The listeners given back, and then the one registered, are the one registered at first and then
those installed. -/
theorem Registry.Explains.conserved {registry : Registry ι} {entries : List (ListenerEntry ι)}
    (h : registry.Explains entries) :
    entries.filterMap ListenerEntry.returned? ++ (registry.after entries).toList =
      registry.toList ++ entries.filterMap ListenerEntry.installed? := by
  induction entries generalizing registry with
  | nil => simp
  | cons entry entries ih =>
      cases entry with
      | delivered listener job event => exact ih h.2
      | redispatched delivered => exact ih h.2
      | installed listener replaced =>
          obtain ⟨rfl, h⟩ := h
          cases replaced <;>
            simp [ListenerEntry.returned?, ListenerEntry.installed?, List.filterMap_cons, ih h]
      | cleared removed =>
          obtain ⟨rfl, h⟩ := h
          cases removed <;>
            simp [ListenerEntry.returned?, ListenerEntry.installed?, List.filterMap_cons, ih h]

/-! ## Threads -/

/-- A step of a thread: its own code or the listener that it runs makes a call, or the listener
comes to its end. -/
inductive Move (ι : Type) where
  | call (reaction : Reaction ι)
  | finish

/-- Threads with the registry that they share. -/
structure Threads (ι : Type) where
  registry : Registry ι
  /-- The listeners that each thread runs, the innermost one first. -/
  running : Nat → List ι
  /-- What the threads did, in order. -/
  history : List (Nat × ListenerEntry ι)

namespace Threads

def start : Threads ι := ⟨none, fun _ => [], []⟩

def entries (threads : Threads ι) : List (ListenerEntry ι) := threads.history.map Prod.snd

/-- A thread makes a move. -/
def step (thread : Nat) (move : Move ι) (threads : Threads ι) : Threads ι :=
  match move with
  | .call (.install listener) =>
    let (replaced, registry) := Registry.install listener threads.registry
    { threads with
      registry, history := threads.history ++ [(thread, .installed listener replaced)] }
  | .call .clear =>
    let (removed, registry) := Registry.clear threads.registry
    { threads with registry, history := threads.history ++ [(thread, .cleared removed)] }
  | .call (.dispatch job notification) =>
    match threads.registry with
    | none => { threads with history := threads.history ++ [(thread, .redispatched false)] }
    | some listener =>
      { threads with
        running := Function.update threads.running thread (listener :: threads.running thread)
        history := threads.history ++
          [(thread, .delivered listener job (.ofNotification job notification))] }
  | .finish =>
    match threads.running thread with
    | [] => threads
    | _ :: rest =>
      { threads with
        running := Function.update threads.running thread rest
        history := threads.history ++ [(thread, .redispatched true)] }

/-- Threads make moves one after another. -/
def run : List (Nat × Move ι) → Threads ι → Threads ι
  | [], threads => threads
  | (thread, move) :: moves, threads => run moves (threads.step thread move)

theorem run_append (xs ys : List (Nat × Move ι)) (threads : Threads ι) :
    run (xs ++ ys) threads = run ys (run xs threads) := by
  induction xs generalizing threads with
  | nil => rfl
  | cons x xs ih => exact ih _

/-! ### Any interleaving -/

/-- Moves lead from threads to others, by entries that the registry explains. -/
structure Leads (threads after : Threads ι) (new : List (Nat × ListenerEntry ι)) : Prop where
  history : after.history = threads.history ++ new
  explains : threads.registry.Explains (new.map Prod.snd)
  registry : after.registry = threads.registry.after (new.map Prod.snd)

theorem Leads.trans {threads middle after : Threads ι} {xs ys : List (Nat × ListenerEntry ι)}
    (h : Leads threads middle xs) (h' : Leads middle after ys) :
    Leads threads after (xs ++ ys) := by
  refine ⟨by rw [h'.history, h.history, List.append_assoc], ?_, ?_⟩
  · rw [List.map_append, Registry.explains_append, ← h.registry]
    exact ⟨h.explains, h'.explains⟩
  · rw [List.map_append, Registry.after_append, ← h.registry]
    exact h'.registry

theorem exists_leads_step (thread : Nat) (move : Move ι) (threads : Threads ι) :
    ∃ new, Leads threads (threads.step thread move) new := by
  rcases move with (listener | _ | ⟨job, notification⟩) | _
  · exact ⟨[(thread, .installed listener threads.registry)], rfl, ⟨rfl, trivial⟩, rfl⟩
  · exact ⟨[(thread, .cleared threads.registry)], rfl, ⟨rfl, trivial⟩, rfl⟩
  · rw [step]
    split
    · rename_i read
      exact ⟨[(thread, .redispatched false)], rfl, ⟨fun _ => read, trivial⟩, rfl⟩
    · rename_i listener read
      exact ⟨[(thread, .delivered listener job _)], rfl, ⟨read, trivial⟩, rfl⟩
  · rw [step]
    split
    · exact ⟨[], by simp, trivial, rfl⟩
    · exact ⟨[(thread, .redispatched true)], rfl, ⟨by simp, trivial⟩, rfl⟩

theorem exists_leads_run (moves : List (Nat × Move ι)) (threads : Threads ι) :
    ∃ new, Leads threads (run moves threads) new := by
  induction moves generalizing threads with
  | nil => exact ⟨[], by simp [run], trivial, rfl⟩
  | cons move moves ih =>
      obtain ⟨xs, hx⟩ := exists_leads_step move.1 move.2 threads
      obtain ⟨ys, hy⟩ := ih (threads.step move.1 move.2)
      exact ⟨xs ++ ys, hx.trans hy⟩

/-! ### One thread -/

/-- A thread has made entries and runs the listeners that it ran before. -/
def extend (thread : Nat) (entries : List (ListenerEntry ι)) (threads : Threads ι) : Threads ι :=
  { threads with
    registry := threads.registry.after entries
    history := threads.history ++ entries.map (thread, ·) }

end Threads

namespace Reactions

/-- The moves of a thread that runs the listener and makes these calls. -/
def moves : Reactions ι → List (Move ι)
  | done => []
  | install listener _ rest => .call (.install listener) :: rest.moves
  | clear _ rest => .call .clear :: rest.moves
  | unheard job notification rest => .call (.dispatch job notification) :: rest.moves
  | heard job notification _ inner rest =>
    .call (.dispatch job notification) :: (inner.moves ++ .finish :: rest.moves)

end Reactions

namespace Threads

theorem run_moves (thread : Nat) (reactions : Reactions ι) (threads : Threads ι)
    (h : threads.registry.Explains reactions.entries) :
    run (reactions.moves.map (thread, ·)) threads = threads.extend thread reactions.entries := by
  induction reactions generalizing threads with
  | done => simp [Reactions.moves, Reactions.entries, run, extend]
  | install listener replaced rest ih =>
      obtain ⟨rfl, h⟩ := h
      rw [Reactions.moves, List.map_cons, run, ih _ h]
      simp [Reactions.entries, extend, step, Registry.install]
  | clear removed rest ih =>
      obtain ⟨rfl, h⟩ := h
      rw [Reactions.moves, List.map_cons, run, ih _ h]
      simp [Reactions.entries, extend, step, Registry.clear]
  | unheard job notification rest ih =>
      obtain ⟨read, h⟩ := h
      have hs : threads.step thread (.call (.dispatch job notification)) =
          threads.extend thread [.redispatched false] := by
        simp [step, extend, read rfl]
      rw [Reactions.moves, List.map_cons, run, hs,
        ih (threads.extend thread [.redispatched false]) h]
      simp [Reactions.entries, extend]
  | heard job notification listener inner rest ihi ihr =>
      obtain ⟨read, hi, hr⟩ := (Reactions.explains_heard _ _ _ _ _ _).mp h
      let opened : Threads ι := { threads with
        running := Function.update threads.running thread (listener :: threads.running thread)
        history := threads.history ++
          [(thread, .delivered listener job (.ofNotification job notification))] }
      have hs : threads.step thread (.call (.dispatch job notification)) = opened := by
        simp [step, opened, read]
      -- The listener's end gives the thread back the listeners that it ran before.
      have hf : (opened.extend thread inner.entries).step thread .finish =
          threads.extend thread (.delivered listener job (.ofNotification job notification) ::
            (inner.entries ++ [.redispatched true])) := by
        simp [step, opened, extend, Registry.after_append]
      rw [Reactions.moves, List.map_cons, List.map_append, List.map_cons, run, hs, run_append,
        ihi opened hi, run, hf, ihr _ (by simpa [extend, Registry.after_append] using hr)]
      simp [Reactions.entries, extend, Registry.after_append]

end Threads

/-- Whatever calls threads and their listeners make, and in whatever order, the listeners given back
by these calls and then the one still registered are those installed, in that order. Reading the
registry for a dispatch does not change it, and a dispatch is such a sequence of calls by one
thread. -/
theorem listeners_conserved (moves : List (Nat × Move ι)) :
    let threads := Threads.run moves .start
    threads.entries.filterMap ListenerEntry.returned? ++ threads.registry.toList =
        threads.entries.filterMap ListenerEntry.installed? ∧
      (∀ thread job notification,
        (threads.step thread (.call (.dispatch job notification))).registry = threads.registry) ∧
      ∀ (conduct : Conduct ι) limit thread job notification log delivered after,
        Stage.dispatch conduct limit job notification ⟨threads.registry, log⟩ =
          some (delivered, after) →
        ∃ (own : List (Move ι)) (new : List (ListenerEntry ι)), after.log = log ++ new ∧
          Threads.run (own.map (thread, ·)) threads =
            { registry := after.registry
              running := threads.running
              history := threads.history ++
                (new ++ [ListenerEntry.redispatched delivered]).map (thread, ·) } := by
  intro threads
  refine ⟨?_, ?_, ?_⟩
  · obtain ⟨new, hl⟩ := Threads.exists_leads_run moves (.start : Threads ι)
    have hn : threads.entries = new.map Prod.snd := by
      rw [Threads.entries, hl.history]
      rfl
    have hr : threads.registry = Registry.after none (new.map Prod.snd) := hl.registry
    rw [hn, hr]
    exact hl.explains.conserved
  · intro thread job notification
    rw [Threads.step]
    split
    · rfl
    · rfl
  · intro conduct limit thread job notification log delivered after h
    rcases (Stage.dispatch_eq_some_iff _ _ _ _ _ _).mp h with
      ⟨hr, rfl, rfl⟩ | ⟨listener, hr, rfl, inner, _, _, he, rfl⟩
    · have hr : threads.registry = none := hr
      have hm := Threads.run_moves thread (.unheard job notification .done) threads
        ⟨fun _ => hr, trivial⟩
      refine ⟨_, [], by simp, hm.trans ?_⟩
      simp [Threads.extend, Reactions.entries, hr]
    · have hr : threads.registry = some listener := hr
      have hm := Threads.run_moves thread (.heard job notification listener inner .done) threads
        ((Reactions.explains_heard _ _ _ _ _ _).mpr ⟨hr, he, trivial⟩)
      refine ⟨_, .delivered listener job (.ofNotification job notification) :: inner.entries,
        ?_, hm.trans ?_⟩
      · simp [Stage.extend, Stage.add, Delivery.entry, Delivery.ofNotification]
      · simp [Threads.extend, Reactions.entries, Stage.extend, Stage.add, Registry.after_append, hr]

/-- Two threads. The listener "a" clears the registry while the second thread runs it, and removes
"b" that way, which the first thread has installed meanwhile. -/
theorem listeners_conserved_two_threads :
    let moves : List (Nat × Move String) :=
      [(1, .call (.install "a")), (2, .call (.dispatch ⟨7⟩ {})), (1, .call (.install "b")),
        (2, .call .clear), (2, .finish), (1, .call (.install "c"))]
    let threads := Threads.run moves .start
    threads.entries.filterMap ListenerEntry.returned? = ["a", "b"] ∧
      threads.entries.filterMap ListenerEntry.installed? = ["a", "b", "c"] ∧
      threads.registry = some "c" ∧
      Stage.dispatch (fun _ _ => none) 1 ⟨8⟩ {} ⟨threads.registry, []⟩ =
        some (true, ⟨some "c", [.delivered "c" ⟨8⟩ (.ofNotification ⟨8⟩ {})]⟩) ∧
      ∃ (own : List (Move String)) (new : List (ListenerEntry String)),
        [ListenerEntry.delivered "c" ⟨8⟩ (.ofNotification ⟨8⟩ {})] = [] ++ new ∧
        Threads.run (own.map (2, ·)) threads =
          { registry := some "c"
            running := threads.running
            history := threads.history ++
              (new ++ [ListenerEntry.redispatched true]).map (2, ·) } := by
  intro moves threads
  have hd : Stage.dispatch (fun _ _ => none) 1 ⟨8⟩ {} ⟨threads.registry, []⟩ =
      some (true, ⟨some "c", [.delivered "c" ⟨8⟩ (.ofNotification ⟨8⟩ {})]⟩) := rfl
  exact ⟨rfl, rfl, rfl, hd, (listeners_conserved moves).2.2 _ 1 2 _ _ _ _ _ hd⟩

end PrintJob
