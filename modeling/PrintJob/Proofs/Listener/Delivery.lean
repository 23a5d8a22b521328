import PrintJob.Job.Listener

/-! # Deliveries

A dispatch calls the listener that it finds in the registry, and calls it once, whatever that
listener does to the registry meanwhile. Dispatches made by listeners go by the same rule. -/

namespace PrintJob

variable {ι : Type}

/-! ## Entries -/

namespace ListenerEntry

/-- What a call put into the registry. -/
def put? : ListenerEntry ι → Option (Registry ι)
  | installed listener _ => some (some listener)
  | cleared _ => some none
  | _ => none

/-- The listener that was called, and with what. -/
def receipt? : ListenerEntry ι → Option (ι × JobId × JobEvent)
  | delivered listener job event => some (listener, job, event)
  | _ => none

end ListenerEntry

namespace Registry

/-- The registry after some entries: what the last call that changed it put there. -/
def after (registry : Registry ι) (entries : List (ListenerEntry ι)) : Registry ι :=
  (entries.filterMap ListenerEntry.put?).getLast?.getD registry

@[simp] theorem after_nil (registry : Registry ι) : registry.after [] = registry := rfl

theorem after_append (registry : Registry ι) (xs ys : List (ListenerEntry ι)) :
    registry.after (xs ++ ys) = (registry.after xs).after ys := by
  unfold after
  rw [List.filterMap_append, List.getLast?_append]
  cases (ys.filterMap ListenerEntry.put?).getLast? <;> rfl

variable (registry : Registry ι) (entries : List (ListenerEntry ι))

@[simp] theorem after_delivered (listener : ι) (job : JobId) (event : JobEvent) :
    registry.after (.delivered listener job event :: entries) = registry.after entries := rfl

@[simp] theorem after_redispatched (delivered : Bool) :
    registry.after (.redispatched delivered :: entries) = registry.after entries := rfl

@[simp] theorem after_installed (listener : ι) (replaced : Option ι) :
    registry.after (.installed listener replaced :: entries) = after (some listener) entries :=
  registry.after_append [_] entries

@[simp] theorem after_cleared (removed : Option ι) :
    registry.after (.cleared removed :: entries) = after none entries :=
  registry.after_append [_] entries

/-- The registry explains entries: every call is answered by what the registry holds by then, and
every event goes to the listener registered by then. -/
def Explains : Registry ι → List (ListenerEntry ι) → Prop
  | _, [] => True
  | registry, .delivered listener _ _ :: rest => registry = some listener ∧ Explains registry rest
  | registry, .installed listener replaced :: rest =>
    replaced = registry ∧ Explains (some listener) rest
  | registry, .cleared removed :: rest => removed = registry ∧ Explains none rest
  | registry, .redispatched delivered :: rest =>
    (delivered = false → registry = none) ∧ Explains registry rest

theorem explains_append (registry : Registry ι) (xs ys : List (ListenerEntry ι)) :
    registry.Explains (xs ++ ys) ↔ registry.Explains xs ∧ (registry.after xs).Explains ys := by
  induction xs generalizing registry with
  | nil => simp [Explains]
  | cons entry xs ih =>
      cases entry <;> simp [Explains, ih, and_assoc]

end Registry

namespace Stage

/-- The stage after some entries. -/
def extend (stage : Stage ι) (entries : List (ListenerEntry ι)) : Stage ι :=
  ⟨stage.registry.after entries, stage.log ++ entries⟩

@[simp] theorem extend_nil (stage : Stage ι) : stage.extend [] = stage := by
  simp [extend]

theorem extend_append (stage : Stage ι) (xs ys : List (ListenerEntry ι)) :
    stage.extend (xs ++ ys) = (stage.extend xs).extend ys := by
  simp only [extend, Registry.after_append, List.append_assoc]

theorem extend_installed (stage : Stage ι) (listener : ι) (entries : List (ListenerEntry ι)) :
    stage.extend (.installed listener stage.registry :: entries) =
      (stage.install listener).extend entries :=
  stage.extend_append [_] entries

theorem extend_cleared (stage : Stage ι) (entries : List (ListenerEntry ι)) :
    stage.extend (.cleared stage.registry :: entries) = stage.clear.extend entries :=
  stage.extend_append [_] entries

theorem extend_redispatched (stage : Stage ι) (delivered : Bool)
    (entries : List (ListenerEntry ι)) :
    stage.extend (.redispatched delivered :: entries) =
      (stage.add (.redispatched delivered)).extend entries :=
  stage.extend_append [_] entries

theorem extend_entry (stage : Stage ι) (delivery : Delivery ι) (entries : List (ListenerEntry ι)) :
    stage.extend (delivery.entry :: entries) = (stage.add delivery.entry).extend entries :=
  stage.extend_append [_] entries

end Stage

/-! ## Trees of calls -/

/-- The calls of a listener, one after another, with their answers. A dispatch that found a
listener holds the calls of that listener. -/
inductive Reactions (ι : Type) where
  | done
  | install (listener : ι) (replaced : Option ι) (rest : Reactions ι)
  | clear (removed : Option ι) (rest : Reactions ι)
  | unheard (job : JobId) (notification : Notification) (rest : Reactions ι)
  | heard (job : JobId) (notification : Notification) (listener : ι) (inner rest : Reactions ι)

namespace Reactions

/-- The entries for the calls. -/
def entries : Reactions ι → List (ListenerEntry ι)
  | done => []
  | install listener replaced rest => .installed listener replaced :: rest.entries
  | clear removed rest => .cleared removed :: rest.entries
  | unheard _ _ rest => .redispatched false :: rest.entries
  | heard job notification listener inner rest =>
    .delivered listener job (.ofNotification job notification) ::
      (inner.entries ++ .redispatched true :: rest.entries)

/-- How long calls go on, where those of two listeners do not add up. -/
def height : Reactions ι → Nat
  | done => 0
  | install _ _ rest => rest.height + 1
  | clear _ rest => rest.height + 1
  | unheard _ _ rest => rest.height + 1
  | heard _ _ _ inner rest => max inner.height rest.height + 1

/-- What listeners are called with: one event for each dispatch that found a listener. -/
def receipts : Reactions ι → List (ι × JobId × JobEvent)
  | done => []
  | install _ _ rest => rest.receipts
  | clear _ rest => rest.receipts
  | unheard _ _ rest => rest.receipts
  | heard job notification listener inner rest =>
    (listener, job, .ofNotification job notification) :: (inner.receipts ++ rest.receipts)

/-- The calls are those that listeners make, the outermost one with a delivery in its hands. -/
inductive MadeBy (conduct : Conduct ι) :
    Delivery ι → List (ListenerEntry ι) → Reactions ι → Prop where
  | done {delivery log} (next : conduct delivery log = none) : MadeBy conduct delivery log .done
  | install {delivery log listener replaced rest}
      (next : conduct delivery log = some (.install listener))
      (tail : MadeBy conduct delivery (log ++ [.installed listener replaced]) rest) :
      MadeBy conduct delivery log (.install listener replaced rest)
  | clear {delivery log removed rest} (next : conduct delivery log = some .clear)
      (tail : MadeBy conduct delivery (log ++ [.cleared removed]) rest) :
      MadeBy conduct delivery log (.clear removed rest)
  | unheard {delivery log job notification rest}
      (next : conduct delivery log = some (.dispatch job notification))
      (tail : MadeBy conduct delivery (log ++ [.redispatched false]) rest) :
      MadeBy conduct delivery log (.unheard job notification rest)
  | heard {delivery log job notification listener inner rest given}
      (next : conduct delivery log = some (.dispatch job notification))
      (gives : given = .ofNotification listener job notification log.length)
      (head : MadeBy conduct given (log ++ [given.entry]) inner)
      (tail : MadeBy conduct delivery
        (log ++ [given.entry] ++ inner.entries ++ [.redispatched true]) rest) :
      MadeBy conduct delivery log (.heard job notification listener inner rest)

theorem explains_heard (registry : Registry ι) (job : JobId) (notification : Notification)
    (listener : ι) (inner rest : Reactions ι) :
    registry.Explains (heard job notification listener inner rest).entries ↔
      registry = some listener ∧ registry.Explains inner.entries ∧
        (registry.after inner.entries).Explains rest.entries := by
  rw [entries, Registry.Explains, Registry.explains_append, Registry.Explains]
  simp

theorem filterMap_receipt?_entries (reactions : Reactions ι) :
    reactions.entries.filterMap ListenerEntry.receipt? = reactions.receipts := by
  induction reactions with
  | done => rfl
  | install _ _ _ ih => exact ih
  | clear _ _ ih => exact ih
  | unheard _ _ _ ih => exact ih
  | heard job notification listener inner rest ihi ihr =>
      have hd : ListenerEntry.receipt?
            (.delivered listener job (.ofNotification job notification)) =
          some (listener, job, .ofNotification job notification) := rfl
      have hr : ListenerEntry.receipt? (.redispatched true : ListenerEntry ι) = none := rfl
      rw [entries, receipts, List.filterMap_cons_some hd, List.filterMap_append, ihi,
        List.filterMap_cons_none hr, ihr]

end Reactions

/-! ## Runs of listeners -/

namespace Stage

variable {conduct : Conduct ι}

/-- With a delivery in its hands a listener makes a finite tree of calls within the limit, which
leads from a stage to another. -/
def Handles (conduct : Conduct ι) (limit : Nat) (delivery : Delivery ι) (stage after : Stage ι) :
    Prop :=
  ∃ reactions : Reactions ι, reactions.height < limit ∧
    reactions.MadeBy conduct delivery stage.log ∧
    stage.registry.Explains reactions.entries ∧ after = stage.extend reactions.entries

def Delivers (conduct : Conduct ι) (limit : Nat) (listener : ι) (job : JobId)
    (notification : Notification) (stage after : Stage ι) : Prop :=
  let delivery := Delivery.ofNotification listener job notification stage.log.length
  Handles conduct limit delivery (stage.add delivery.entry) after

theorem extend_heard (stage : Stage ι) (job : JobId) (notification : Notification) (listener : ι)
    (inner rest : Reactions ι) :
    stage.extend (Reactions.heard job notification listener inner rest).entries =
      (((stage.add (.delivered listener job (.ofNotification job notification))).extend
        inner.entries).add (.redispatched true)).extend rest.entries := by
  rw [Reactions.entries, ← List.cons_append, extend_append, extend_redispatched]
  exact congrArg (fun s => (add (.redispatched true) s).extend rest.entries)
    (stage.extend_entry (.ofNotification listener job notification 0) inner.entries)

theorem pass_eq_some_iff (handle : Delivery ι → Stage ι → Option (Stage ι)) (job : JobId)
    (notification : Notification) (stage after : Stage ι) (delivered : Bool) :
    pass handle job notification stage = some (delivered, after) ↔
      (stage.registry = none ∧ delivered = false ∧ after = stage) ∨
      ∃ listener, stage.registry = some listener ∧ delivered = true ∧
        deliver handle listener job notification stage = some after := by
  unfold pass
  cases hr : stage.registry with
  | none => simp [eq_comm]
  | some listener =>
      simp only [Option.bind_eq_bind, Option.bind_eq_some_iff, Option.some.injEq, Prod.mk.injEq]
      constructor
      · rintro ⟨_, hd, rfl, rfl⟩
        exact .inr ⟨listener, rfl, rfl, hd⟩
      · rintro (⟨hn, _⟩ | ⟨_, rfl, rfl, hd⟩)
        · cases hn
        · exact ⟨after, hd, rfl, rfl⟩

/-- Listeners that make a finite tree of calls within the limit come to their end. -/
theorem handle_of_explains {reactions : Reactions ι} {limit : Nat} {delivery : Delivery ι}
    {stage : Stage ι} (hl : reactions.height < limit)
    (hm : reactions.MadeBy conduct delivery stage.log)
    (he : stage.registry.Explains reactions.entries) :
    handle conduct limit delivery stage = some (stage.extend reactions.entries) := by
  -- A listener that is called on the way has the same limit left as the calls behind it, so the
  -- induction is on the limit and covers both parts of a tree.
  induction limit generalizing reactions delivery stage with
  | zero => exact absurd hl (Nat.not_lt_zero _)
  | succ limit ih =>
      rw [handle]
      cases hm with
      | done next =>
          simp only [next]
          rw [Reactions.entries, extend_nil]
      | install next tail =>
          obtain ⟨rfl, he⟩ := he
          simp only [next]
          rw [Reactions.entries, extend_installed]
          exact ih (Nat.lt_of_succ_lt_succ hl) tail he
      | clear next tail =>
          obtain ⟨rfl, he⟩ := he
          simp only [next]
          rw [Reactions.entries, extend_cleared]
          exact ih (Nat.lt_of_succ_lt_succ hl) tail he
      | @unheard _ _ job notification _ next tail =>
          obtain ⟨read, he⟩ := he
          have hp : pass (handle conduct limit) job notification stage = some (false, stage) :=
            (pass_eq_some_iff _ _ _ _ _ _).mpr (.inl ⟨read rfl, rfl, rfl⟩)
          simp only [next, hp, Option.bind_eq_bind, Option.bind_some]
          rw [Reactions.entries, extend_redispatched]
          exact ih (Nat.lt_of_succ_lt_succ hl) tail he
      | @heard _ _ job notification listener inner _ _ next gives head tail =>
          subst gives
          obtain ⟨hli, hlr⟩ := Nat.max_lt.mp (Nat.lt_of_succ_lt_succ hl)
          obtain ⟨read, hi, hr⟩ := (Reactions.explains_heard _ _ _ _ _ _).mp he
          have hp : pass (handle conduct limit) job notification stage =
              some (true, (stage.add (.delivered listener job
                (.ofNotification job notification))).extend inner.entries) :=
            (pass_eq_some_iff _ _ _ _ _ _).mpr (.inr ⟨listener, read, rfl, ih hli head hi⟩)
          simp only [next, hp, Option.bind_eq_bind, Option.bind_some]
          rw [extend_heard]
          exact ih hlr tail hr

/-- Listeners that come to their end make a finite tree of calls within the limit. -/
theorem handles_of_handle {limit : Nat} {delivery : Delivery ι} {stage after : Stage ι}
    (h : handle conduct limit delivery stage = some after) :
    Handles conduct limit delivery stage after := by
  induction limit generalizing delivery stage after with
  | zero => cases h
  | succ limit ih =>
      rw [handle] at h
      split at h
      · rename_i next
        cases h
        exact ⟨.done, Nat.succ_pos _, .done next, trivial, (extend_nil _).symm⟩
      · rename_i listener next
        obtain ⟨rest, hl, hm, he, rfl⟩ := ih h
        exact ⟨.install listener stage.registry rest, Nat.succ_lt_succ hl, .install next hm,
          ⟨rfl, he⟩, (extend_installed _ _ _).symm⟩
      · rename_i next
        obtain ⟨rest, hl, hm, he, rfl⟩ := ih h
        exact ⟨.clear stage.registry rest, Nat.succ_lt_succ hl, .clear next hm, ⟨rfl, he⟩,
          (extend_cleared _ _).symm⟩
      · rename_i job notification next
        obtain ⟨⟨delivered, middle⟩, hp, h⟩ := Option.bind_eq_some_iff.mp h
        obtain ⟨rest, hl, hm, he, rfl⟩ := ih h
        rcases (pass_eq_some_iff _ _ _ _ _ _).mp hp with
          ⟨read, rfl, rfl⟩ | ⟨listener, read, rfl, hd⟩
        · exact ⟨.unheard job notification rest, Nat.succ_lt_succ hl, .unheard next hm,
            ⟨fun _ => read, he⟩, (extend_redispatched _ _ _).symm⟩
        · obtain ⟨inner, hli, hmi, hei, rfl⟩ := ih hd
          exact ⟨.heard job notification listener inner rest,
            Nat.succ_lt_succ (Nat.max_lt.mpr ⟨hli, hl⟩), .heard next rfl hmi hm,
            (Reactions.explains_heard _ _ _ _ _ _).mpr ⟨read, hei, he⟩,
            (extend_heard _ _ _ _ _ _).symm⟩

theorem handle_eq_some_iff (limit : Nat) (delivery : Delivery ι) (stage after : Stage ι) :
    handle conduct limit delivery stage = some after ↔
      Handles conduct limit delivery stage after := by
  refine ⟨handles_of_handle, ?_⟩
  rintro ⟨reactions, hl, hm, he, rfl⟩
  exact handle_of_explains hl hm he

theorem dispatch_eq_some_iff (limit : Nat) (job : JobId) (notification : Notification)
    (stage after : Stage ι) (delivered : Bool) :
    dispatch conduct limit job notification stage = some (delivered, after) ↔
      (stage.registry = none ∧ delivered = false ∧ after = stage) ∨
      ∃ listener, stage.registry = some listener ∧ delivered = true ∧
        Delivers conduct limit listener job notification stage after := by
  rw [dispatch, pass_eq_some_iff]
  simp only [deliver, handle_eq_some_iff, Delivers]

/-! ## Dispatches -/

/-- A dispatch reaches a listener: the calls that listeners make because of it, and what they come
to. -/
structure Reaches (conduct : Conduct ι) (job : JobId) (notification : Notification) (listener : ι)
    (reactions : Reactions ι) (stage after : Stage ι) : Prop where
  calls : reactions.MadeBy conduct (.ofNotification listener job notification stage.log.length)
    (stage.log ++ [.delivered listener job (.ofNotification job notification)])
  answers : stage.registry.Explains
    (.delivered listener job (.ofNotification job notification) :: reactions.entries)
  log : after.log = stage.log ++
    .delivered listener job (.ofNotification job notification) :: reactions.entries
  receipts : after.log.filterMap ListenerEntry.receipt? =
    stage.log.filterMap ListenerEntry.receipt? ++
      (listener, job, .ofNotification job notification) :: reactions.receipts
  registry : after.registry = stage.registry.after reactions.entries

theorem reaches_iff_delivers {job : JobId} {notification : Notification} {listener : ι}
    {stage : Stage ι} (h : stage.registry = some listener) (limit : Nat) (after : Stage ι) :
    (∃ reactions : Reactions ι, reactions.height < limit ∧
      Reaches conduct job notification listener reactions stage after) ↔
      Delivers conduct limit listener job notification stage after := by
  constructor
  · rintro ⟨reactions, hlimit, hm, he, hl, _, hr⟩
    refine ⟨reactions, hlimit, hm, he.2, ?_⟩
    obtain ⟨registry, log⟩ := after
    obtain rfl : registry = _ := hr
    obtain rfl : log = _ := hl
    simp [extend, add, Delivery.entry, Delivery.ofNotification]
  · rintro ⟨reactions, hlimit, hm, he, rfl⟩
    refine ⟨reactions, hlimit, hm, ⟨h, he⟩, ?_, ?_, rfl⟩
    · simp [extend, add, Delivery.entry, Delivery.ofNotification]
    · simp [extend, add, Delivery.entry, Delivery.ofNotification, ListenerEntry.receipt?,
        Reactions.filterMap_receipt?_entries]

/-- A dispatch says whether a listener was registered when it began, and calls that listener and no
other, once. It returns exactly if the listeners that it sets going make a finite tree of calls, of
a height below the limit, and leaves the registry as the last of these calls left it. -/
theorem dispatch_reaches_once (conduct : Conduct ι) (limit : Nat) (job : JobId)
    (notification : Notification) (stage : Stage ι) :
    (∀ delivered after,
      stage.dispatch conduct limit job notification = some (delivered, after) →
        (delivered = true ↔ stage.registry.isSome = true)) ∧
    (stage.registry = none →
      stage.dispatch conduct limit job notification = some (false, stage)) ∧
    ∀ listener, stage.registry = some listener → ∀ after,
      stage.dispatch conduct limit job notification = some (true, after) ↔
        ∃ reactions : Reactions ι, reactions.height < limit ∧
          Reaches conduct job notification listener reactions stage after := by
  refine ⟨?_, ?_, ?_⟩
  · intro delivered after h
    rcases (dispatch_eq_some_iff _ _ _ _ _ _).mp h with ⟨hr, rfl, _⟩ | ⟨_, hr, rfl, _⟩
    · simp [hr]
    · simp [hr]
  · intro hr
    exact (dispatch_eq_some_iff _ _ _ _ _ _).mpr (.inl ⟨hr, rfl, rfl⟩)
  · intro listener hr after
    rw [reaches_iff_delivers hr, dispatch_eq_some_iff]
    simp [hr]

/-- A listener that replaces itself and passes a notification on to the new one, which clears the
registry, so that nobody hears of the next one. -/
theorem dispatch_reaches_once_replaced :
    let conduct : Conduct String := fun delivery log =>
      match delivery.listener, log.length - delivery.start with
      | "old", 1 => some (.install "new")
      | "old", 2 => some (.dispatch ⟨8⟩ {})
      | "new", 1 => some .clear
      | "old", 5 => some (.dispatch ⟨9⟩ {})
      | _, _ => none
    let event (job : JobId) : JobEvent := .ofNotification job {}
    dispatch conduct 4 ⟨7⟩ {} ⟨some "old", []⟩ = some (true, ⟨none,
      [.delivered "old" ⟨7⟩ (event ⟨7⟩), .installed "new" (some "old"),
        .delivered "new" ⟨8⟩ (event ⟨8⟩), .cleared (some "new"), .redispatched true,
        .redispatched false]⟩) := by
  intro conduct event
  refine ((dispatch_reaches_once conduct 4 ⟨7⟩ {} ⟨some "old", []⟩).2.2 "old" rfl _).mpr
    ⟨.install "new" (some "old") (.heard ⟨8⟩ {} "new" (.clear (some "new") .done)
      (.unheard ⟨9⟩ {} .done)), by decide, ?_, ?_, rfl, rfl, rfl⟩
  · exact .install rfl (.heard rfl rfl (.clear rfl (.done rfl)) (.unheard rfl (.done rfl)))
  · simp [Reactions.entries, Registry.Explains]

end Stage

end PrintJob
