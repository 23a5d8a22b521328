import PrintJob.Job.Submission
import PrintJob.Proofs.Job.Settling

/-! # The course of a submission

A submission takes one of four courses, chosen by the answers to its start and to its pages. The
answers to the end marker, to a cancellation and to the end of the job choose nothing. -/

namespace PrintJob

variable {σ τ : Type}

/-! ## Sending steps -/

/-- The transport accepts steps one after another, which takes it from a state to another. -/
inductive Accepts (transport : Transport σ) (job : JobId) : List PageStep → σ → σ → Prop where
  | nil (state) : Accepts transport job [] state state
  | cons {step steps state next after}
      (head : transport.page job step state = (.ok (), next))
      (tail : Accepts transport job steps next after) :
      Accepts transport job (step :: steps) state after

namespace Transport

theorem sendSteps_eq_ok_iff (transport : Transport σ) (job : JobId) (steps : List PageStep)
    (state after : σ) :
    transport.sendSteps job steps state = (.ok (), after) ↔
      Accepts transport job steps state after := by
  constructor
  · intro h
    induction steps generalizing state with
    | nil =>
        cases h
        exact .nil _
    | cons step steps ih =>
        rw [sendSteps] at h
        split at h
        · rename_i next hp
          exact .cons hp (ih next h)
        · cases h
  · intro h
    induction h with
    | nil => rfl
    | cons head _ ih => rw [sendSteps, head]; exact ih

/-- Sending stops at the first step that is refused, with an error about that step. -/
theorem sendSteps_eq_error_iff (transport : Transport σ) (job : JobId) (steps : List PageStep)
    (state after : σ) (cause : RefusedPage) :
    transport.sendSteps job steps state = (.error cause, after) ↔
      ∃ accepted refused unsent middle reason,
        steps = accepted ++ refused :: unsent ∧ Accepts transport job accepted state middle ∧
        transport.page job refused middle = (.error reason, after) ∧
        cause = .ofStep refused reason := by
  constructor
  · intro h
    induction steps generalizing state with
    | nil => cases h
    | cons step steps ih =>
        rw [sendSteps] at h
        split at h
        · rename_i next hp
          obtain ⟨accepted, refused, unsent, middle, reason, rfl, ha, hr, hc⟩ := ih next h
          exact ⟨step :: accepted, refused, unsent, middle, reason, rfl, .cons hp ha, hr, hc⟩
        · rename_i reason next hp
          cases h
          exact ⟨[], step, steps, state, reason, rfl, .nil _, hp, rfl⟩
  · rintro ⟨accepted, refused, unsent, middle, reason, rfl, ha, hr, rfl⟩
    induction ha with
    | nil => simp only [List.nil_append, sendSteps, hr]
    | cons head _ ih => simpa only [List.cons_append, sendSteps, head] using ih hr

end Transport

/-! ## Courses -/

/-- A start opens a settled submission: it tells the settled parameters, and the type of the first
document. -/
structure Opens (submission : Submission) (settled : SettledJob) (request : JobStart) : Prop where
  settling : SettledJob.ofDescriptors submission.documents submission.params
    submission.capabilities = .ok settled
  params : request.params = settled.params
  mimeType : submission.documents.head?.map Descriptor.mimeType = some request.mimeType
  connection : request.connection = submission.connection
  capabilities : request.capabilities = submission.capabilities
  debugDir : request.debugDir = submission.debugDir

theorem opens_jobStart {submission : Submission} {settled : SettledJob}
    (h : SettledJob.ofDescriptors submission.documents submission.params
      submission.capabilities = .ok settled) :
    Opens submission settled (submission.jobStart settled) :=
  ⟨h, rfl, (SettledJob.settles h).mimeType, rfl, rfl, rfl⟩

theorem Opens.request_eq {submission : Submission} {settled : SettledJob} {request : JobStart}
    (h : Opens submission settled request) : request = submission.jobStart settled := by
  obtain ⟨hs, hp, hm, hc, hk, hd⟩ := h
  rw [(SettledJob.settles hs).mimeType] at hm
  cases request
  simp_all [Submission.jobStart]

/-- The course of a submission: its result, its calls in order, and the state it ends in. -/
inductive Course (transport : Transport σ) (submission : Submission) (state : σ) :
    Except SubmissionError SentJob → List Call → σ → Prop where
  /-- A job without documents or for an unsupported printer is never started. -/
  | unsettled {cause}
      (why : submission.documents = [] ∨ submission.capabilities.isSupported = false)
      (settling : SettledJob.ofDescriptors submission.documents submission.params
        submission.capabilities = .error cause) :
      Course transport submission state (.error (.refused cause)) [] state
  /-- Nothing follows a start that is refused. -/
  | unstarted {settled request reason after}
      (opening : Opens submission settled request)
      (start : transport.start request state = (.error reason, after)) :
      Course transport submission state (.error (.startFailed reason)) [.start request] after
  /-- All steps are accepted, and the marker follows them. -/
  | sent {settled request job started middle after}
      (opening : Opens submission settled request)
      (start : transport.start request state = (.ok job, started))
      (pages : Accepts transport job settled.plan.steps started middle)
      (marker : (transport.page job settled.plan.endMarker middle).2 = after) :
      Course transport submission state (.ok ⟨job, settled⟩)
        (.start request :: settled.plan.steps.map (.page job) ++
          [.page job settled.plan.endMarker]) after
  /-- A step is refused; the marker, a cancellation and the end of the job follow it. -/
  | aborted {settled request job started accepted refused unsent document middle reason stopped
        marked cancelled after}
      (opening : Opens submission settled request)
      (start : transport.start request state = (.ok job, started))
      (plan : settled.plan.steps = accepted ++ refused :: unsent)
      (source : refused.document = some document)
      (pages : Accepts transport job accepted started middle)
      (refusal : transport.page job refused middle = (.error reason, stopped))
      (marker : (transport.page job settled.plan.endMarker stopped).2 = marked)
      (cancel : (transport.cancel job marked).2 = cancelled)
      (finish : (transport.finish job cancelled).2 = after) :
      Course transport submission state
        (.error (.transmission job ⟨document, refused.pageNumber, reason⟩))
        (.start request :: (accepted ++ [refused]).map (.page job) ++
          [.page job settled.plan.endMarker, .cancel job, .finish job]) after

namespace Course

/-- A course is what the submission does. -/
theorem execution {transport : Transport σ} {submission : Submission} {state after : σ}
    {result : Except SubmissionError SentJob} {calls : List Call}
    (h : Course transport submission state result calls after) :
    transport.submit submission state = (result, after) := by
  cases h with
  | unsettled _ settling => simp only [Transport.submit, settling]
  | unstarted opening start =>
      obtain rfl := opening.request_eq
      simp only [Transport.submit, opening.settling, Transport.run, start]
  | sent opening start pages marker =>
      obtain rfl := opening.request_eq
      have hs := (Transport.sendSteps_eq_ok_iff _ _ _ _ _).mpr pages
      simp only [Transport.submit, opening.settling, Transport.run, start, Transport.sendPlan, hs,
        ← marker]
  | aborted opening start plan source pages refusal marker cancel finish =>
      obtain rfl := opening.request_eq
      have hs := (Transport.sendSteps_eq_error_iff _ _ _ _ _ _).mpr
        ⟨_, _, _, _, _, plan, pages, refusal, rfl⟩
      simp only [Transport.submit, opening.settling, Transport.run, start, Transport.sendPlan, hs,
        RefusedPage.ofStep, source, Option.getD_some, ← finish, ← cancel, ← marker]

end Course

/-- Every submission has a course. -/
theorem exists_course (transport : Transport σ) (submission : Submission) (state : σ) :
    ∃ result calls after, Course transport submission state result calls after := by
  cases hs : SettledJob.ofDescriptors submission.documents submission.params
      submission.capabilities with
  | error cause =>
      have why : submission.documents = [] ∨ submission.capabilities.isSupported = false := by
        rcases (SettledJob.ofDescriptors_eq_error_iff _ _ _ _).mp hs with h | h
        · exact .inl h.1
        · exact .inr h.2.1
      exact ⟨_, _, _, .unsettled why hs⟩
  | ok settled =>
      have opening := opens_jobStart hs
      rcases hstart : transport.start (submission.jobStart settled) state with ⟨answer, started⟩
      cases answer with
      | error reason => exact ⟨_, _, _, .unstarted opening hstart⟩
      | ok job =>
          rcases hsend : transport.sendSteps job settled.plan.steps started with ⟨outcome, stopped⟩
          cases outcome with
          | ok u =>
              exact ⟨_, _, _, .sent opening hstart
                ((Transport.sendSteps_eq_ok_iff _ _ _ _ _).mp hsend) rfl⟩
          | error cause =>
              obtain ⟨accepted, refused, unsent, middle, reason, hp, ha, hr, _⟩ :=
                (Transport.sendSteps_eq_error_iff _ _ _ _ _ _).mp hsend
              have hm : refused ∈ settled.plan.steps := by simp [hp]
              obtain ⟨index, number, path, pdf, rfl⟩ := SettledJob.eq_page_of_mem_steps hs hm
              exact ⟨_, _, _, .aborted opening hstart hp rfl ha hr rfl rfl rfl⟩

/-! ## The log of calls -/

namespace Transport

variable {α : Type} {call : Call} {answer : σ → α × σ} {state next : σ} {result : α}

theorem note_eq (h : answer state = (result, next)) (log : List Call) :
    note call answer (state, log) = (result, next, log ++ [call]) := by
  rw [note, h]

theorem note_snd_eq (h : (answer state).2 = next) (log : List Call) :
    (note call answer (state, log)).2 = (next, log ++ [call]) := by
  rw [← h]
  rfl

end Transport

theorem Accepts.logged {transport : Transport σ} {job : JobId} {steps : List PageStep}
    {state after : σ} (h : Accepts transport job steps state after) (log : List Call) :
    Accepts transport.logged job steps (state, log) (after, log ++ steps.map (.page job)) := by
  induction h generalizing log with
  | nil => simpa using Accepts.nil _
  | cons head _ ih =>
      rw [List.map_cons, List.append_cons]
      exact .cons (Transport.note_eq head log) (ih _)

/-- Logging a transport changes neither the course of a submission nor its calls. -/
theorem Course.logged {transport : Transport σ} {submission : Submission} {state after : σ}
    {result : Except SubmissionError SentJob} {calls : List Call}
    (h : Course transport submission state result calls after) (log : List Call) :
    Course transport.logged submission (state, log) result calls (after, log ++ calls) := by
  cases h with
  | unsettled why settling => simpa using Course.unsettled why settling
  | unstarted opening start => exact .unstarted opening (Transport.note_eq start log)
  | sent opening start pages marker =>
      exact .sent opening (Transport.note_eq start log) (pages.logged _)
        ((Transport.note_snd_eq marker _).trans (by simp))
  | aborted opening start plan source pages refusal marker cancel finish =>
      exact .aborted opening (Transport.note_eq start log) plan source (pages.logged _)
        (Transport.note_eq refusal _) (Transport.note_snd_eq marker _)
        (Transport.note_snd_eq cancel _)
        ((Transport.note_snd_eq finish _).trans (by simp))

/-- A submission has one course, and its calls are those that the transport receives. -/
theorem course_iff_logged (transport : Transport σ) (submission : Submission) (state after : σ)
    (result : Except SubmissionError SentJob) (calls : List Call) :
    Course transport submission state result calls after ↔
      transport.logged.submit submission (state, []) = (result, after, calls) := by
  constructor
  · intro h
    exact (h.logged []).execution
  · intro h
    obtain ⟨result', calls', after', hc⟩ := exists_course transport submission state
    have he := (hc.logged []).execution
    rw [h] at he
    cases he
    exact hc

/-! ## Agreement -/

/-- Related states answer starts and pages alike, and lead to related states. Nothing is asked of
the answers to end markers, cancellations and ends. -/
structure Agree (R : σ → τ → Prop) (transport : Transport σ) (other : Transport τ) : Prop where
  start : ∀ request {s t}, R s t →
    (transport.start request s).1 = (other.start request t).1 ∧
      R (transport.start request s).2 (other.start request t).2
  page : ∀ job {step s t}, step.isEndMarker = false → R s t →
    (transport.page job step s).1 = (other.page job step t).1 ∧
      R (transport.page job step s).2 (other.page job step t).2

namespace Agree

variable {R : σ → τ → Prop} {transport : Transport σ} {other : Transport τ}

theorem sendSteps (h : Agree R transport other) (job : JobId) (steps : List PageStep)
    (hm : ∀ step ∈ steps, step.isEndMarker = false) {s : σ} {t : τ} (hr : R s t) :
    (transport.sendSteps job steps s).1 = (other.sendSteps job steps t).1 := by
  induction steps generalizing s t with
  | nil => rfl
  | cons step steps ih =>
      obtain ⟨ha, hn⟩ := h.page job (hm step (by simp)) hr
      rcases hs : transport.page job step s with ⟨answer, next⟩
      rcases ho : other.page job step t with ⟨answer', next'⟩
      rw [hs, ho] at ha hn
      obtain rfl : answer = answer' := ha
      rw [Transport.sendSteps, Transport.sendSteps, hs, ho]
      cases answer with
      | ok _ => exact ih (fun step hstep => hm step (by simp [hstep])) hn
      | error _ => rfl

theorem submit (h : Agree R transport other) (submission : Submission) {s : σ} {t : τ}
    (hr : R s t) : (transport.submit submission s).1 = (other.submit submission t).1 := by
  cases hset : SettledJob.ofDescriptors submission.documents submission.params
      submission.capabilities with
  | error cause => simp only [Transport.submit, hset]
  | ok settled =>
      obtain ⟨ha, hn⟩ := h.start (submission.jobStart settled) hr
      rcases hs : transport.start (submission.jobStart settled) s with ⟨answer, next⟩
      rcases ho : other.start (submission.jobStart settled) t with ⟨answer', next'⟩
      rw [hs, ho] at ha hn
      obtain rfl : answer = answer' := ha
      cases answer with
      | error reason => simp only [Transport.submit, hset, Transport.run, hs, ho]
      | ok job =>
          have hsend := h.sendSteps job settled.plan.steps
            (SettledJob.isEndMarker_of_mem_steps hset) hn
          rcases hs' : transport.sendSteps job settled.plan.steps next with ⟨outcome, last⟩
          rcases ho' : other.sendSteps job settled.plan.steps next' with ⟨outcome', last'⟩
          rw [hs', ho'] at hsend
          obtain rfl : outcome = outcome' := hsend
          cases outcome <;>
            simp only [Transport.submit, hset, Transport.run, Transport.sendPlan, hs, ho, hs', ho']

end Agree

/-- A submission takes exactly one course, which names its result and all its calls. Transports
that agree on the start and on the pages give the same result. -/
theorem submit_takes_one_course (transport : Transport σ) (submission : Submission) (state : σ) :
    (∀ result calls after,
      Course transport submission state result calls after ↔
        transport.submit submission state = (result, after) ∧
        transport.logged.submit submission (state, []) = (result, after, calls)) ∧
    ∀ {τ : Type} (other : Transport τ) (R : σ → τ → Prop) (twin : τ),
      Agree R transport other → R state twin →
        (transport.submit submission state).1 = (other.submit submission twin).1 := by
  constructor
  · intro result calls after
    rw [course_iff_logged]
    constructor
    · intro h
      exact ⟨((course_iff_logged _ _ _ _ _ _).mpr h).execution, h⟩
    · intro h
      exact h.2
  · intro τ other R twin h hr
    exact h.submit submission hr

/-- Scripts that refuse the second page of three, one of them with errors for all that follows. -/
theorem submit_takes_one_course_scripts :
    let quiet : Script := { job := ⟨7⟩, failOn := [2] }
    let noisy : Script := { quiet with
      failMarker := some "jam", failCancel := some "busy", failEnd := some "gone" }
    let pdf : Descriptor := ⟨"a.pdf", pdfType, 3⟩
    let submission : Submission :=
      { connection := ⟨"10.0.0.5", 631, "/ipp/print", "ipp", 1000⟩
        documents := [pdf], params := {}, capabilities := {}, debugDir := none }
    let settled := SettledJob.settle pdf [pdf] {} {}
    Agree Eq quiet.transport noisy.transport ∧
      (quiet.transport.submit submission 0).1 = (noisy.transport.submit submission 0).1 ∧
      Course noisy.transport submission 0 (.error (.transmission ⟨7⟩ ⟨0, 2, "refused 2 at 2"⟩))
        [.start (submission.jobStart settled), .page ⟨7⟩ (.page 0 1 "a.pdf" true),
          .page ⟨7⟩ (.page 0 2 "a.pdf" true), .page ⟨7⟩ (.endMarker 2), .cancel ⟨7⟩,
          .finish ⟨7⟩] 2 := by
  intro quiet noisy pdf submission settled
  have ha : Agree Eq quiet.transport noisy.transport := by
    constructor
    · rintro request s t rfl
      exact ⟨rfl, rfl⟩
    · rintro job step s t hm rfl
      simp [quiet, noisy, Script.transport, hm]
  refine ⟨ha, (submit_takes_one_course quiet.transport submission 0).2 noisy.transport Eq 0 ha rfl,
    ?_⟩
  exact ((submit_takes_one_course noisy.transport submission 0).1 _ _ _).mpr
    ⟨by decide, by decide⟩

end PrintJob
