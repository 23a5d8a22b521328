import PrintJob.Command.Run
import PrintJob.Proofs.Job.Course

/-! # The session of a submission

A submitted job is started at most once. It is ended exactly if it was started, by whoever learns
of its fate first, and the transport is shut down last in every case. -/

namespace PrintJob

/-! ## What a console shows -/

namespace Console

/-- The lines that a console shows for a call. -/
def echo : Call → List String
  | .init => ["init"]
  | .announce source => [sourceLine source]
  | .start request =>
    startLine request :: (request.debugDir.map (job.text ++ " debug dir " ++ ·)).toList
  | .page job step => [job.text ++ " send " ++ step.describe]
  | .cancel job => [job.text ++ " cancel"]
  | .finish job => [job.text ++ " end"]
  | .shutdown => ["shutdown"]

theorem start_eq (request : JobStart) (console : Console) :
    start request console =
      (.ok job, { console with lines := console.lines ++ echo (.start request) }) := by
  unfold start echo
  cases hd : request.debugDir <;> simp [print, hd]

theorem lines_page (failAt : Option Nat) (job : JobId) (step : PageStep) (console : Console) :
    ((transport failAt).page job step console).2.lines =
      console.lines ++ echo (.page job step) := by
  unfold transport page
  dsimp only
  split
  · rfl
  · split <;> rfl

/-- Why a console refuses a step. -/
def refusal (step : PageStep) : String :=
  "page " ++ toString step.pageNumber ++ " refused by console transport"

theorem page_ok {failAt : Option Nat} {job : JobId} {step : PageStep} {console next : Console}
    (h : page failAt job step console = (.ok (), next)) (hm : step.isEndMarker = false) :
    next.pages = console.pages + 1 ∧ failAt ≠ some (console.pages + 1) := by
  unfold page at h
  simp only [hm, Bool.false_eq_true, if_false, beq_iff_eq] at h
  split at h
  · cases h
  · rename_i hf
    cases h
    exact ⟨rfl, hf⟩

theorem page_error {failAt : Option Nat} {job : JobId} {step : PageStep} {console next : Console}
    {reason : String} (h : page failAt job step console = (.error reason, next)) :
    failAt = some (console.pages + 1) ∧ reason = refusal step := by
  unfold page at h
  dsimp only at h
  split at h
  · cases h
  · split at h
    · rename_i hf
      cases h
      exact ⟨beq_iff_eq.mp hf, rfl⟩
    · cases h

variable {failAt : Option Nat} {job : JobId} {console after : Console}

theorem lines_next {step : PageStep} {answer : Except String Unit}
    (h : (transport failAt).page job step console = (answer, after)) :
    after.lines = console.lines ++ echo (.page job step) := by
  rw [← lines_page failAt, h]

theorem lines_of_accepts {steps : List PageStep}
    (h : Accepts (transport failAt) job steps console after) :
    after.lines = console.lines ++ (steps.map (Call.page job)).flatMap echo := by
  induction h with
  | nil => simp
  | cons head _ ih =>
      rw [ih, lines_next head, List.map_cons, List.flatMap_cons, List.append_assoc]

/-- A console counts the steps that it accepts, and the one to refuse is not among them. -/
theorem pages_of_accepts {steps : List PageStep}
    (h : Accepts (transport failAt) job steps console after)
    (hm : ∀ step ∈ steps, step.isEndMarker = false) :
    after.pages = console.pages + steps.length ∧
      ∀ n, failAt = some n → n ≤ console.pages ∨ console.pages + steps.length < n := by
  induction h with
  | nil =>
      refine ⟨rfl, ?_⟩
      intro n _
      rw [List.length_nil]
      omega
  | @cons step steps console next after head _ ih =>
      obtain ⟨hp, hf⟩ := page_ok head (hm step (by simp))
      obtain ⟨hq, hn⟩ := ih fun step hs => hm step (by simp [hs])
      rw [List.length_cons]
      refine ⟨by omega, ?_⟩
      intro n h
      have hne : n ≠ console.pages + 1 := by
        rintro rfl
        exact hf h
      have hb := hn n h
      omega

/-- The page to refuse comes behind all the steps that a new console accepts. -/
theorem length_lt_of_accepts {steps : List PageStep}
    (h : Accepts (transport failAt) job steps console after) (hz : console.pages = 0)
    (hm : ∀ step ∈ steps, step.isEndMarker = false) {n : Nat} (hf : failAt = some n)
    (hpos : 1 ≤ n) : steps.length < n := by
  have hn := (pages_of_accepts h hm).2 n hf
  omega

/-- The page that is refused stands behind the steps that a new console accepted. -/
theorem failAt_of_refuses {steps : List PageStep} {refused : PageStep} {reason : String}
    {stopped : Console} (h : Accepts (transport failAt) job steps console after)
    (hz : console.pages = 0) (hm : ∀ step ∈ steps, step.isEndMarker = false)
    (hr : (transport failAt).page job refused after = (.error reason, stopped)) :
    failAt = some (steps.length + 1) ∧ reason = refusal refused := by
  obtain ⟨hf, hreason⟩ := page_error hr
  have hp := (pages_of_accepts h hm).1
  rw [hp, hz, Nat.zero_add] at hf
  exact ⟨hf, hreason⟩

/-- A console shows every call of a submission. -/
theorem lines_of_course {submission : Submission} {result : Except SubmissionError SentJob}
    {calls : List Call} (h : Course (transport failAt) submission console result calls after) :
    after.lines = console.lines ++ calls.flatMap echo := by
  cases h with
  | unsettled _ _ => simp
  | unstarted _ start => cases (start_eq _ _).symm.trans start
  | sent _ start pages marker =>
      cases (start_eq _ _).symm.trans start
      rw [← marker, lines_page, lines_of_accepts pages]
      simp
  | @aborted settled _ _ _ _ _ _ _ _ _ _ marked _ _ _ start _ _ pages refusal marker cancel
      finish =>
      cases (start_eq _ _).symm.trans start
      have he : after.lines = marked.lines ++ (echo (.cancel job) ++ echo (.finish job)) := by
        rw [← finish, ← cancel, ← List.append_assoc]
        rfl
      rw [he, ← marker, lines_page, lines_next refusal, lines_of_accepts pages]
      simp

end Console

/-! ## Sessions -/

namespace Transport

variable {σ : Type} {transport : Transport σ} {source : Application} {submission : Submission}
  {submitted : JobId → σ → σ} {state opened after finished closed : σ}

theorem session_eq_error {error : SubmissionError} (hi : transport.init state = (.ok (), opened))
    (hs : transport.submit submission (transport.announce source opened) = (.error error, after))
    (hd : transport.shutdown after = (.ok (), closed)) :
    transport.session source submission submitted state =
      (.error ("job submission failed" :: error.chain), closed) := by
  simp only [session, hi, hs, close, hd]

theorem session_eq_ok {sent : SentJob} (hi : transport.init state = (.ok (), opened))
    (hs : transport.submit submission (transport.announce source opened) = (.ok sent, after))
    (hf : transport.finish sent.job after = (.ok (), finished))
    (hd : transport.shutdown (submitted sent.job finished) = (.ok (), closed)) :
    transport.session source submission submitted state = (.ok (), closed) := by
  simp only [session, hi, hs, hf, close, hd]

end Transport

namespace Command

namespace JobDescription

/-- The outcome of settling the job for the described printer, as it answers after its check. -/
def settled (description : JobDescription) : Except Refusal SettledJob :=
  SettledJob.ofDescriptors description.documents description.params description.capabilities.checked

def submission (description : JobDescription) (settings : Settings) : Submission :=
  { connection := .ofSettings description.address description.port settings
    documents := description.documents
    params := description.params
    capabilities := description.capabilities.checked
    debugDir := settings.debugDir }

end JobDescription

variable {description : JobDescription} {settings : Settings} {failAt : Option Nat}

/-- The session of the submit command on a console that keeps a log of its calls. -/
def loggedSession (description : JobDescription) (settings : Settings) (failAt : Option Nat) :
    Except (List String) Unit × Console × List Call :=
  (Console.transport failAt).logged.session settings.source (description.submission settings)
    (fun job state => (state.1.print ("submitted " ++ job.text), state.2)) ({}, [])

/-- The calls that the console receives. -/
def submitCalls (description : JobDescription) (settings : Settings) (failAt : Option Nat) :
    List Call :=
  (loggedSession description settings failAt).2.2

def Report.ofOutcome (outcome : Except (List String) Unit) (console : Console) : Report :=
  match outcome with
  | .ok () => ⟨console.lines, .success⟩
  | .error chain => ⟨console.lines, .failure chain⟩

theorem runSubmit_eq (description : JobDescription) (settings : Settings) (failAt : Option Nat) :
    runSubmit description settings failAt =
      let (outcome, console) := (Console.transport failAt).session settings.source
        (description.submission settings)
        (fun job console => console.print ("submitted " ++ job.text)) {}
      .ofOutcome outcome console := rfl

/-- The console when a job is submitted to it. -/
def greeted (settings : Settings) : Console :=
  { lines := [Call.init, .announce settings.source].flatMap Console.echo }

theorem session_of_error {error : SubmissionError} {calls : List Call} {after : Console}
    (h : Course (Console.transport failAt) (description.submission settings) (greeted settings)
      (.error error) calls after) :
    let chain := "job submission failed" :: error.chain
    let closed := after.print "shutdown"
    loggedSession description settings failAt =
        (.error chain, closed, .init :: .announce settings.source :: calls ++ [.shutdown]) ∧
      runSubmit description settings failAt = .ofOutcome (.error chain) closed := by
  intro chain closed
  have hl := (h.logged [.init, .announce settings.source]).execution
  constructor
  · rw [loggedSession, Transport.session_eq_error rfl hl rfl]
    rfl
  · rw [runSubmit_eq, Transport.session_eq_error rfl h.execution rfl]

theorem session_of_ok {sent : SentJob} {calls : List Call} {after : Console}
    (h : Course (Console.transport failAt) (description.submission settings) (greeted settings)
      (.ok sent) calls after) :
    let finished := after.print (sent.job.text ++ " end")
    let closed := (finished.print ("submitted " ++ sent.job.text)).print "shutdown"
    loggedSession description settings failAt =
        (.ok (), closed,
          .init :: .announce settings.source :: calls ++ [.finish sent.job, .shutdown]) ∧
      runSubmit description settings failAt = .ofOutcome (.ok ()) closed := by
  intro finished closed
  have hl := (h.logged [.init, .announce settings.source]).execution
  constructor
  · rw [loggedSession, Transport.session_eq_ok rfl hl rfl rfl]
    exact Prod.ext rfl (Prod.ext rfl (by simp))
  · rw [runSubmit_eq, Transport.session_eq_ok rfl h.execution rfl rfl]

/-- The log of a session does not change what the command reports. -/
theorem runSubmit_eq_ofOutcome (description : JobDescription) (settings : Settings)
    (failAt : Option Nat) :
    runSubmit description settings failAt =
      .ofOutcome (loggedSession description settings failAt).1
        (loggedSession description settings failAt).2.1 := by
  obtain ⟨result, calls, after, hc⟩ := exists_course (Console.transport failAt)
    (description.submission settings) (greeted settings)
  cases result with
  | error error => rw [(session_of_error hc).1, (session_of_error hc).2]
  | ok sent => rw [(session_of_ok hc).1, (session_of_ok hc).2]

/-! ## The life of a job -/

/-- The calls that start a job and send steps of its plan. -/
def openingCalls (settings : Settings) (request : JobStart) (steps : List PageStep)
    (marker : PageStep) : List Call :=
  .init :: .announce settings.source :: .start request :: steps.map (.page Console.job) ++
    [.page Console.job marker]

/-- What becomes of a job that is submitted to the console: the calls, and what the command
reports. -/
inductive Life (description : JobDescription) (settings : Settings) (failAt : Option Nat) :
    List Call → Report → Prop where
  | unsettled {cause calls} (settling : description.settled = .error cause)
      (seen : calls = [.init, .announce settings.source, .shutdown]) :
      Life description settings failAt calls
        ⟨calls.flatMap Console.echo, .failure ["job submission failed", cause.message]⟩
  | sent {settled calls} (settling : description.settled = .ok settled)
      (accepted : ∀ n, failAt = some n → 1 ≤ n → settled.plan.steps.length < n)
      (seen : calls = openingCalls settings ((description.submission settings).jobStart settled)
        settled.plan.steps settled.plan.endMarker ++ [.finish Console.job]) :
      Life description settings failAt (calls ++ [.shutdown])
        ⟨calls.flatMap Console.echo ++ ["submitted " ++ Console.job.text, "shutdown"], .success⟩
  | aborted {settled n refused calls} (settling : description.settled = .ok settled)
      (refusal : failAt = some n) (pos : 1 ≤ n) (page : settled.plan.steps[n - 1]? = some refused)
      (seen : calls = openingCalls settings ((description.submission settings).jobStart settled)
        (settled.plan.steps.take n) settled.plan.endMarker ++
        [.cancel Console.job, .finish Console.job, .shutdown]) :
      Life description settings failAt calls
        ⟨calls.flatMap Console.echo, .failure ("job submission failed" ::
          (SubmissionError.transmission Console.job
            (.ofStep refused (Console.refusal refused))).chain)⟩

theorem life_of_error {error : SubmissionError} {calls : List Call} {after : Console}
    (h : Course (Console.transport failAt) (description.submission settings) (greeted settings)
      (.error error) calls after) :
    Life description settings failAt (submitCalls description settings failAt)
      (runSubmit description settings failAt) := by
  obtain ⟨hs, hr⟩ := session_of_error h
  have hr : runSubmit description settings failAt =
      ⟨(Call.init :: .announce settings.source :: calls ++ [Call.shutdown]).flatMap Console.echo,
        .failure ("job submission failed" :: error.chain)⟩ := by
    rw [hr, Report.ofOutcome, Console.print, Console.lines_of_course h]
    simp [greeted, Console.echo]
  rw [submitCalls, hs, hr]
  cases h with
  | unsettled _ settling => exact .unsettled settling rfl
  | unstarted _ start => cases (Console.start_eq _ _).symm.trans start
  | @aborted settled _ _ _ accepted refused _ document _ _ _ _ _ _ opening start plan source pages
      refusal _ _ _ =>
      obtain rfl := opening.request_eq
      cases (Console.start_eq _ _).symm.trans start
      -- No marker is among the steps, so the console's count of pages is a place in the plan.
      have hm := SettledJob.isEndMarker_of_mem_steps opening.settling
      obtain ⟨hf, rfl⟩ := Console.failAt_of_refuses pages rfl
        (fun step h => hm step (by simp [plan, h])) refusal
      have ht : settled.plan.steps.take (accepted.length + 1) = accepted ++ [refused] := by
        rw [plan, List.append_cons, List.take_left' (by simp)]
      have hcause : RefusedPage.ofStep refused (Console.refusal refused) =
          ⟨document, refused.pageNumber, Console.refusal refused⟩ := by
        rw [RefusedPage.ofStep, source, Option.getD_some]
      rw [← hcause]
      exact .aborted opening.settling hf (by omega) (by simp [plan]) (by simp [openingCalls, ht])

theorem life_of_ok {sent : SentJob} {calls : List Call} {after : Console}
    (h : Course (Console.transport failAt) (description.submission settings) (greeted settings)
      (.ok sent) calls after) :
    Life description settings failAt (submitCalls description settings failAt)
      (runSubmit description settings failAt) := by
  obtain ⟨hs, hr⟩ := session_of_ok h
  have hr : runSubmit description settings failAt =
      ⟨(Call.init :: .announce settings.source :: calls ++ [Call.finish sent.job]).flatMap
        Console.echo ++ ["submitted " ++ sent.job.text, "shutdown"], .success⟩ := by
    rw [hr, Report.ofOutcome, Console.print, Console.print, Console.print,
      Console.lines_of_course h]
    simp [greeted, Console.echo]
  rw [submitCalls, hs, hr]
  cases h with
  | sent opening start pages _ =>
      obtain rfl := opening.request_eq
      cases (Console.start_eq _ _).symm.trans start
      have hm := SettledJob.isEndMarker_of_mem_steps opening.settling
      have hlife : Life description settings failAt _ _ :=
        .sent opening.settling (fun _ => Console.length_lt_of_accepts pages rfl hm) rfl
      simpa [openingCalls] using hlife

theorem life (description : JobDescription) (settings : Settings) (failAt : Option Nat) :
    Life description settings failAt (submitCalls description settings failAt)
      (runSubmit description settings failAt) := by
  obtain ⟨result, _, _, hc⟩ := exists_course (Console.transport failAt)
    (description.submission settings) (greeted settings)
  cases result with
  | error _ => exact life_of_error hc
  | ok _ => exact life_of_ok hc

/-! ## The end of a session -/

theorem settled_eq_error_iff (description : JobDescription) :
    (∃ cause, description.settled = .error cause) ↔
      description.documents = [] ∨ description.capabilities.isSupported = false ∨
        description.capabilities.ippVersionMajor = 0 := by
  rw [← description.capabilities.isSupported_checked_eq_false_iff]
  constructor
  · rintro ⟨cause, h⟩
    rcases (SettledJob.ofDescriptors_eq_error_iff _ _ _ _).mp h with ⟨hd, _⟩ | ⟨_, hs, _⟩
    · exact .inl hd
    · exact .inr hs
  · intro h
    by_cases hd : description.documents = []
    · exact ⟨_, (SettledJob.ofDescriptors_eq_error_iff _ _ _ _).mpr (.inl ⟨hd, rfl⟩)⟩
    · have hs := h.resolve_left hd
      exact ⟨_, (SettledJob.ofDescriptors_eq_error_iff _ _ _ _).mpr (.inr ⟨hd, hs, rfl⟩)⟩

theorem exists_settled_iff (description : JobDescription) :
    (∃ settled, description.settled = .ok settled) ↔
      description.documents ≠ [] ∧ description.capabilities.isSupported = true ∧
        description.capabilities.ippVersionMajor ≠ 0 := by
  have he := settled_eq_error_iff description
  cases hs : description.settled with
  | error cause =>
      have hno := he.mp ⟨cause, hs⟩
      simp only [reduceCtorEq, exists_false, false_iff]
      grind
  | ok settled =>
      have hno : ¬∃ cause, description.settled = .error cause := by simp [hs]
      rw [he] at hno
      simpa using hno

/-- One of the pages of the job is to be refused. -/
def Refuses (description : JobDescription) (failAt : Option Nat) : Prop :=
  ∃ settled n, description.settled = .ok settled ∧ failAt = some n ∧ 1 ≤ n ∧
    n ≤ settled.plan.steps.length

theorem refuses_iff {settled : SettledJob} (h : description.settled = .ok settled) :
    Refuses description failAt ↔
      ∃ n, failAt = some n ∧ 1 ≤ n ∧ n ≤ settled.plan.steps.length := by
  constructor
  · rintro ⟨settled', n, hs, hn⟩
    cases h.symm.trans hs
    exact ⟨n, hn⟩
  · rintro ⟨n, hn⟩
    exact ⟨settled, n, h, hn⟩

theorem not_refuses_none (description : JobDescription) : ¬Refuses description none := by
  rintro ⟨_, _, _, hf, _⟩
  cases hf

/-- Among the calls that open a job, only one is not for a page of it. -/
theorem countP_openingCalls (settings : Settings) (request : JobStart) (steps : List PageStep)
    (marker : PageStep) {p : Call → Bool} (hp : ∀ step, p (.page Console.job step) = false) :
    (openingCalls settings request steps marker).countP p =
      [Call.init, .announce settings.source, .start request].countP p := by
  have hs : (steps.map (Call.page Console.job)).countP p = 0 := by
    simp [List.countP_eq_zero, hp]
  simp [openingCalls, List.countP_cons, List.countP_append, hs, hp]

namespace Life

variable {calls : List Call} {report : Report}

theorem getLast?_calls (h : Life description settings failAt calls report) :
    calls.getLast? = some .shutdown := by
  cases h with
  | unsettled _ seen => simp [seen]
  | sent _ _ seen => simp
  | aborted _ _ _ _ seen => simp [seen]

theorem count_finish (h : Life description settings failAt calls report) :
    calls.count (.finish Console.job) = calls.countP (· matches .start _) ∧
      calls.countP (· matches .start _) ≤ 1 := by
  rw [List.count]
  cases h with
  | unsettled _ seen => simp [seen]
  | sent _ _ seen => simp [seen, countP_openingCalls]
  | aborted _ _ _ _ seen => simp [seen, countP_openingCalls]

theorem cancel_mem_iff (h : Life description settings failAt calls report) :
    .cancel Console.job ∈ calls ↔ Refuses description failAt := by
  cases h with
  | unsettled settling seen => simp [seen, Refuses, settling]
  | sent settling accepted seen =>
      have hr : ¬Refuses description failAt := by
        rw [refuses_iff settling]
        rintro ⟨n, hf, hpos, hn⟩
        exact absurd (accepted n hf hpos) (by omega)
      simp [seen, openingCalls, hr]
  | aborted settling refusal pos page seen =>
      have hr : Refuses description failAt := by
        obtain ⟨hn, _⟩ := List.getElem?_eq_some_iff.mp page
        exact (refuses_iff settling).mpr ⟨_, refusal, pos, by omega⟩
      simp [seen, openingCalls, hr]

theorem success_iff (h : Life description settings failAt calls report) :
    report.ending = .success ↔
      (∃ settled, description.settled = .ok settled) ∧ ¬Refuses description failAt := by
  rw [← h.cancel_mem_iff]
  cases h with
  | unsettled settling _ => simp [settling]
  | sent settling _ seen => simp [settling, seen, openingCalls]
  | aborted _ _ _ _ seen => simp [seen, openingCalls]

end Life

/-- The submit command takes one of three courses. It ends the job exactly if it started it, cancels
it exactly if a page was refused, and shuts the transport down last. -/
theorem submit_lifecycle (description : JobDescription) (settings : Settings)
    (failAt : Option Nat) :
    let calls := submitCalls description settings failAt
    let report := runSubmit description settings failAt
    report = .ofOutcome (loggedSession description settings failAt).1
      (loggedSession description settings failAt).2.1 ∧
    Life description settings failAt calls report ∧
    ((∃ cause, description.settled = .error cause) ↔
      description.documents = [] ∨ description.capabilities.isSupported = false ∨
        description.capabilities.ippVersionMajor = 0) ∧
    calls.getLast? = some .shutdown ∧
    calls.count (.finish Console.job) = calls.countP (· matches .start _) ∧
    calls.countP (· matches .start _) ≤ 1 ∧
    (.cancel Console.job ∈ calls ↔ Refuses description failAt) ∧
    (report.ending = .success ↔
      (∃ settled, description.settled = .ok settled) ∧ ¬Refuses description failAt) := by
  intro calls report
  have h : Life description settings failAt calls report := life description settings failAt
  obtain ⟨hfinish, hstart⟩ := h.count_finish
  exact ⟨runSubmit_eq_ofOutcome description settings failAt, h, settled_eq_error_iff description,
    h.getLast?_calls, hfinish, hstart, h.cancel_mem_iff, h.success_iff⟩

/-- Three pages that are all accepted, and the same pages with the second one refused. -/
theorem submit_lifecycle_three_pages :
    let description : JobDescription :=
      { capabilities := { supportedScalings := ["fit"], inputFormats := .pdf }
        documents := [⟨"/spool/report.pdf", pdfType, 3⟩] }
    (runSubmit description {} none).ending = .success ∧
    (runSubmit description {} none).lines =
      ["init", "source printseq_printing 0.1.0 on linux",
        "print-job-1 start ipp://localhost:631/ipp/print application/pdf scaling=\"fit\"",
        "print-job-1 send doc 0 /spool/report.pdf page 1 [pdf]",
        "print-job-1 send doc 0 /spool/report.pdf page 2 [pdf]",
        "print-job-1 send doc 0 /spool/report.pdf page 3 [pdf]",
        "print-job-1 send end-of-document (page 2)", "print-job-1 end", "submitted print-job-1",
        "shutdown"] ∧
    .cancel Console.job ∈ submitCalls description {} (some 2) ∧
    (runSubmit description {} (some 2)).lines =
      ["init", "source printseq_printing 0.1.0 on linux",
        "print-job-1 start ipp://localhost:631/ipp/print application/pdf scaling=\"fit\"",
        "print-job-1 send doc 0 /spool/report.pdf page 1 [pdf]",
        "print-job-1 send doc 0 /spool/report.pdf page 2 [pdf]",
        "print-job-1 send end-of-document (page 2)", "print-job-1 cancel", "print-job-1 end",
        "shutdown"] := by
  intro description
  have hrefused : Refuses description (some 2) :=
    ⟨_, 2, rfl, rfl, by decide, by decide +kernel⟩
  obtain ⟨_, _, _, _, _, _, _, hsuccess⟩ := submit_lifecycle description {} none
  obtain ⟨_, _, _, _, _, _, hcancel, _⟩ := submit_lifecycle description {} (some 2)
  exact ⟨hsuccess.mpr ⟨⟨_, rfl⟩, not_refuses_none description⟩, by decide +kernel,
    hcancel.mpr hrefused, by decide +kernel⟩

end Command

end PrintJob
