import PrintJob.Proofs.Command.Session

/-! # Listings and submissions

The plan of a job that is listed is the one that is sent. What a listing shows is said apart from
the printer of listings: how lines are numbered, and which word stands for no directive. -/

namespace PrintJob

namespace Call

/-- The scaling directive that a call hands to the printer. -/
def scaling? : Call → Option String
  | start request => some request.params.printScaling
  | _ => none

/-- The description of the step that a call sends. -/
def sent? : Call → Option String
  | page _ step => some step.describe
  | _ => none

end Call

namespace Command

variable {description : JobDescription} {settings : Settings}

/-! ## What a listing shows -/

/-- Lines that list a scaling directive, pages numbered from one on with the numbers flush right in
three columns, and the marker behind them. -/
def Shows (lines : List String) (scaling : String) (pages : List String) (marker : String) : Prop :=
  ∃ format stacking duplex total,
    lines =
      ["format: " ++ format, "stacking: " ++ stacking, "duplex: " ++ duplex,
        "print-scaling: " ++ scaling, "pages-per-set: " ++ total] ++
      pages.mapIdx (fun i page =>
        String.ofList ((toString (i + 1)).toList.leftpad 3 ' ') ++ ". " ++ page) ++
      ["  -. " ++ marker]

theorem threeColumns_eq_leftpad (n : Nat) :
    threeColumns n = String.ofList ((toString n).toList.leftpad 3 ' ') := by
  simp [threeColumns, List.leftpad, Text.decimal, Nat.toString_eq_repr]

theorem stepLines_eq_mapIdx (number : Nat) (steps : List PageStep) :
    stepLines number steps =
      (steps.map PageStep.describe).mapIdx
        fun i page => threeColumns (number + i) ++ ". " ++ page := by
  induction steps generalizing number with
  | nil => rfl
  | cons step steps ih =>
      simp only [stepLines, ih, List.map_cons, List.mapIdx_cons, Nat.add_zero]
      simp only [Nat.add_assoc, Nat.add_comm 1]

theorem shows_planLines (settled : SettledJob) :
    Shows (planLines settled) (scalingLabel settled.params.printScaling)
      (settled.plan.steps.map PageStep.describe) settled.plan.endMarker.describe := by
  refine ⟨settled.format.mimeType, settled.stacking.name,
    settled.params.duplex.name ++ (if settled.smartDuplex then " (smart duplex)" else ""),
    toString settled.params.jobPagesPerSet.toNat, ?_⟩
  have hs : stepLines 1 settled.plan.steps = _ := stepLines_eq_mapIdx 1 settled.plan.steps
  simp only [planLines, hs, threeColumns_eq_leftpad, Nat.add_comm 1, String.append_assoc]

/-- Lines show one thing only. -/
theorem Shows.unique {lines : List String} {scaling scaling' : String} {pages pages' : List String}
    {marker marker' : String} (h : Shows lines scaling pages marker)
    (h' : Shows lines scaling' pages' marker') :
    scaling = scaling' ∧ pages = pages' ∧ marker = marker' := by
  obtain ⟨_, _, _, _, rfl⟩ := h
  obtain ⟨_, _, _, _, h⟩ := h'
  have hn : pages.length = pages'.length := by simpa using congrArg List.length h
  simp only [List.cons_append, List.nil_append, List.cons.injEq, String.append_right_inj] at h
  obtain ⟨_, _, _, hscaling, _, h⟩ := h
  obtain ⟨hpages, hmarker⟩ := List.append_inj' h rfl
  refine ⟨hscaling, ?_, by simpa using hmarker⟩
  refine List.ext_getElem hn ?_
  intro i hi hi'
  have hp := List.getElem_of_eq hpages (by simpa using hi)
  simpa using hp

/-! ## What a submission sends -/

/-- Calls that hand over one directive, and pages with the marker behind them. The empty directive
reads as a word of its own. -/
structure Sends (calls : List Call) (scaling : String) (pages : List String) (marker : String) :
    Prop where
  scaling : ∃ directive, calls.filterMap Call.scaling? = [directive] ∧
    scaling = if directive = "" then "<unset>" else directive
  pages : calls.filterMap Call.sent? = pages ++ [marker]

theorem scalingLabel_eq_ite (directive : String) :
    scalingLabel directive = if directive = "" then "<unset>" else directive := by
  simp [scalingLabel, String.isEmpty_iff]

theorem sends_openingCalls (settings : Settings) (request : JobStart) (steps : List PageStep)
    (marker : PageStep) {rest : List Call} (hscaling : rest.filterMap Call.scaling? = [])
    (hpages : rest.filterMap Call.sent? = []) :
    Sends (openingCalls settings request steps marker ++ rest)
      (scalingLabel request.params.printScaling) (steps.map PageStep.describe)
      marker.describe := by
  have hs : (steps.map (Call.page Console.job)).filterMap Call.scaling? = [] := by
    simp [Call.scaling?]
  have hd : (steps.map (Call.page Console.job)).filterMap Call.sent? =
      steps.map PageStep.describe := by
    rw [List.filterMap_map, ← List.filterMap_eq_map]
    rfl
  constructor
  · refine ⟨request.params.printScaling, ?_, scalingLabel_eq_ite _⟩
    simp [openingCalls, List.filterMap_cons, hs, hscaling, Call.scaling?]
  · simp [openingCalls, List.filterMap_cons, hd, hpages, Call.sent?]

/-! ## Agreement -/

theorem runPlan_eq (description : JobDescription) (settings : Settings) :
    runPlan description settings false =
      match description.settled with
      | .error cause => .failed [cause.message]
      | .ok settled => .ok (planLines settled) := rfl

theorem Life.sends_of_not_refuses {failAt : Option Nat} {calls : List Call} {report : Report}
    {settled : SettledJob} (h : Life description settings failAt calls report)
    (hs : description.settled = .ok settled) (hr : ¬Refuses description failAt) :
    Sends calls (scalingLabel settled.params.printScaling)
      (settled.plan.steps.map PageStep.describe) settled.plan.endMarker.describe := by
  rw [← h.cancel_mem_iff] at hr
  cases h with
  | unsettled settling _ => cases hs.symm.trans settling
  | sent settling _ seen =>
      cases hs.symm.trans settling
      rw [seen, List.append_assoc]
      exact sends_openingCalls settings _ _ _ rfl rfl
  | aborted _ _ _ _ seen => exact absurd (by simp [seen]) hr

theorem Life.sends_of_refuses {n : Nat} {calls : List Call} {report : Report}
    {settled : SettledJob} (h : Life description settings (some n) calls report)
    (hs : description.settled = .ok settled) (hpos : 1 ≤ n)
    (hn : n ≤ settled.plan.steps.length) :
    Sends calls (scalingLabel settled.params.printScaling)
      ((settled.plan.steps.map PageStep.describe).take n) settled.plan.endMarker.describe := by
  cases h with
  | unsettled settling _ => cases hs.symm.trans settling
  | sent settling accepted _ =>
      cases hs.symm.trans settling
      exact absurd (accepted n rfl hpos) (by omega)
  | aborted settling refusal _ _ seen =>
      cases hs.symm.trans settling
      cases refusal
      rw [seen, ← List.map_take]
      exact sends_openingCalls settings _ _ _ rfl rfl

/-- A plan is listed exactly if the job is sent when no page is refused, and what is listed is what
is sent. -/
theorem plan_foretells_submission (description : JobDescription) (settings : Settings) :
    let plan := runPlan description settings false
    (plan.ending = .success ↔ (runSubmit description settings none).ending = .success) ∧
    (plan.ending = .success ↔ description.documents ≠ [] ∧
      description.capabilities.isSupported = true ∧
      description.capabilities.ippVersionMajor ≠ 0) ∧
    (plan.ending = .success ↔ ∃ scaling pages marker, Shows plan.lines scaling pages marker) ∧
    ∀ scaling pages marker, Shows plan.lines scaling pages marker →
      Sends (submitCalls description settings none) scaling pages marker ∧
      ∀ n, 1 ≤ n → n ≤ pages.length →
        Sends (submitCalls description settings (some n)) scaling (pages.take n) marker := by
  have hr := not_refuses_none description
  have hs := (life description settings none).success_iff
  have hok := exists_settled_iff description
  rw [runPlan_eq]
  cases h : description.settled with
  | error cause =>
      have hn (scaling : String) (pages : List String) (marker : String) :
          ¬Shows [] scaling pages marker := by
        rintro ⟨_, _, _, _, hlines⟩
        cases hlines
      refine ⟨?_, ?_, ?_, ?_⟩
      · simp [Report.failed, hs, h]
      · simp [Report.failed, ← hok, h]
      · simp [Report.failed, hn]
      · intro scaling pages marker hshows
        exact absurd hshows (hn scaling pages marker)
  | ok settled =>
      have hshows := shows_planLines settled
      refine ⟨?_, ?_, ?_, ?_⟩
      · simp [Report.ok, hs, h, hr]
      · simp [Report.ok, ← hok, h]
      · simp only [Report.ok, true_iff]
        exact ⟨_, _, _, hshows⟩
      · intro scaling pages marker hlines
        obtain ⟨rfl, rfl, rfl⟩ := hshows.unique hlines
        refine ⟨(life description settings none).sends_of_not_refuses h hr, ?_⟩
        intro n hpos hn
        rw [List.length_map] at hn
        exact (life description settings (some n)).sends_of_refuses h hpos hn

/-- Two pages for a printer that fits them, with the first one refused or none, and a page for a
printer without directives. -/
theorem plan_foretells_submission_two_pages :
    let fitted : JobDescription :=
      { capabilities := { supportedScalings := ["fit"], inputFormats := .pdf }
        documents := [⟨"a.pdf", pdfType, 2⟩] }
    let bare : JobDescription := { capabilities := {}, documents := [⟨"b.pdf", pdfType, 1⟩] }
    (runPlan fitted {} false).lines =
      ["format: application/pdf", "stacking: face-down", "duplex: off", "print-scaling: fit",
        "pages-per-set: 2", "  1. doc 0 a.pdf page 1 [pdf]", "  2. doc 0 a.pdf page 2 [pdf]",
        "  -. end-of-document (page 2)"] ∧
    (runSubmit fitted {} none).ending = .success ∧
    Sends (submitCalls fitted {} none) "fit"
      ["doc 0 a.pdf page 1 [pdf]", "doc 0 a.pdf page 2 [pdf]"] "end-of-document (page 2)" ∧
    Sends (submitCalls fitted {} (some 1)) "fit"
      ["doc 0 a.pdf page 1 [pdf]"] "end-of-document (page 2)" ∧
    (runPlan bare {} false).lines =
      ["format: application/PCLm", "stacking: face-down", "duplex: off (smart duplex)",
        "print-scaling: <unset>", "pages-per-set: 1", "  1. doc 0 b.pdf page 1 [pdf]",
        "  -. end-of-document (page 2)"] ∧
    Sends (submitCalls bare {} none) "<unset>"
      ["doc 0 b.pdf page 1 [pdf]"] "end-of-document (page 2)" := by
  intro fitted bare
  obtain ⟨hplan, _, _, hfitted⟩ := plan_foretells_submission fitted {}
  obtain ⟨_, _, _, hbare⟩ := plan_foretells_submission bare {}
  have hlines : (runPlan fitted {} false).lines =
      ["format: application/pdf", "stacking: face-down", "duplex: off", "print-scaling: fit",
        "pages-per-set: 2", "  1. doc 0 a.pdf page 1 [pdf]", "  2. doc 0 a.pdf page 2 [pdf]",
        "  -. end-of-document (page 2)"] := by decide +kernel
  have hbareLines : (runPlan bare {} false).lines =
      ["format: application/PCLm", "stacking: face-down", "duplex: off (smart duplex)",
        "print-scaling: <unset>", "pages-per-set: 1", "  1. doc 0 b.pdf page 1 [pdf]",
        "  -. end-of-document (page 2)"] := by decide +kernel
  have hshows : Shows (runPlan fitted {} false).lines "fit"
      ["doc 0 a.pdf page 1 [pdf]", "doc 0 a.pdf page 2 [pdf]"] "end-of-document (page 2)" :=
    ⟨"application/pdf", "face-down", "off", "2", hlines⟩
  have hbareShows : Shows (runPlan bare {} false).lines "<unset>"
      ["doc 0 b.pdf page 1 [pdf]"] "end-of-document (page 2)" :=
    ⟨"application/PCLm", "face-down", "off (smart duplex)", "1", hbareLines⟩
  obtain ⟨hall, hfirst⟩ := hfitted _ _ _ hshows
  obtain ⟨hbareAll, _⟩ := hbare _ _ _ hbareShows
  exact ⟨hlines, hplan.mp rfl, hall, hfirst 1 (by decide) (by decide), hbareLines, hbareAll⟩

end Command

end PrintJob
