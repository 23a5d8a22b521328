import PrintJob.Job.Settled
import PrintJob.Proofs.Job.Stacking
import PrintJob.Proofs.Range.Selection

/-! # Settling

A job with documents is settled for a supported printer and for no other. The plan of a settled
job asks for no page that its documents do not have. -/

namespace PrintJob

namespace SettledJob

/-! ## Outcomes -/

theorem ofDescriptors_eq_error_iff (descriptors : List Descriptor) (params : Parameters)
    (capabilities : Capabilities) (cause : Refusal) :
    ofDescriptors descriptors params capabilities = .error cause ↔
      (descriptors = [] ∧ cause = .noDocuments) ∨
      (descriptors ≠ [] ∧ capabilities.isSupported = false ∧
        cause = .unsupportedPrinter capabilities.name) := by
  cases descriptors with
  | nil => simpa [ofDescriptors] using eq_comm
  | cons first rest =>
      cases hs : capabilities.isSupported with
      | true => simp [ofDescriptors, hs]
      | false => simpa [ofDescriptors, hs] using eq_comm

theorem ofDescriptors_eq_ok_iff (descriptors : List Descriptor) (params : Parameters)
    (capabilities : Capabilities) (settled : SettledJob) :
    ofDescriptors descriptors params capabilities = .ok settled ↔
      capabilities.isSupported = true ∧ ∃ first, descriptors.head? = some first ∧
        settled = settle first descriptors params capabilities := by
  cases descriptors with
  | nil => simp [ofDescriptors]
  | cons first rest =>
      cases hs : capabilities.isSupported with
      | true => simpa [ofDescriptors, hs] using eq_comm
      | false => simp [ofDescriptors, hs]

/-- What a settled job takes from its descriptors and from the printer. -/
structure Settles (descriptors : List Descriptor) (params : Parameters)
    (capabilities : Capabilities) (settled : SettledJob) : Prop where
  supported : capabilities.isSupported = true
  documents : settled.documents = descriptors.map fun descriptor =>
    Document.ofDescriptor descriptor params.pageRange
  mimeType : descriptors.head?.map Descriptor.mimeType = some settled.mimeType
  plan : settled.plan = Plan.compose settled.documents capabilities.stacking

theorem settles {descriptors : List Descriptor} {params : Parameters}
    {capabilities : Capabilities} {settled : SettledJob}
    (h : ofDescriptors descriptors params capabilities = .ok settled) :
    Settles descriptors params capabilities settled := by
  obtain ⟨hs, first, hf, rfl⟩ := (ofDescriptors_eq_ok_iff _ _ _ _).mp h
  exact ⟨hs, rfl, by rw [hf]; rfl, rfl⟩

theorem eq_page_of_mem_steps {descriptors : List Descriptor} {params : Parameters}
    {capabilities : Capabilities} {settled : SettledJob} {step : PageStep}
    (h : ofDescriptors descriptors params capabilities = .ok settled)
    (hm : step ∈ settled.plan.steps) :
    ∃ index number path pdf, step = .page index number path pdf := by
  rw [(settles h).plan] at hm
  exact Plan.eq_page_of_mem_steps hm

theorem isEndMarker_of_mem_steps {descriptors : List Descriptor} {params : Parameters}
    {capabilities : Capabilities} {settled : SettledJob}
    (h : ofDescriptors descriptors params capabilities = .ok settled) :
    ∀ step ∈ settled.plan.steps, step.isEndMarker = false := by
  intro step hm
  obtain ⟨_, _, _, _, rfl⟩ := eq_page_of_mem_steps h hm
  rfl

/-! ## Pages -/

theorem page_bounds_of_ofDescriptor {descriptor : Descriptor} {expression : Option String}
    {range : Range.Resolved} {page : Nat}
    (hr : (Document.ofDescriptor descriptor expression).range = some range)
    (hp : page ∈ range.pages) : 1 ≤ page ∧ page ≤ descriptor.pageCount.toNat := by
  unfold Document.ofDescriptor at hr
  dsimp only at hr
  split at hr
  · obtain rfl := Option.some.inj hr
    exact Range.page_bounds_of_resolve hp
  · cases hr

/-- A step asks for something that the job has: a page of a document, or a document as a whole,
which is numbered by a place among all documents. -/
structure StepWithin (descriptors : List Descriptor) (step : PageStep) (index : Nat)
    (descriptor : Descriptor) : Prop where
  document : step.document = some index
  found : descriptors[index]? = some descriptor
  content : step.content = some descriptor.path
  number_pos : 1 ≤ step.pageNumber
  page_le : step.pdfPassthrough = true → step.pageNumber ≤ descriptor.pageCount.toNat
  place_le : step.pdfPassthrough = false → step.pageNumber ≤ descriptors.length
  notMarker : step.isEndMarker = false

/-- Whatever the range expression, every step of a settled job asks for something that the job has,
and only the marker ends the stream. -/
theorem steps_within_documents {descriptors : List Descriptor} {params : Parameters}
    {capabilities : Capabilities} {settled : SettledJob}
    (h : ofDescriptors descriptors params capabilities = .ok settled) :
    (∀ step ∈ settled.plan.steps, ∃ index descriptor,
      index < descriptors.length ∧ StepWithin descriptors step index descriptor) ∧
    settled.plan.endMarker.isEndMarker = true := by
  have hs := settles h
  rw [hs.plan, hs.documents]
  refine ⟨?_, rfl⟩
  intro step hm
  obtain ⟨index, document, hd, hm⟩ := (Plan.mem_steps_iff _ _ _).mp hm
  rw [List.getElem?_map, Option.map_eq_some_iff] at hd
  obtain ⟨descriptor, hi, rfl⟩ := hd
  obtain ⟨hlt, _⟩ := List.getElem?_eq_some_iff.mp hi
  rw [List.length_map] at hm
  refine ⟨index, descriptor, hlt, ?_⟩
  rcases (Plan.mem_ofDocument_iff _ _ _ _ _).mp hm with ⟨range, hr, number, hp, rfl⟩ | ⟨_, rfl⟩
  · have hb := page_bounds_of_ofDescriptor hr hp
    exact ⟨rfl, hi, rfl, hb.1, fun _ => hb.2, by simp [PageStep.page], rfl⟩
  · have hb := capabilities.stacking.place_bounds hlt
    exact ⟨rfl, hi, rfl, hb.1, by simp [PageStep.page], fun _ => hb.2, rfl⟩

/-- A descending range and a picture, for a tray that stacks face up. -/
theorem steps_within_documents_face_up :
    let descriptors : List Descriptor := [⟨"a.pdf", pdfType, 3⟩, ⟨"b.jpg", "image/jpeg", 0⟩]
    ∃ settled,
      ofDescriptors descriptors { pageRange := some "3-2,1" } { faceDownTray := false } =
        .ok settled ∧
      settled.plan.steps.map (·.pageNumber) = [1, 1, 2, 3] ∧
      (∀ step ∈ settled.plan.steps, ∃ index descriptor,
        index < descriptors.length ∧ StepWithin descriptors step index descriptor) ∧
      settled.plan.endMarker.isEndMarker = true := by
  intro descriptors
  have h : ofDescriptors descriptors { pageRange := some "3-2,1" } { faceDownTray := false } =
      .ok (settle ⟨"a.pdf", pdfType, 3⟩ descriptors { pageRange := some "3-2,1" }
        { faceDownTray := false }) := rfl
  exact ⟨_, h, by decide, steps_within_documents h⟩

end SettledJob

end PrintJob
