import PrintJob.Proofs.Job.Resettling
import PrintJob.Proofs.Range.RoundTrip

/-! # Agreement

The duplex mode, the page total and the plan of a settled job come from separate passes over its
documents. The passes agree: duplex printing is turned off exactly for a plan of one step from one
document, and the total counts the pages that are sent where no range is asked for. -/

namespace PrintJob

/-- The number of pages that a document adds to the total. -/
def Descriptor.pages (descriptor : Descriptor) : Nat :=
  if descriptor.hasPages then descriptor.pageCount.toNat else 0

/-- The number of pages that the range of a document has, zero for a document without one. -/
def Document.rangeSize (document : Document) : Nat :=
  match document.range with
  | some range => range.size
  | none => 0

/-- A document that no expression is applied to prints all its pages. -/
theorem Document.rangeSize_ofDescriptor_none (descriptor : Descriptor) :
    (ofDescriptor descriptor none).rangeSize = descriptor.pages := by
  unfold rangeSize ofDescriptor Descriptor.pages
  cases descriptor.hasPages with
  | true => exact Range.size_whole _
  | false => rfl

theorem Document.isSingleSheet_iff (document : Document) (index : Nat) :
    document.isSingleSheet = true ↔ (document.sheets index).length = 1 := by
  unfold isSingleSheet sheets
  cases document.range with
  | some range => simp [Range.Resolved.size]
  | none => simp

namespace Plan

/-! ## Steps -/

theorem countP_pdfPassthrough_ofDocument (stacking : Stacking) (index place : Nat)
    (document : Document) :
    (ofDocument stacking index place document).countP (·.pdfPassthrough) = document.rangeSize := by
  unfold ofDocument Document.rangeSize
  cases document.range with
  | some range =>
      rw [List.countP_eq_length.mpr (by simp [PageStep.page]), List.length_map,
        Stacking.length_order]
      rfl
  | none => rfl

/-- The steps that pass pages through are as many as the pages of all ranges. -/
theorem countP_pdfPassthrough_steps (documents : List Document) (stacking : Stacking) :
    (compose documents stacking).steps.countP (·.pdfPassthrough) =
      (documents.map Document.rangeSize).sum := by
  rw [← (stacking.order_perm _).countP_eq, order_steps, List.countP_flatMap]
  have hsize : (List.countP (·.pdfPassthrough) ∘ fun item : Document × Nat =>
      ofDocument .faceDown item.2 (stacking.place documents.length item.2) item.1) =
      Document.rangeSize ∘ Prod.fst := by
    funext item
    exact countP_pdfPassthrough_ofDocument _ _ _ _
  rw [hsize, ← List.map_map, List.zipIdx_map_fst]

/-- Duplex printing is turned off exactly for a plan of one step from the only document. -/
theorem disablesDuplex_iff (documents : List Document) (stacking : Stacking) :
    disablesDuplex documents = true ↔
      documents.length = 1 ∧ (compose documents stacking).steps.length = 1 := by
  match documents with
  | [] => simp [disablesDuplex]
  | [document] =>
      have hlen : (compose [document] stacking).steps.length = (document.sheets 0).length := by
        rw [← stacking.length_order, order_steps]
        simp [length_ofDocument]
      rw [hlen]
      simpa [disablesDuplex] using document.isSingleSheet_iff 0
  | first :: second :: rest => simp [disablesDuplex]

end Plan

namespace SettledJob

/-! ## Totals -/

/-- The total does not depend on the range that is printed. -/
theorem totalPages_ofDescriptors (descriptors : List Descriptor) (expression : Option String) :
    totalPages (descriptors.map (Document.ofDescriptor · expression)) =
      (descriptors.map Descriptor.pages).sum := by
  induction descriptors with
  | nil => rfl
  | cons descriptor rest ih =>
      rw [List.map_cons, totalPages, ih, List.map_cons, List.sum_cons, Descriptor.pages,
        Document.ofDescriptor]
      cases descriptor.hasPages with
      | true => rfl
      | false => simp

/-- Without a range every page of the total is sent. -/
theorem totalPages_eq_countP (descriptors : List Descriptor) (stacking : Stacking) :
    let documents := descriptors.map (Document.ofDescriptor · none)
    totalPages documents =
      (Plan.compose documents stacking).steps.countP (·.pdfPassthrough) := by
  have hsize : Document.rangeSize ∘ (Document.ofDescriptor · none) = Descriptor.pages := by
    funext descriptor
    exact Document.rangeSize_ofDescriptor_none descriptor
  intro documents
  rw [totalPages_ofDescriptors, Plan.countP_pdfPassthrough_steps, List.map_map, hsize]

/-- The passes over the documents of a job agree. Duplex printing is turned off exactly if the plan
is one step from the only document, and is as asked for otherwise. The page total does not depend on
the range, and it counts the pages that are sent if there is none. -/
theorem settles_in_agreement {descriptors : List Descriptor} {params : Parameters}
    {capabilities : Capabilities} {settled : SettledJob}
    (h : ofDescriptors descriptors params capabilities = .ok settled) :
    (settled.smartDuplex = true ↔
        descriptors.length = 1 ∧ settled.plan.steps.length = 1) ∧
      settled.params.duplex = (if settled.smartDuplex then .off else params.duplex) ∧
      (∀ pageRange, ∃ other,
        ofDescriptors descriptors { params with pageRange } capabilities = .ok other ∧
          other.params.jobPagesPerSet = settled.params.jobPagesPerSet) ∧
      (params.pageRange = none → totalPages settled.documents < UInt32.size →
        settled.params.jobPagesPerSet.toNat =
          settled.plan.steps.countP (·.pdfPassthrough)) := by
  obtain ⟨hs, first, hf, rfl⟩ := (ofDescriptors_eq_ok_iff _ _ _ _).mp h
  refine ⟨?_, ?_, ?_, ?_⟩
  · rw [settle_eq]
    simpa using Plan.disablesDuplex_iff
      (descriptors.map (Document.ofDescriptor · params.pageRange)) capabilities.stacking
  · rw [settle_eq]
    rfl
  · intro pageRange
    refine ⟨_, (ofDescriptors_eq_ok_iff _ _ _ _).mpr ⟨hs, first, hf, rfl⟩, ?_⟩
    simp only [settle_eq, Parameters.settled, totalPages_ofDescriptors]
  · intro hnone ht
    rw [settle_eq] at ht ⊢
    simp only [hnone, Parameters.settled] at ht ⊢
    rw [UInt32.toNat_ofNat_of_lt' ht, totalPages_eq_countP]

/-- A document of one page, which counts for the total also where its range has no page. -/
theorem settles_in_agreement_one_page :
    let page : Descriptor := ⟨"a.pdf", pdfType, 1⟩
    ∃ settled, ofDescriptors [page] { duplex := .longEdge } {} = .ok settled ∧
      settled.smartDuplex = true ∧ settled.params.duplex = .off ∧
      settled.params.jobPagesPerSet.toNat =
        settled.plan.steps.countP (·.pdfPassthrough) ∧
      ∃ other,
        ofDescriptors [page] { duplex := .longEdge, pageRange := some "," } {} = .ok other ∧
          other.plan.steps = [] ∧
          other.params.jobPagesPerSet = settled.params.jobPagesPerSet := by
  intro page
  have h : ofDescriptors [page] { duplex := .longEdge } {} =
      .ok (settle page [page] { duplex := .longEdge } {}) := rfl
  obtain ⟨hsmart, hduplex, hrange, htotal⟩ := settles_in_agreement h
  have hs := hsmart.mpr ⟨rfl, by decide⟩
  obtain ⟨other, ho, hp⟩ := hrange (some ",")
  refine ⟨_, h, hs, by rw [hduplex, hs]; rfl, htotal rfl (by decide), other, ho, ?_, hp⟩
  obtain rfl : settle page [page] { duplex := .longEdge, pageRange := some "," } {} = other :=
    Except.ok.inj ho
  decide

end SettledJob

end PrintJob
