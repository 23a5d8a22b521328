import PrintJob.Proofs.Job.Settling
import PrintJob.Proofs.Render.Derivation

/-! # Settling again

Settling reads none of the fields that it fills in, apart from the flags and the duplex mode, and
those it finds as it left them. So the parameters of a settled job settle to the same job. -/

namespace PrintJob

namespace Parameters

/-- The parameters without the fields that settling fills in whatever they hold. -/
def withoutResults (params : Parameters) : Parameters :=
  { params with printScaling := "", jobPagesPerSet := 0, certificate := none }

/-- The part of the parameters that settling leaves alone. -/
def wishes (params : Parameters) : Parameters :=
  { params.withoutResults with duplex := .off, renderFlags := .empty }

/-- The parameters that the job of documents is settled with. -/
def settled (params : Parameters) (documents : List Document) (format : TransferFormat)
    (capabilities : Capabilities) : Parameters :=
  { params with
    duplex := if disablesDuplex documents then .off else params.duplex
    renderFlags := .derive params.renderFlags params.render params.alignment
    printScaling := Scaling.select format capabilities params
    jobPagesPerSet := UInt32.ofNat (SettledJob.totalPages documents)
    certificate := capabilities.certificate }

theorem settled_settled (params : Parameters) (documents : List Document)
    (format : TransferFormat) (capabilities : Capabilities) :
    (params.settled documents format capabilities).settled documents format capabilities =
      params.settled documents format capabilities := by
  have hd : (if disablesDuplex documents then Duplex.off
      else if disablesDuplex documents then .off else params.duplex) =
      if disablesDuplex documents then .off else params.duplex := by
    split <;> rfl
  simp only [settled, Render.Flags.derive_derive, hd]
  rfl

end Parameters

namespace SettledJob

theorem settle_eq (first : Descriptor) (descriptors : List Descriptor) (params : Parameters)
    (capabilities : Capabilities) :
    settle first descriptors params capabilities =
      let documents := descriptors.map (Document.ofDescriptor · params.pageRange)
      let format := TransferFormat.detect first.mimeType capabilities
      { params := params.settled documents format capabilities
        documents
        mimeType := first.mimeType
        format
        stacking := capabilities.stacking
        smartDuplex := disablesDuplex documents
        plan := Plan.compose documents capabilities.stacking } := by
  unfold settle settleDuplex
  dsimp only
  split <;> rename_i h <;> simp [h, Parameters.settled, Scaling.apply, Scaling.select]

theorem settle_params_settle (first : Descriptor) (descriptors : List Descriptor)
    (params : Parameters) (capabilities : Capabilities) :
    settle first descriptors (settle first descriptors params capabilities).params capabilities =
      settle first descriptors params capabilities := by
  rw [settle_eq first descriptors params, settle_eq]
  dsimp only
  have hr (documents : List Document) (format : TransferFormat) :
      (params.settled documents format capabilities).pageRange = params.pageRange := rfl
  rw [hr, Parameters.settled_settled]

theorem settle_withoutResults (first : Descriptor) (descriptors : List Descriptor)
    (params : Parameters) (capabilities : Capabilities) :
    settle first descriptors params.withoutResults capabilities =
      settle first descriptors params capabilities := by
  rw [settle_eq, settle_eq]
  rfl

/-- The parameters of a settled job settle to the same job. It does not matter what the fields for
results hold before, and no wish is changed. -/
theorem settles_again {descriptors : List Descriptor} {params : Parameters}
    {capabilities : Capabilities} {settled : SettledJob}
    (h : ofDescriptors descriptors params capabilities = .ok settled) :
    ofDescriptors descriptors settled.params capabilities = .ok settled ∧
    (∀ other : Parameters, other.withoutResults = params.withoutResults →
      ofDescriptors descriptors other capabilities = .ok settled) ∧
    settled.params.wishes = params.wishes := by
  obtain ⟨hs, first, hf, rfl⟩ := (ofDescriptors_eq_ok_iff _ _ _ _).mp h
  refine ⟨?_, ?_, ?_⟩
  · exact (ofDescriptors_eq_ok_iff _ _ _ _).mpr
      ⟨hs, first, hf, (settle_params_settle first descriptors params capabilities).symm⟩
  · intro other ho
    refine (ofDescriptors_eq_ok_iff _ _ _ _).mpr ⟨hs, first, hf, ?_⟩
    rw [← settle_withoutResults, ← ho, settle_withoutResults]
  · rw [settle_eq]
    rfl

/-- A single page of a document, with a centring of its own in the base word and results of an
earlier job in the parameters. -/
theorem settles_again_single_page :
    let pdf : Descriptor := ⟨"a.pdf", pdfType, 3⟩
    let params : Parameters :=
      { duplex := .longEdge, render := { fitToPage := true }, alignment := .horizontal
        renderFlags := .orientationBit, pageRange := some "2" }
    let stale := { params with
      printScaling := "fill", jobPagesPerSet := 99, certificate := some [1] }
    ∃ settled, ofDescriptors [pdf] params {} = .ok settled ∧ settled.params.duplex = .off ∧
      settled.params.renderFlags = Render.Flags.fitBit.union .horizontalBit ∧
      ofDescriptors [pdf] settled.params {} = .ok settled ∧
      ofDescriptors [pdf] stale {} = .ok settled ∧ settled.params.wishes = params.wishes := by
  intro pdf params stale
  have h : ofDescriptors [pdf] params {} = .ok (settle pdf [pdf] params {}) := rfl
  exact ⟨_, h, by decide, by decide, (settles_again h).1, (settles_again h).2.1 stale rfl,
    (settles_again h).2.2⟩

end SettledJob

end PrintJob
