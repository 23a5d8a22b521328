import PrintJob.Proofs.Job.Stacking

/-! # Visiting

A plan takes up its documents one after another. The steps of a document stand together, so the
documents that the steps name, without repetitions of the one before, are the documents in the order
of the tray. Only a document whose range has no page is passed over. -/

namespace PrintJob

/-- Some sheet of the document is printed: it is sent as a whole, or its range has a page. -/
def Document.hasSheets (document : Document) : Bool :=
  match document.range with
  | some range => !range.isEmpty
  | none => true

theorem Document.hasSheets_eq (document : Document) (index : Nat) :
    document.hasSheets = decide (0 < (document.sheets index).length) := by
  unfold hasSheets sheets
  cases document.range with
  | some range => cases hp : range.pages <;> simp [Range.Resolved.isEmpty, hp]
  | none => rfl

namespace Plan

/-! ## Repetitions -/

/-- A run of one value shrinks to a single one, unless it goes on in what follows. -/
theorem dropRepeats_replicate_append {x : Nat} {rest : List Nat} (h : x ∉ rest) (count : Nat) :
    dropRepeats (List.replicate (count + 1) x ++ rest) = x :: dropRepeats rest := by
  induction count with
  | zero =>
      cases rest with
      | nil => rfl
      | cons y rest =>
          have hxy : x ≠ y := List.ne_of_not_mem_cons h
          exact if_neg hxy
  | succ count ih => exact (if_pos rfl).trans ih

/-! ## The documents named -/

theorem filterMap_document_ofDocument (stacking : Stacking) (index place : Nat)
    (document : Document) :
    (ofDocument stacking index place document).filterMap (·.document) =
      List.replicate (document.sheets index).length index := by
  rw [List.filterMap_congr fun _ => document_of_mem_ofDocument, List.filterMap_eq_map',
    List.map_const', length_ofDocument]

theorem mem_filterMap_document_ofDocuments {stacking : Stacking} {place index : Nat}
    {items : List (Document × Nat)}
    (h : index ∈ (ofDocuments stacking place items).filterMap (·.document)) :
    index ∈ items.map Prod.snd := by
  induction items generalizing place with
  | nil => exact h
  | cons item items ih =>
      rw [ofDocuments, List.filterMap_append, filterMap_document_ofDocument, List.mem_append] at h
      rw [List.map_cons, List.mem_cons]
      rcases h with h | h
      · exact .inl (List.eq_of_mem_replicate h)
      · exact .inr (ih h)

/-- Documents with indices of their own are visited in the order in which they are sent. -/
theorem dropRepeats_ofDocuments (stacking : Stacking) (place : Nat)
    {items : List (Document × Nat)} (h : (items.map Prod.snd).Nodup) :
    dropRepeats ((ofDocuments stacking place items).filterMap (·.document)) =
      (items.filter fun item => item.1.hasSheets).map Prod.snd := by
  -- The first document is not named again, so its run ends where the steps of the others begin.
  induction items generalizing place with
  | nil => rfl
  | cons item items ih =>
      obtain ⟨document, index⟩ := item
      rw [List.map_cons, List.nodup_cons] at h
      have hrest := ih (place + 1) h.2
      have hs := document.hasSheets_eq index
      rw [ofDocuments, List.filterMap_append, filterMap_document_ofDocument]
      cases hc : (document.sheets index).length with
      | zero =>
          rw [hc] at hs
          rw [List.filter_cons_of_neg (by simp [hs])]
          exact hrest
      | succ count =>
          rw [hc] at hs
          have hfresh : index ∉
              (ofDocuments stacking (place + 1) items).filterMap (·.document) := by
            intro hm
            exact h.1 (mem_filterMap_document_ofDocuments hm)
          rw [dropRepeats_replicate_append hfresh, hrest, List.filter_cons_of_pos (by simp [hs]),
            List.map_cons]

/-! ## Plans -/

/-- Choosing documents with their indices is choosing indices. -/
theorem map_snd_filter_order_zipIdx (documents : List Document) (stacking : Stacking)
    (p : Document → Bool) :
    ((stacking.order documents.zipIdx).filter fun item => p item.1).map Prod.snd =
      (stacking.order (List.range documents.length)).filter fun index =>
        documents[index]?.any p := by
  have hsnd : documents.zipIdx.map Prod.snd = List.range documents.length := by
    rw [List.zipIdx_map_snd, List.range_eq_range']
  rw [← hsnd, Stacking.order_map, List.filter_map]
  congr 1
  apply List.filter_congr
  intro item hi
  have hd := List.mem_zipIdx_iff_getElem?.mp (Stacking.mem_order.mp hi)
  simp [hd]

theorem visits_compose (documents : List Document) (stacking : Stacking) :
    (compose documents stacking).visits =
      (stacking.order (List.range documents.length)).filter fun index =>
        documents[index]?.any Document.hasSheets := by
  rw [← map_snd_filter_order_zipIdx]
  apply dropRepeats_ofDocuments
  rw [← Stacking.order_map, List.zipIdx_map_snd]
  exact (stacking.order_perm _).nodup_iff.mpr List.nodup_range'

theorem nodup_visits (documents : List Document) (stacking : Stacking) :
    (compose documents stacking).visits.Nodup := by
  rw [visits_compose]
  exact ((stacking.order_perm _).nodup_iff.mpr List.nodup_range).filter _

theorem mem_visits_iff (documents : List Document) (stacking : Stacking) (index : Nat) :
    index ∈ (compose documents stacking).visits ↔
      documents[index]?.any Document.hasSheets = true := by
  rw [visits_compose, List.mem_filter, Stacking.mem_order, List.mem_range, and_iff_right_iff_imp]
  intro h
  cases hd : documents[index]? with
  | none =>
      rw [hd] at h
      cases h
  | some document => exact (List.getElem?_eq_some_iff.mp hd).1

/-- The documents come up in the order of the tray, without those whose range has no page. Every
other one comes up once, and a tray that stacks face up turns the order round. -/
theorem visits_in_tray_order (documents : List Document) (stacking : Stacking) :
    (compose documents stacking).visits =
        ((stacking.order (List.range documents.length)).filter fun index =>
          documents[index]?.any Document.hasSheets) ∧
      (∀ index, (compose documents stacking).visits.count index =
        if documents[index]?.any Document.hasSheets then 1 else 0) ∧
      (compose documents .faceUp).visits = (compose documents .faceDown).visits.reverse := by
  refine ⟨visits_compose documents stacking, ?_, ?_⟩
  · intro index
    rw [List.Nodup.count (nodup_visits documents stacking)]
    simp only [mem_visits_iff]
  · rw [visits_compose, visits_compose]
    exact List.filter_reverse

/-- The document in the middle has a range without a page. -/
example :
    (compose [⟨⟨"a.pdf", pdfType, 3⟩, some ⟨"1-2", [1, 2]⟩⟩,
      ⟨⟨"b.pdf", pdfType, 3⟩, some ⟨",", []⟩⟩,
      ⟨⟨"c.jpg", "image/jpeg", 0⟩, none⟩] .faceUp).visits = [2, 0] := by decide

end Plan

end PrintJob
