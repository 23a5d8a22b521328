import PrintJob.Job.Plan
import Mathlib.Data.List.Basic

/-! # Stacking

A tray puts the sheets of a job on one another. Taken from it in reading order, they are the
documents one after another with their pages as chosen, however the tray stacks them. -/

namespace PrintJob

/-- What a step prints: a page of a document, or a document as a whole. -/
inductive Sheet where
  | page (document number : Nat)
  | whole (document : Nat)
  deriving DecidableEq, Repr

/-- The sheets of a document in reading order. -/
def Document.sheets (document : Document) (index : Nat) : List Sheet :=
  match document.range with
  | some range => range.pages.map (.page index)
  | none => [.whole index]

/-- The sheets of a job in reading order: its documents one after another. -/
def readingOrder (documents : List Document) : List Sheet :=
  documents.zipIdx.flatMap fun item => item.1.sheets item.2

/-- The sheet of a step. Only the pages of a document with a range are told apart. -/
def PageStep.sheet? (documents : List Document) (step : PageStep) : Option Sheet :=
  step.document.bind fun index =>
    documents[index]?.map fun document =>
      if document.range.isSome then .page index step.pageNumber else .whole index

/-- The place of a document among those sent, counted from one. -/
def Stacking.place (stacking : Stacking) (count index : Nat) : Nat :=
  match stacking with
  | .faceDown => index + 1
  | .faceUp => count - index

theorem Stacking.place_bounds (stacking : Stacking) {count index : Nat} (h : index < count) :
    1 ≤ stacking.place count index ∧ stacking.place count index ≤ count := by
  cases stacking <;> simp only [place] <;> omega

namespace Plan

/-! ## One document -/

/-- In reading order the steps of a document do not depend on the tray. -/
theorem order_ofDocument (stacking : Stacking) (index place : Nat) (document : Document) :
    stacking.order (ofDocument stacking index place document) =
      ofDocument .faceDown index place document := by
  unfold ofDocument
  cases document.range with
  | some range =>
      dsimp only
      rw [Stacking.order_map, Stacking.order_order]
      rfl
  | none => cases stacking <;> rfl

theorem mem_ofDocument_iff (stacking : Stacking) (index place : Nat) (document : Document)
    (step : PageStep) :
    step ∈ ofDocument stacking index place document ↔
      (∃ range, document.range = some range ∧
        ∃ number ∈ range.pages, step = .page index number document.descriptor.path true) ∨
      (document.range = none ∧ step = .page index place document.descriptor.path false) := by
  unfold ofDocument
  cases document.range with
  | some range => simp [eq_comm]
  | none => simp

theorem document_of_mem_ofDocument {stacking : Stacking} {index place : Nat}
    {document : Document} {step : PageStep} (h : step ∈ ofDocument stacking index place document) :
    step.document = some index := by
  rcases (mem_ofDocument_iff _ _ _ _ _).mp h with ⟨_, _, _, _, rfl⟩ | ⟨_, rfl⟩
  · rfl
  · rfl

/-- A document takes a step for each of its sheets. -/
theorem length_ofDocument (stacking : Stacking) (index place : Nat) (document : Document) :
    (ofDocument stacking index place document).length = (document.sheets index).length := by
  unfold ofDocument Document.sheets
  cases document.range with
  | some range => simp
  | none => rfl

/-! ## All documents -/

theorem ofDocuments_append (stacking : Stacking) (place : Nat) (xs ys : List (Document × Nat)) :
    ofDocuments stacking place (xs ++ ys) =
      ofDocuments stacking place xs ++ ofDocuments stacking (place + xs.length) ys := by
  induction xs generalizing place with
  | nil => rfl
  | cons x xs ih =>
      simp only [List.cons_append, ofDocuments, ih, List.length_cons, List.append_assoc]
      rw [Nat.add_assoc, Nat.add_comm 1 xs.length]

theorem ofDocuments_faceDown (documents : List Document) (start : Nat) :
    ofDocuments .faceDown (start + 1) (documents.zipIdx start) =
      (documents.zipIdx start).flatMap fun item =>
        ofDocument .faceDown item.2 (item.2 + 1) item.1 := by
  induction documents generalizing start with
  | nil => rfl
  | cons document rest ih =>
      rw [List.zipIdx_cons, ofDocuments, List.flatMap_cons, ih]

/-- The last document is sent first, so the places count down from the number of documents. -/
theorem reverse_ofDocuments_faceUp (documents : List Document) (start count : Nat)
    (h : start + documents.length = count) :
    (ofDocuments .faceUp 1 (documents.zipIdx start).reverse).reverse =
      (documents.zipIdx start).flatMap fun item =>
        ofDocument .faceDown item.2 (count - item.2) item.1 := by
  induction documents generalizing start with
  | nil => rfl
  | cons document rest ih =>
      simp only [List.length_cons] at h
      have hp : 1 + rest.length = count - start := by omega
      have hd : (ofDocument .faceUp start (count - start) document).reverse =
          ofDocument .faceDown start (count - start) document :=
        order_ofDocument .faceUp _ _ _
      rw [List.zipIdx_cons, List.reverse_cons, ofDocuments_append, List.reverse_append,
        ih (start + 1) (by omega), List.flatMap_cons, List.length_reverse, List.length_zipIdx, hp]
      simp only [ofDocuments, List.append_nil, hd]

/-- In reading order the steps are those of the documents one after another. The tray only decides
how a document sent as a whole is numbered. -/
theorem order_steps (documents : List Document) (stacking : Stacking) :
    stacking.order (compose documents stacking).steps =
      documents.zipIdx.flatMap fun item =>
        ofDocument .faceDown item.2 (stacking.place documents.length item.2) item.1 := by
  cases stacking with
  | faceDown => exact ofDocuments_faceDown documents 0
  | faceUp => exact reverse_ofDocuments_faceUp documents 0 documents.length (Nat.zero_add _)

/-- Every step of a plan belongs to one of its documents. -/
theorem mem_steps_iff (documents : List Document) (stacking : Stacking) (step : PageStep) :
    step ∈ (compose documents stacking).steps ↔
      ∃ index document, documents[index]? = some document ∧
        step ∈ ofDocument .faceDown index (stacking.place documents.length index) document := by
  have hm : step ∈ stacking.order (compose documents stacking).steps ↔
      step ∈ (compose documents stacking).steps := Stacking.mem_order
  rw [← hm, order_steps, List.mem_flatMap]
  constructor
  · rintro ⟨⟨document, index⟩, hi, hs⟩
    exact ⟨index, document, List.mem_zipIdx_iff_getElem?.mp hi, hs⟩
  · rintro ⟨index, document, hi, hs⟩
    exact ⟨(document, index), List.mem_zipIdx_iff_getElem?.mpr hi, hs⟩

theorem eq_page_of_mem_steps {documents : List Document} {stacking : Stacking} {step : PageStep}
    (h : step ∈ (compose documents stacking).steps) :
    ∃ index number path pdf, step = .page index number path pdf := by
  obtain ⟨index, document, _, hm⟩ := (mem_steps_iff _ _ _).mp h
  rcases (mem_ofDocument_iff _ _ _ _ _).mp hm with ⟨_, _, number, _, rfl⟩ | ⟨_, rfl⟩
  · exact ⟨index, number, _, true, rfl⟩
  · exact ⟨index, _, _, false, rfl⟩

/-! ## The stack -/

theorem map_sheet?_ofDocument {documents : List Document} {index : Nat} {document : Document}
    (h : documents[index]? = some document) (place : Nat) :
    (ofDocument .faceDown index place document).map (PageStep.sheet? documents) =
      (document.sheets index).map some := by
  unfold ofDocument Document.sheets
  cases hr : document.range with
  | some range => simp [Stacking.order, PageStep.sheet?, PageStep.page, h, hr]
  | none => simp [PageStep.sheet?, PageStep.page, h, hr]

/-- Either tray holds the sheets of the job in reading order. Every step carries the path of its
document, and passes the content through exactly if the document has a range. -/
theorem stacked_in_reading_order (documents : List Document) (stacking : Stacking) :
    (stacking.order (compose documents stacking).steps).map (PageStep.sheet? documents) =
        (readingOrder documents).map some ∧
      (∀ step ∈ (compose documents stacking).steps, ∃ index document,
        step.document = some index ∧ documents[index]? = some document ∧
        step.content = some document.descriptor.path ∧
        step.pdfPassthrough = document.range.isSome ∧
        (document.range = none → step.pageNumber = stacking.place documents.length index)) ∧
      (compose documents stacking).endMarker.pageNumber = documents.length + 1 := by
  refine ⟨?_, ?_, rfl⟩
  · rw [order_steps, readingOrder, List.map_flatMap, List.map_flatMap]
    apply List.flatMap_congr
    intro item hi
    exact map_sheet?_ofDocument (List.mem_zipIdx_iff_getElem?.mp hi) _
  · intro step hs
    obtain ⟨index, document, hi, hm⟩ := (mem_steps_iff documents stacking step).mp hs
    refine ⟨index, document, ?_⟩
    rcases (mem_ofDocument_iff _ _ _ _ _).mp hm with ⟨range, hr, number, _, rfl⟩ | ⟨hr, rfl⟩
    · exact ⟨rfl, hi, rfl, by simp [PageStep.page, hr], by simp [hr]⟩
    · exact ⟨rfl, hi, rfl, by simp [PageStep.page, hr], fun _ => rfl⟩

/-- A range that goes down and repeats a page, before a picture, in a tray that stacks face up. -/
theorem stacked_in_reading_order_face_up :
    let picture : Document := ⟨⟨"b.jpg", "image/jpeg", 0⟩, none⟩
    let documents : List Document := [⟨⟨"a.pdf", pdfType, 9⟩, some ⟨"3-2,3", [3, 2, 3]⟩⟩, picture]
    (Stacking.faceUp.order (compose documents .faceUp).steps).map (PageStep.sheet? documents) =
        [some (.page 0 3), some (.page 0 2), some (.page 0 3), some (.whole 1)] ∧
      PageStep.page 1 1 "b.jpg" false ∈ (compose documents .faceUp).steps ∧
      ∃ index document, some 1 = some index ∧ documents[index]? = some document ∧
        some "b.jpg" = some document.descriptor.path ∧ false = document.range.isSome ∧
        (document.range = none → 1 = Stacking.faceUp.place documents.length index) := by
  intro picture documents
  have h := stacked_in_reading_order documents .faceUp
  have hm : PageStep.page 1 1 "b.jpg" false ∈ (compose documents .faceUp).steps := by decide
  exact ⟨h.1, hm, h.2.1 _ hm⟩

end Plan

end PrintJob
