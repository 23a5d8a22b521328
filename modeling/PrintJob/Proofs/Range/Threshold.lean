import PrintJob.Proofs.Job.Settling
import PrintJob.Proofs.Range.Selection

/-! # How many pages an expression asks for

The runs of an expression do not depend on the document. A document only decides whether it has all
of their pages, so what an expression selects is the same for every document that reaches its
largest page. -/

namespace PrintJob.Range

/-- The largest page of a list, and zero if it has none. -/
def largest (pages : List Nat) : Nat := pages.max?.getD 0

theorem largest_le_iff (pages : List Nat) (bound : Nat) :
    largest pages ≤ bound ↔ ∀ page ∈ pages, page ≤ bound := by
  rw [largest]
  cases hm : pages.max? with
  | none => simp [List.max?_eq_none_iff.mp hm]
  | some page => exact List.max?_le_iff hm

/-! ## Runs -/

/-- The largest page of a run is one of its ends. -/
theorem Run.pages_le_iff (run : Run) (bound : Nat) :
    (∀ page ∈ run.pages, page ≤ bound) ↔ run.first ≤ bound ∧ run.last ≤ bound := by
  constructor
  · intro h
    exact ⟨h run.first (Run.mem_pages.mpr (by omega)), h run.last (Run.mem_pages.mpr (by omega))⟩
  · rintro ⟨hf, hl⟩ page hp
    have hb := Run.mem_pages.mp hp
    omega

/-- A segment that a document accepts names the same run for every document that has its pages. -/
theorem selectRun_eq_ok_iff_of_selectRun {segment : List Char} {pageCount : Nat} {run : Run}
    (h : selectRun segment pageCount = .ok run) (other : Nat) (found : Run) :
    selectRun segment other = .ok found ↔
      (run.first ≤ other ∧ run.last ≤ other) ∧ found = run := by
  obtain ⟨hn, hp, _, rfl⟩ := (selectRun_eq_ok_iff _ _ _).mp h
  rw [selectRun_eq_ok_iff]
  simp only [Int.toNat_le]
  constructor
  · rintro ⟨_, _, hb, hr⟩
    exact ⟨hb, hr⟩
  · rintro ⟨hb, hr⟩
    exact ⟨hn, hp, hb, hr⟩

/-! ## Expressions -/

theorem selectRuns_eq_ok_iff_of_selectRuns {expression : List Char} {pageCount : Nat}
    {runs : List Run} (h : selectRuns expression pageCount = .ok runs) (other : Nat)
    (found : List Run) :
    selectRuns expression other = .ok found ↔
      (∀ run ∈ runs, run.first ≤ other ∧ run.last ≤ other) ∧ found = runs := by
  rw [selectRuns, mapM_eq_ok_iff] at h ⊢
  generalize segments expression = texts at h ⊢
  induction h generalizing found with
  | nil => simp
  | cons hs _ ih =>
      rw [List.forall₂_cons_left_iff, List.forall_mem_cons]
      simp only [ih, selectRun_eq_ok_iff_of_selectRun hs]
      constructor
      · rintro ⟨_, _, ⟨hb, rfl⟩, ⟨hbs, rfl⟩, rfl⟩
        exact ⟨⟨hb, hbs⟩, rfl⟩
      · rintro ⟨⟨hb, hbs⟩, rfl⟩
        exact ⟨_, _, ⟨hb, rfl⟩, ⟨hbs, rfl⟩, rfl⟩

/-- An expression that a document accepts is accepted by every document that has the largest of its
pages and by no other, and it selects the same pages from all of them. -/
theorem selectPages_eq_ok_iff_of_selectPages {expression : List Char} {pageCount : Nat}
    {pages : List Nat} (h : selectPages expression pageCount = .ok pages) (other : Nat)
    (found : List Nat) :
    selectPages expression other = .ok found ↔ largest pages ≤ other ∧ found = pages := by
  obtain ⟨runs, hr, rfl⟩ := (selectPages_eq_ok_iff _ _ _).mp h
  have hreach : largest (runs.flatMap Run.pages) ≤ other ↔
      ∀ run ∈ runs, run.first ≤ other ∧ run.last ≤ other := by
    simp only [largest_le_iff, List.forall_mem_flatMap, Run.pages_le_iff]
  rw [hreach, selectPages_eq_ok_iff]
  constructor
  · rintro ⟨others, ho, rfl⟩
    obtain ⟨hb, rfl⟩ := (selectRuns_eq_ok_iff_of_selectRuns hr other others).mp ho
    exact ⟨hb, rfl⟩
  · rintro ⟨hb, rfl⟩
    exact ⟨runs, (selectRuns_eq_ok_iff_of_selectRuns hr other runs).mpr ⟨hb, rfl⟩, rfl⟩

/-- A document that lacks the largest page of an expression is printed in full, and so is any
document where the expression is empty. -/
theorem resolve_eq_of_selectPages {text : String} {pageCount : Nat} {pages : List Nat}
    (h : selectPages text.toList pageCount = .ok pages) (other : Nat) :
    resolve (some text) other =
      if text ≠ "" ∧ largest pages ≤ other then ⟨text, pages⟩ else .whole other := by
  by_cases ht : text = ""
  · simp [resolve, ht]
  · by_cases hb : largest pages ≤ other
    · have hs := (selectPages_eq_ok_iff_of_selectPages h other pages).mpr ⟨hb, rfl⟩
      simp [resolve, ht, hb, hs]
    · cases hs : selectPages text.toList other with
      | error e => simp [resolve, ht, hb, hs]
      | ok found => exact absurd ((selectPages_eq_ok_iff_of_selectPages h other found).mp hs).1 hb

/-! ## Documents of a job -/

/-- Whether an accepted expression is accepted by a document depends only on whether the document
has the largest page that the expression selects, and what it selects never does. So one expression
for the documents of a job prints the same pages of every document that is long enough and all pages
of any other; the empty expression selects nothing, and it prints all pages of every document. -/
theorem selects_same_from_largest_on {text : String} {pageCount : Nat} {pages : List Nat}
    (h : selectPages text.toList pageCount = .ok pages) :
    (∀ other found,
      selectPages text.toList other = .ok found ↔ largest pages ≤ other ∧ found = pages) ∧
    ∀ descriptors params capabilities settled, params.pageRange = some text →
      SettledJob.ofDescriptors descriptors params capabilities = .ok settled →
      ∀ document ∈ settled.documents, document.descriptor.hasPages = true →
        document.range = some
          (if text ≠ "" ∧ largest pages ≤ document.descriptor.pageCount.toNat then ⟨text, pages⟩
          else .whole document.descriptor.pageCount.toNat) := by
  refine ⟨selectPages_eq_ok_iff_of_selectPages h, ?_⟩
  intro descriptors params capabilities settled hr hs document hm hp
  rw [(SettledJob.settles hs).documents, hr] at hm
  obtain ⟨descriptor, _, rfl⟩ := List.mem_map.mp hm
  have hrange : (Document.ofDescriptor descriptor (some text)).range =
      some (resolve (some text) descriptor.pageCount.toNat) := if_pos hp
  rw [hrange, resolve_eq_of_selectPages h]
  rfl

/-- A document that has the fourth page, and one that lacks it. -/
theorem selects_same_from_largest_on_two_documents :
    let long : Descriptor := ⟨"a.pdf", pdfType, 4⟩
    let short : Descriptor := ⟨"b.pdf", pdfType, 3⟩
    let params : Parameters := { pageRange := some "2-1,4" }
    selectPages "2-1,4".toList 9 = .ok [2, 1, 4] ∧
      selectPages "2-1,4".toList 4 = .ok [2, 1, 4] ∧
      ∃ settled, SettledJob.ofDescriptors [long, short] params {} = .ok settled ∧
        settled.documents.map Document.range =
          [some ⟨"2-1,4", [2, 1, 4]⟩, some ⟨"1-3", [1, 2, 3]⟩] := by
  intro long short params
  have h : selectPages "2-1,4".toList 9 = .ok [2, 1, 4] := by decide
  have hs : SettledJob.ofDescriptors [long, short] params {} =
      .ok (.settle long [long, short] params {}) := rfl
  have hdocuments : (SettledJob.settle long [long, short] params {}).documents =
      [.ofDescriptor long (some "2-1,4"), .ofDescriptor short (some "2-1,4")] := rfl
  have hrange := (selects_same_from_largest_on h).2 _ _ _ _ rfl hs
  rw [hdocuments] at hrange
  refine ⟨h, ((selects_same_from_largest_on h).1 4 _).mpr ⟨by decide, rfl⟩, _, hs, ?_⟩
  rw [hdocuments, List.map_cons, List.map_cons, hrange _ (by simp) rfl, hrange _ (by simp) rfl]
  decide

/-- The empty expression selects no page at all, and yet it prints one page of one document and two
pages of another. -/
theorem not_forall_same_from_largest_on :
    ¬ ∀ (text : String) (pageCount : Nat) (pages : List Nat),
      selectPages text.toList pageCount = .ok pages →
      ∀ one other, largest pages ≤ one → largest pages ≤ other →
        (resolve (some text) one).pages = (resolve (some text) other).pages := by
  intro h
  have hnothing : selectPages "".toList 0 = .ok [] := rfl
  have heq := h "" 0 [] hnothing 1 2 (Nat.zero_le 1) (Nat.zero_le 2)
  exact absurd heq (by decide)

end PrintJob.Range
