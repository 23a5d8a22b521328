import PrintJob.Proofs.Range.Selection

/-! # Expressions put together

An expression is read piece by piece, so two expressions with a comma between them select what each
of them selects, one after the other. A single piece that is refused leaves nothing of what the
others select. -/

namespace PrintJob.Range

/-! ## Two expressions -/

/-- A comma joins the segments of two expressions. -/
theorem segments_append_comma (first second : List Char) :
    segments (first ++ ',' :: second) = segments first ++ segments second := by
  rw [segments, Text.pieces_append_separator, List.filter_append]
  rfl

theorem selectRuns_append_comma (first second : List Char) (pageCount : Nat) :
    selectRuns (first ++ ',' :: second) pageCount = do
      let runs ← selectRuns first pageCount
      let more ← selectRuns second pageCount
      return runs ++ more := by
  simp only [selectRuns, segments_append_comma, List.mapM_append]

/-- Two expressions with a comma between them are accepted exactly if both are, and then their
pages are joined as they are. -/
theorem selectPages_append_comma_eq_ok_iff (first second : List Char) (pageCount : Nat)
    (pages : List Nat) :
    selectPages (first ++ ',' :: second) pageCount = .ok pages ↔
      ∃ before after, selectPages first pageCount = .ok before ∧
        selectPages second pageCount = .ok after ∧ pages = before ++ after := by
  simp only [selectPages_eq, selectRuns_append_comma]
  cases selectRuns first pageCount with
  | error e => simp [Except.map, bind, Except.bind]
  | ok runs =>
      cases selectRuns second pageCount with
      | error e => simp [Except.map, bind, Except.bind]
      | ok more => simp [Except.map, bind, Except.bind, pure, Except.pure, eq_comm]

/-! ## Refused segments -/

/-- A traversal fails exactly if one of its elements does. -/
theorem mapM_eq_error_iff {α β ε : Type} (f : α → Except ε β) (xs : List α) :
    (∃ error, xs.mapM f = .error error) ↔ ∃ x ∈ xs, ∃ error, f x = .error error := by
  induction xs with
  | nil => simp [pure, Except.pure]
  | cons x xs ih =>
      rw [List.mapM_cons]
      cases hx : f x with
      | error e => simp [bind, Except.bind, hx]
      | ok y =>
          rw [List.exists_mem_cons_iff, ← ih]
          cases xs.mapM f with
          | error e => simp [bind, Except.bind]
          | ok rest => simp [bind, Except.bind, pure, Except.pure, hx]

/-- Some segment of an expression selects no run of the document. -/
def Refused (expression : List Char) (pageCount : Nat) : Prop :=
  ∃ segment ∈ segments expression, ∃ error, selectRun segment pageCount = .error error

theorem selectPages_eq_error_iff (expression : List Char) (pageCount : Nat) :
    (∃ error, selectPages expression pageCount = .error error) ↔
      Refused expression pageCount := by
  rw [Refused, ← mapM_eq_error_iff, ← selectRuns, selectPages_eq]
  cases selectRuns expression pageCount <;> simp [Except.map]

/-- An expression with a refused segment stands for the whole document. -/
theorem resolve_of_refused {text : String} {pageCount : Nat} (h : Refused text.toList pageCount) :
    resolve (some text) pageCount = .whole pageCount := by
  obtain ⟨error, he⟩ := (selectPages_eq_error_iff _ _).mpr h
  simp [resolve, he]

/-! ## All or nothing -/

/-- Expressions are concatenated without sorting or thinning out, and they are accepted as a whole
or not at all: a refused segment anywhere turns the expression into the whole document, and without
one the runs of all segments are printed one after another. -/
theorem resolve_all_or_nothing (pageCount : Nat) :
    (∀ (first second : List Char) (pages : List Nat),
      selectPages (first ++ ',' :: second) pageCount = .ok pages ↔
        ∃ before after, selectPages first pageCount = .ok before ∧
          selectPages second pageCount = .ok after ∧ pages = before ++ after) ∧
    ∀ text : String, text ≠ "" →
      (Refused text.toList pageCount →
        resolve (some text) pageCount = ⟨wholeText pageCount, wholePages pageCount⟩) ∧
      (¬ Refused text.toList pageCount →
        ∃ runs, List.Forall₂ (fun segment run => selectRun segment pageCount = .ok run)
            (segments text.toList) runs ∧
          resolve (some text) pageCount = ⟨text, runs.flatMap Run.pages⟩) := by
  refine ⟨fun first second pages =>
    selectPages_append_comma_eq_ok_iff first second pageCount pages, ?_⟩
  intro text ht
  refine ⟨resolve_of_refused, fun hn => ?_⟩
  cases hs : selectRuns text.toList pageCount with
  | error e => exact absurd ((mapM_eq_error_iff _ _).mp ⟨e, hs⟩) hn
  | ok runs =>
      have hp : selectPages text.toList pageCount = .ok (runs.flatMap Run.pages) := by
        rw [selectPages_eq, hs]
        rfl
      exact ⟨runs, (mapM_eq_ok_iff _ _ _).mp hs, by simp [resolve, ht, hp]⟩

/-- An expression with an empty piece, for a document that has all its pages and for a shorter one
that lacks the last. -/
theorem resolve_all_or_nothing_last_refused :
    "3-2,,9" ≠ "" ∧
      (¬ Refused "3-2,,9".toList 9 ∧ resolve (some "3-2,,9") 9 = ⟨"3-2,,9", [3, 2, 9]⟩) ∧
      (Refused "3-2,,9".toList 5 ∧ resolve (some "3-2,,9") 5 = ⟨"1-5", [1, 2, 3, 4, 5]⟩) := by
  have hne : "3-2,,9" ≠ "" := by decide
  have hshort : selectPages "3-2,,9".toList 5 = .error (.outOfBounds 9 9 5) := by decide
  have hlong : selectPages "3-2,,9".toList 9 = .ok [3, 2, 9] := by decide
  have hrefused : Refused "3-2,,9".toList 5 := (selectPages_eq_error_iff _ _).mp ⟨_, hshort⟩
  have haccepted : ¬ Refused "3-2,,9".toList 9 := by
    intro h
    obtain ⟨error, he⟩ := (selectPages_eq_error_iff _ _).mpr h
    rw [hlong] at he
    cases he
  refine ⟨hne, ⟨haccepted, ?_⟩, hrefused, ?_⟩
  · obtain ⟨runs, hr, heq⟩ := ((resolve_all_or_nothing 9).2 "3-2,,9" hne).2 haccepted
    have hpages : selectPages "3-2,,9".toList 9 = .ok (runs.flatMap Run.pages) :=
      (selectPages_eq_ok_iff _ _ _).mpr ⟨runs, (mapM_eq_ok_iff _ _ _).mpr hr, rfl⟩
    rw [heq, ← Except.ok.inj (hpages.symm.trans hlong)]
  · exact ((resolve_all_or_nothing 5).2 "3-2,,9" hne).1 hrefused

end PrintJob.Range
