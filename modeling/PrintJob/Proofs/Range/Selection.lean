import PrintJob.Proofs.Range.Bounds
import PrintJob.Range.Expression
import Mathlib.Data.List.Forall2

/-! # Selected pages

An accepted expression selects the runs of its segments one after another, and
every run stays within its document and within four digits. Only separators select nothing at
all. -/

namespace PrintJob.Range

/-! ## Runs -/

/-- Both ends of a run are pages of the document. -/
structure Run.Within (pageCount : Nat) (run : Run) : Prop where
  first_pos : 1 ≤ run.first
  first_le : run.first ≤ pageCount
  last_pos : 1 ≤ run.last
  last_le : run.last ≤ pageCount

theorem Run.Within.page_bounds {pageCount page : Nat} {run : Run} (h : run.Within pageCount)
    (hp : page ∈ run.pages) : 1 ≤ page ∧ page ≤ pageCount := by
  have hb := Run.mem_pages.mp hp
  have hf := h.first_pos
  have hl := h.last_pos
  have hf' := h.first_le
  have hl' := h.last_le
  omega

/-- The last page of a document that a bound can name. -/
def lastNamed (pageCount : Nat) : Nat := min pageCount 9999

theorem lastNamed_le (pageCount : Nat) : lastNamed pageCount ≤ pageCount := Nat.min_le_left _ _

/-! ## Segments -/

/-- The page that the second bound of a segment stands for: a zero repeats the first one. -/
def lastPage (first second : Int) : Int := if second = 0 then first else second

/-- A segment is accepted exactly if both bounds are numerals for pages of the document. -/
theorem selectRun_eq_ok_iff (segment : List Char) (pageCount : Nat) (run : Run) :
    selectRun segment pageCount = .ok run ↔
      let bounds := Bounds.ofSegment segment
      let first := initialInteger bounds.firstText
      let last := lastPage first (initialInteger bounds.lastText)
      (isLiteral bounds.firstText = true ∧ isLiteral bounds.lastText = true) ∧
        (0 < first ∧ 0 < last) ∧ (first ≤ pageCount ∧ last ≤ pageCount) ∧
        run = ⟨first.toNat, last.toNat⟩ := by
  dsimp only [selectRun, lastPage]
  generalize Bounds.ofSegment segment = bounds
  generalize initialInteger bounds.firstText = first
  generalize (if initialInteger bounds.lastText = 0 then first
    else initialInteger bounds.lastText) = last
  split
  · rename_i hn
    constructor
    · intro h; cases h
    · rintro ⟨⟨hf, hl⟩, _⟩
      simp [hf, hl] at hn
  · rename_i hn
    split
    · rename_i hp
      constructor
      · intro h; cases h
      · rintro ⟨_, hpos, _⟩
        omega
    · rename_i hp
      split
      · rename_i hb
        constructor
        · intro h; cases h
        · rintro ⟨_, _, hle, _⟩
          omega
      · rename_i hb
        constructor
        · rintro ⟨⟩
          refine ⟨by simpa using hn, ?_, ?_, rfl⟩ <;> omega
        · rintro ⟨_, _, _, rfl⟩
          rfl

/-- Both ends of an accepted run are pages of the document, and no bound has a fifth digit. -/
theorem within_of_selectRun {segment : List Char} {pageCount : Nat} {run : Run}
    (h : selectRun segment pageCount = .ok run) : run.Within (lastNamed pageCount) := by
  obtain ⟨_, ⟨hf, hl⟩, ⟨hf', hl'⟩, rfl⟩ := (selectRun_eq_ok_iff segment pageCount run).mp h
  have hfits := Bounds.fits_ofSegment segment
  have hb := initialInteger_le hfits.length_firstText_le
  have hb' : lastPage (initialInteger (Bounds.ofSegment segment).firstText)
      (initialInteger (Bounds.ofSegment segment).lastText) ≤ 9999 := by
    unfold lastPage
    split
    · exact hb
    · exact initialInteger_le hfits.length_lastText_le
  constructor <;> simp only [lastNamed, Nat.le_min] <;> omega

/-! ## Expressions -/

/-- The runs of all segments of an expression, or the error of the first segment that has one. -/
def selectRuns (expression : List Char) (pageCount : Nat) : Except SegmentError (List Run) :=
  (segments expression).mapM fun segment => selectRun segment pageCount

theorem mapM_eq_ok_iff {α β ε : Type} (f : α → Except ε β) (xs : List α) (ys : List β) :
    xs.mapM f = .ok ys ↔ List.Forall₂ (fun x y => f x = .ok y) xs ys := by
  induction xs generalizing ys with
  | nil => simp [pure, Except.pure, eq_comm]
  | cons x xs ih =>
      rw [List.mapM_cons, List.forall₂_cons_left_iff]
      cases hx : f x with
      | error e => simp [bind, Except.bind]
      | ok y =>
          cases hxs : xs.mapM f with
          | error e => simp [bind, Except.bind, ← ih, hxs]
          | ok rest => simp [bind, Except.bind, pure, Except.pure, ← ih, hxs, eq_comm]

/-- Reading segments one after another appends the pages of their runs in order. -/
theorem appendSegments_eq (pageCount : Nat) (segments : List (List Char)) (pages : List Nat) :
    appendSegments pageCount segments pages =
      (segments.mapM fun segment => selectRun segment pageCount).map
        fun runs => pages ++ runs.flatMap Run.pages := by
  induction segments generalizing pages with
  | nil => simp [appendSegments, pure, Except.pure, Except.map]
  | cons segment rest ih =>
      rw [appendSegments, appendSegment, List.mapM_cons]
      cases selectRun segment pageCount with
      | error e => rfl
      | ok run =>
          dsimp only
          rw [ih]
          cases rest.mapM fun segment => selectRun segment pageCount with
          | error e => rfl
          | ok runs => simp [bind, Except.bind, pure, Except.pure, Except.map]

theorem selectPages_eq (expression : List Char) (pageCount : Nat) :
    selectPages expression pageCount =
      (selectRuns expression pageCount).map fun runs => runs.flatMap Run.pages := by
  simp [selectPages, selectRuns, appendSegments_eq]

theorem selectPages_eq_ok_iff (expression : List Char) (pageCount : Nat) (pages : List Nat) :
    selectPages expression pageCount = .ok pages ↔
      ∃ runs, selectRuns expression pageCount = .ok runs ∧ pages = runs.flatMap Run.pages := by
  rw [selectPages_eq]
  cases selectRuns expression pageCount <;> simp [Except.map, eq_comm]

theorem within_of_selectRuns {expression : List Char} {pageCount : Nat} {runs : List Run}
    (h : selectRuns expression pageCount = .ok runs) :
    ∀ run ∈ runs, run.Within (lastNamed pageCount) := by
  have hf : List.Forall₂ (fun run segment => selectRun segment pageCount = .ok run) runs
      (segments expression) := ((mapM_eq_ok_iff _ _ _).mp h).flip
  exact ((List.forall₂_and_left _ _).mp (hf.imp fun _ _ hs => ⟨within_of_selectRun hs, hs⟩)).1

theorem named_of_selectPages {expression : List Char} {pageCount page : Nat}
    {pages : List Nat} (h : selectPages expression pageCount = .ok pages) (hp : page ∈ pages) :
    1 ≤ page ∧ page ≤ lastNamed pageCount := by
  obtain ⟨runs, hr, rfl⟩ := (selectPages_eq_ok_iff _ _ _).mp h
  obtain ⟨run, hm, hp⟩ := List.mem_flatMap.mp hp
  exact (within_of_selectRuns hr run hm).page_bounds hp

theorem page_bounds_of_selectPages {expression : List Char} {pageCount page : Nat}
    {pages : List Nat} (h : selectPages expression pageCount = .ok pages) (hp : page ∈ pages) :
    1 ≤ page ∧ page ≤ pageCount := by
  obtain ⟨hf, hl⟩ := named_of_selectPages h hp
  exact ⟨hf, hl.trans (lastNamed_le pageCount)⟩

/-- An expression that is given and accepted is shown as it is; any other one stands for the
whole document. -/
theorem resolve_cases (expression : Option String) (pageCount : Nat) :
    (∃ text pages, expression = some text ∧ text ≠ "" ∧
      selectPages text.toList pageCount = .ok pages ∧
      resolve expression pageCount = ⟨text, pages⟩) ∨
    (∀ text pages, expression = some text → text ≠ "" →
      selectPages text.toList pageCount ≠ .ok pages) ∧
      resolve expression pageCount = .whole pageCount := by
  cases expression with
  | none => exact .inr ⟨by simp, rfl⟩
  | some text =>
      by_cases ht : text = ""
      · refine .inr ⟨?_, by simp [resolve, ht]⟩
        intro text' pages he hne
        obtain rfl := Option.some.inj he
        exact absurd ht hne
      · cases hs : selectPages text.toList pageCount with
        | ok pages => exact .inl ⟨text, pages, rfl, ht, hs, by simp [resolve, ht, hs]⟩
        | error e =>
            refine .inr ⟨?_, by simp [resolve, ht, hs]⟩
            intro text' pages he _
            obtain rfl := Option.some.inj he
            simp [hs]

theorem page_bounds_of_wholePages {pageCount page : Nat} (h : page ∈ wholePages pageCount) :
    1 ≤ page ∧ page ≤ pageCount := by
  have hb := List.mem_range'_1.mp h
  omega

/-- No range has a page outside its document. -/
theorem page_bounds_of_resolve {expression : Option String} {pageCount page : Nat}
    (h : page ∈ (resolve expression pageCount).pages) : 1 ≤ page ∧ page ≤ pageCount := by
  rcases resolve_cases expression pageCount with ⟨text, pages, _, _, hs, hr⟩ | ⟨_, hr⟩
  · rw [hr] at h
    exact page_bounds_of_selectPages hs h
  · rw [hr] at h
    exact page_bounds_of_wholePages h

/-! ## Expressions that select nothing -/

/-- Only separators leave an expression without segments. -/
theorem segments_eq_nil_iff (expression : List Char) :
    segments expression = [] ↔ ∀ c ∈ expression, c = ',' := by
  have hf : segments expression = [] ↔ (Text.pieces ',' expression).flatten = [] := by
    simp [segments, List.filter_eq_nil_iff, List.flatten_eq_nil_iff]
  rw [hf, Text.flatten_pieces]
  simp [List.filter_eq_nil_iff]

theorem selectPages_eq_ok_nil_iff (expression : List Char) (pageCount : Nat) :
    selectPages expression pageCount = .ok [] ↔ ∀ c ∈ expression, c = ',' := by
  have hr : selectRuns expression pageCount = .ok [] ↔ segments expression = [] := by
    rw [selectRuns, mapM_eq_ok_iff, List.forall₂_nil_right_iff]
  rw [← segments_eq_nil_iff, ← hr, selectPages_eq_ok_iff]
  constructor
  · rintro ⟨runs, hs, hp⟩
    cases runs with
    | nil => exact hs
    | cons run rest =>
        have hrun : run.pages = [] := (List.append_eq_nil_iff.mp hp.symm).1
        exact absurd hrun run.pages_ne_nil
  · intro h
    exact ⟨[], h, rfl⟩

/-- A document with pages prints none of them exactly if its expression is a text of separators:
such a text is neither empty nor wrong, and it selects nothing. -/
theorem resolve_pages_eq_nil_iff (expression : Option String) (pageCount : Nat) :
    (resolve expression pageCount).pages = [] ↔
      pageCount = 0 ∨ ∃ text, expression = some text ∧ text ≠ "" ∧ ∀ c ∈ text.toList, c = ',' := by
  rcases resolve_cases expression pageCount with ⟨text, pages, rfl, ht, hs, hr⟩ | ⟨hn, hr⟩
  · rw [hr]
    constructor
    · intro hp
      subst hp
      exact .inr ⟨text, rfl, ht, (selectPages_eq_ok_nil_iff _ _).mp hs⟩
    · rintro (hz | ⟨text', he, _, hc⟩)
      · apply List.eq_nil_iff_forall_not_mem.mpr
        intro page hp
        have hb := page_bounds_of_selectPages hs hp
        omega
      · obtain rfl := Option.some.inj he
        rw [(selectPages_eq_ok_nil_iff _ _).mpr hc] at hs
        exact (Except.ok.inj hs).symm
  · rw [hr]
    constructor
    · intro hp
      exact .inl (by simpa [Resolved.whole, wholePages] using hp)
    · rintro (hz | ⟨text, he, ht, hc⟩)
      · simp [Resolved.whole, wholePages, hz]
      · exact absurd ((selectPages_eq_ok_nil_iff _ _).mpr hc) (hn text [] he ht)

/-- A lone separator is accepted and prints nothing of a document of three pages. -/
theorem not_forall_resolve_pages_ne_nil :
    ¬ ∀ (expression : Option String) (pageCount : Nat), 1 ≤ pageCount →
      (resolve expression pageCount).pages ≠ [] := by
  intro h
  have hp : (resolve (some ",") 3).pages = [] := by decide
  exact h (some ",") 3 (by decide) hp

end PrintJob.Range
