import PrintJob.Text.Numeral

/-! # Runs of pages

A run goes from one page to another, upwards or downwards. -/

namespace PrintJob.Range

structure Run where
  first : Nat
  last : Nat
  deriving DecidableEq, Repr

namespace Run

/-- The pages of a run in order. -/
def pages (run : Run) : List Nat :=
  if run.first ≤ run.last then List.range' run.first (run.last + 1 - run.first)
  else (List.range' run.last (run.first + 1 - run.last)).reverse

/-- The shortest expression for a run. -/
def text (run : Run) : List Char :=
  if run.first = run.last then Text.decimal run.first
  else Text.decimal run.first ++ '-' :: Text.decimal run.last

/-- The expression for runs one after another. -/
def listText : List Run → List Char
  | [] => []
  | [run] => run.text
  | run :: rest => run.text ++ ',' :: listText rest

/-- A run has no other pages than those between its ends. -/
theorem mem_pages {run : Run} {page : Nat} :
    page ∈ run.pages ↔ min run.first run.last ≤ page ∧ page ≤ max run.first run.last := by
  unfold pages
  split <;> simp [List.mem_range'_1] <;> omega

/-- A run has a page: its first one. -/
theorem pages_ne_nil (run : Run) : run.pages ≠ [] := by
  intro h
  have hm : run.first ∈ run.pages := mem_pages.mpr ⟨Nat.min_le_left _ _, Nat.le_max_left _ _⟩
  simp [h] at hm

end Run

end PrintJob.Range
