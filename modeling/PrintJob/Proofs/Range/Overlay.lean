import PrintJob.Proofs.Range.Outcomes

/-! # Tokens as overlays

What a token shows after any pushes and rewinds: the blocks of characters between the rewinds are
laid over one another. So the text never grows past the width of the token and never gets shorter.
Kept in a row of four cells, the token neither writes nor reads outside of the row. -/

namespace PrintJob.Range

namespace Token

/-! ## Blocks between rewinds -/

/-- The blocks of characters that are pushed between rewinds, in order. Two rewinds in a row have an
empty block between them. -/
def blocks : List Step → List (List Char)
  | [] => [[]]
  | .push c :: rest => (blocks rest).modifyHead (c :: ·)
  | .rewind :: rest => [] :: blocks rest

theorem blocks_ne_nil (steps : List Step) : blocks steps ≠ [] := by
  induction steps with
  | nil => simp [blocks]
  | cons step rest ih =>
      cases step with
      | push c => simpa [blocks] using ih
      | rewind => simp [blocks]

/-- Pushing the blocks with a rewind between each two of them is what was done. -/
theorem intercalate_blocks (steps : List Step) :
    [Step.rewind].intercalate ((blocks steps).map (List.map .push)) = steps := by
  induction steps with
  | nil => rfl
  | cons step rest ih =>
      obtain ⟨block, more, hb⟩ := List.exists_cons_of_ne_nil (blocks_ne_nil rest)
      rw [hb, List.map_cons] at ih
      cases step with
      | push c =>
          rw [blocks, hb, List.modifyHead_cons, List.map_cons, List.map_cons]
          cases more with
          | nil => simpa using ih
          | cons next others => simpa using ih
      | rewind =>
          rw [blocks, hb, List.map_cons, List.map_cons]
          simpa using ih

theorem text_foldl_apply (token : Token) (steps : List Step) :
    ∃ block more, blocks steps = block :: more ∧
      (steps.foldl apply token).text = more.foldl overlay (block.foldl push token).text := by
  -- For any token, since behind a rewind the steps go on from one that has a text already.
  induction steps generalizing token with
  | nil => exact ⟨[], [], rfl, rfl⟩
  | cons step rest ih =>
      obtain ⟨block, more, hb, ht⟩ := ih (token.apply step)
      cases step with
      | push c =>
          refine ⟨c :: block, more, ?_, ht⟩
          rw [blocks, hb, List.modifyHead_cons]
      | rewind =>
          refine ⟨[], block :: more, ?_, ?_⟩
          · rw [blocks, hb]
          · rw [List.foldl_cons, ht, List.foldl_cons, apply, text_foldl_push_rewind]
            rfl

/-- The blocks are laid over one another, the first one over the empty text. -/
theorem text_ofSteps (steps : List Step) :
    (ofSteps steps).text = (blocks steps).foldl overlay [] := by
  obtain ⟨block, more, hb, ht⟩ := text_foldl_apply empty steps
  rw [ofSteps, ht, hb, List.foldl_cons, text_foldl_push_empty]
  simp [overlay, width]

/-! ## What every step keeps -/

theorem position_le_length_text (token : Token) : token.position ≤ token.text.length := by
  simp [position, text]

theorem Fits.apply {token : Token} (h : token.Fits) (step : Step) : (token.apply step).Fits := by
  cases step with
  | push c => exact h.push c
  | rewind => exact h.rewind

theorem length_text_push {token : Token} (h : token.position < width) (c : Char) :
    (token.push c).text.length = max token.text.length (token.position + 1) := by
  have hp := token.position_le_length_text
  rw [text_push, if_pos h, List.length_append, List.length_take, List.length_cons,
    List.length_drop]
  omega

theorem position_push {token : Token} (h : token.position < width) (c : Char) :
    (token.push c).position = token.position + 1 := by
  rw [position] at h
  rw [push, if_pos h, position, position, List.length_append, List.length_singleton]

/-- A token that is written full stays as it is. -/
theorem push_of_full {token : Token} (h : ¬ token.position < width) (c : Char) :
    token.push c = token := by
  rw [position] at h
  rw [push, if_neg h]

theorem length_text_le_apply (token : Token) (step : Step) :
    token.text.length ≤ (token.apply step).text.length := by
  cases step with
  | push c =>
      rw [apply]
      by_cases h : token.position < width
      · rw [length_text_push h]
        omega
      · rw [push_of_full h]
  | rewind => exact Nat.le_refl _

theorem mem_text_apply {token : Token} {step : Step} {c : Char}
    (h : c ∈ (token.apply step).text) : c ∈ token.text ∨ step = .push c := by
  cases step with
  | push d =>
      rw [apply, text_push] at h
      split at h
      · rw [List.mem_append, List.mem_cons] at h
        rcases h with hbefore | rfl | hafter
        · exact .inl (List.mem_of_mem_take hbefore)
        · exact .inr rfl
        · exact .inl (List.mem_of_mem_drop hafter)
      · exact .inl h
  | rewind => exact .inl h

theorem Fits.foldl_apply {token : Token} (h : token.Fits) (steps : List Step) :
    (steps.foldl Token.apply token).Fits := by
  induction steps generalizing token with
  | nil => exact h
  | cons step rest ih => exact ih (h.apply step)

theorem length_text_le_foldl_apply (token : Token) (steps : List Step) :
    token.text.length ≤ (steps.foldl apply token).text.length := by
  induction steps generalizing token with
  | nil => exact Nat.le_refl _
  | cons step rest ih => exact Nat.le_trans (token.length_text_le_apply step) (ih _)

theorem mem_text_foldl_apply {token : Token} {steps : List Step} {c : Char}
    (h : c ∈ (steps.foldl apply token).text) : c ∈ token.text ∨ .push c ∈ steps := by
  induction steps generalizing token with
  | nil => exact .inl h
  | cons step rest ih =>
      rcases ih h with hstep | hrest
      · rcases mem_text_apply hstep with htoken | rfl
        · exact .inl htoken
        · exact .inr (by simp)
      · exact .inr (List.mem_cons_of_mem _ hrest)

end Token

/-! ## A row of cells -/

/-- A token as it is kept: a row of cells, how many of them are in use, and the index of the next
one to be written. Nothing in the type keeps the two numbers within the row. -/
structure Cells where
  row : List Char
  used : Nat
  next : Nat
  deriving DecidableEq, Repr

namespace Cells

/-- Writes a cell; there is no result if the index is out of range. -/
def write? (row : List Char) (index : Nat) (c : Char) : Option (List Char) :=
  if index < row.length then some (row.set index c) else none

/-- The first cells of a row; there is no result if they are not that many. -/
def slice? (row : List Char) (count : Nat) : Option (List Char) :=
  if count ≤ row.length then some (row.take count) else none

/-- No cell is in use yet, and each of them holds some filler. -/
def fresh (filler : Char) : Cells := ⟨List.replicate Token.width filler, 0, 0⟩

def push? (cells : Cells) (c : Char) : Option Cells :=
  if cells.next < Token.width then
    match write? cells.row cells.next c with
    | none => none
    | some row => some ⟨row, max cells.used (cells.next + 1), cells.next + 1⟩
  else some cells

def rewind (cells : Cells) : Cells := { cells with next := 0 }

def text? (cells : Cells) : Option (List Char) := slice? cells.row cells.used

def step? (cells : Cells) : Token.Step → Option Cells
  | .push c => cells.push? c
  | .rewind => some cells.rewind

/-- Does a sequence of steps to fresh cells. -/
def ofSteps? (filler : Char) (steps : List Token.Step) : Option Cells :=
  steps.foldlM step? (fresh filler)

/-- The cells hold a token: its text in those that are in use, and its position. -/
structure Holds (cells : Cells) (token : Token) : Prop where
  length_row : cells.row.length = Token.width
  take_used : cells.row.take cells.used = token.text
  used_eq : cells.used = token.text.length
  next_eq : cells.next = token.position

theorem holds_fresh (filler : Char) : (fresh filler).Holds .empty :=
  ⟨List.length_replicate, rfl, rfl, rfl⟩

/-- Writing the cell at an index within or right behind those in use puts the character into what is
in use then. -/
theorem take_set {row : List Char} {used next : Nat} (hn : next ≤ used) (hr : next < row.length)
    (c : Char) :
    (row.set next c).take (max used (next + 1)) =
      (row.take used).take next ++ c :: (row.take used).drop (next + 1) := by
  have hmax : max used (next + 1) = next + (used - (next + 1) + 1) := by omega
  have hrow : min next row.length = next := by omega
  have hused : min next used = next := by omega
  have hbefore : (row.take next).length ≤ next + (used - (next + 1) + 1) := by
    rw [List.length_take]
    omega
  rw [List.set_eq_take_append_cons_drop, if_pos hr, hmax, List.take_append,
    List.take_of_length_le hbefore, List.length_take, hrow, Nat.add_sub_cancel_left,
    List.take_succ_cons, List.take_take, hused, List.drop_take]

namespace Holds

variable {cells : Cells} {token : Token}

theorem used_le (h : cells.Holds token) : cells.used ≤ Token.width := by
  have hlen := congrArg List.length h.take_used
  rw [List.length_take, h.length_row, ← h.used_eq] at hlen
  omega

theorem text?_eq (h : cells.Holds token) : cells.text? = some token.text := by
  rw [text?, slice?, h.length_row, if_pos h.used_le, h.take_used]

theorem rewind (h : cells.Holds token) : cells.rewind.Holds token.rewind :=
  ⟨h.length_row, h.take_used, h.used_eq, rfl⟩

/-- A push writes within the row, and what it leaves in use is the text of the token. -/
theorem push? (h : cells.Holds token) (c : Char) :
    ∃ after, cells.push? c = some after ∧ after.Holds (token.push c) := by
  unfold Cells.push?
  split
  · rename_i hnext
    have hrow : cells.next < cells.row.length := by rwa [h.length_row]
    have hused : cells.next ≤ cells.used := by
      rw [h.next_eq, h.used_eq]
      exact token.position_le_length_text
    have hposition : token.position < Token.width := by rwa [← h.next_eq]
    rw [write?, if_pos hrow]
    refine ⟨_, rfl, ?_, ?_, ?_, ?_⟩
    · rw [List.length_set, h.length_row]
    · rw [Token.text_push, if_pos hposition, take_set hused hrow, h.take_used, h.next_eq]
    · rw [Token.length_text_push hposition, h.used_eq, h.next_eq]
    · rw [Token.position_push hposition, h.next_eq]
  · rename_i hnext
    rw [h.next_eq] at hnext
    exact ⟨cells, rfl, by rwa [Token.push_of_full hnext]⟩

theorem step? (h : cells.Holds token) (step : Token.Step) :
    ∃ after, cells.step? step = some after ∧ after.Holds (token.apply step) := by
  cases step with
  | push c => exact h.push? c
  | rewind => exact ⟨cells.rewind, rfl, h.rewind⟩

theorem foldlM_step? (h : cells.Holds token) (steps : List Token.Step) :
    ∃ after, steps.foldlM Cells.step? cells = some after ∧
      after.Holds (steps.foldl Token.apply token) := by
  -- As long as the cells hold the token the next step has a result, and holding goes on.
  induction steps generalizing cells token with
  | nil => exact ⟨cells, rfl, h⟩
  | cons step rest ih =>
      obtain ⟨between, hstep, hbetween⟩ := h.step? step
      obtain ⟨after, hrest, hafter⟩ := ih hbetween
      refine ⟨after, ?_, hafter⟩
      rw [List.foldlM_cons, hstep]
      exact hrest

end Holds

end Cells

/-- What a token shows are the blocks between the rewinds, laid over one another from the empty text
on. It shows no more characters than fit, never fewer than before, and only such as were pushed.
Kept in a row of cells, whatever is in them at first, every write and the reading of the text stay
within the row, and the text that is read is the same. -/
theorem Token.shows_overlaid_blocks (steps : List Token.Step) :
    [Token.Step.rewind].intercalate ((Token.blocks steps).map (List.map .push)) = steps ∧
      (Token.ofSteps steps).text = (Token.blocks steps).foldl Token.overlay [] ∧
      (Token.ofSteps steps).text.length ≤ Token.width ∧
      (∀ more, (Token.ofSteps steps).text.length ≤ (Token.ofSteps (steps ++ more)).text.length) ∧
      (∀ c ∈ (Token.ofSteps steps).text, .push c ∈ steps) ∧
      ∀ filler, ∃ cells, Cells.ofSteps? filler steps = some cells ∧
        cells.text? = some (Token.ofSteps steps).text := by
  refine ⟨Token.intercalate_blocks steps, Token.text_ofSteps steps,
    (Token.fits_empty.foldl_apply steps).text_le, ?_, ?_, ?_⟩
  · intro more
    rw [Token.ofSteps, Token.ofSteps, List.foldl_append]
    exact Token.length_text_le_foldl_apply _ more
  · intro c hc
    rcases Token.mem_text_foldl_apply hc with hempty | hpushed
    · cases hempty
    · exact hpushed
  · intro filler
    obtain ⟨cells, hrun, hcells⟩ := (Cells.holds_fresh filler).foldlM_step? steps
    exact ⟨cells, hrun, hcells.text?_eq⟩

/-- A block of five characters, of which four fit, and a shorter one over it. -/
theorem Token.shows_overlaid_blocks_shorter_block :
    (Token.ofSteps [.push '1', .push '2', .push '3', .push '4', .push '5', .rewind,
        .push '6']).text = ['6', '2', '3', '4'] ∧
      Token.Step.push '3' ∈ ([.push '1', .push '2', .push '3', .push '4', .push '5', .rewind,
        .push '6'] : List Token.Step) := by
  obtain ⟨_, htext, _, _, hpushed, _⟩ := Token.shows_overlaid_blocks [.push '1', .push '2',
    .push '3', .push '4', .push '5', .rewind, .push '6']
  refine ⟨?_, hpushed '3' ?_⟩
  · rw [htext]
    decide
  · rw [htext]
    decide

end PrintJob.Range
