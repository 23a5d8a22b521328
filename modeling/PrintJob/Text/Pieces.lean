/-! # Pieces of a text

A text is cut at every separator, and the pieces are joined again with the separator between
them. -/

namespace PrintJob.Text

/-- The pieces of a text between separators; there is always at least one. -/
def pieces (separator : Char) : List Char → List (List Char)
  | [] => [[]]
  | c :: rest =>
    if c = separator then [] :: pieces separator rest
    else
      match pieces separator rest with
      | [] => [[c]]
      | piece :: more => (c :: piece) :: more

/-- Puts a separator between pieces. -/
def join (separator : Char) : List (List Char) → List Char
  | [] => []
  | [piece] => piece
  | piece :: rest => piece ++ separator :: join separator rest

theorem join_cons_cons (separator : Char) (piece next : List Char) (more : List (List Char)) :
    join separator (piece :: next :: more) =
      piece ++ separator :: join separator (next :: more) := rfl

theorem pieces_ne_nil (separator : Char) (s : List Char) : pieces separator s ≠ [] := by
  cases s with
  | nil => simp [pieces]
  | cons c rest =>
    simp only [pieces]
    split
    · simp
    · split <;> simp

/-- Joining the pieces of a text gives the text back. -/
theorem join_pieces (separator : Char) (s : List Char) :
    join separator (pieces separator s) = s := by
  induction s with
  | nil => rfl
  | cons c rest ih =>
    simp only [pieces]
    split
    · next h =>
      cases hp : pieces separator rest with
      | nil => exact absurd hp (pieces_ne_nil separator rest)
      | cons piece more =>
        rw [hp] at ih
        simp [join, ih, h]
    · cases hp : pieces separator rest with
      | nil => exact absurd hp (pieces_ne_nil separator rest)
      | cons piece more =>
        rw [hp] at ih
        cases more with
        | nil => simp_all [join]
        | cons _ _ => simp_all [join]

/-- The pieces of a text hold all its characters except the separators. -/
theorem flatten_pieces (separator : Char) (s : List Char) :
    (pieces separator s).flatten = s.filter fun c => c ≠ separator := by
  induction s with
  | nil => rfl
  | cons c rest ih =>
    simp only [pieces]
    split
    · next h => simp [h, ih]
    · next h =>
      cases hp : pieces separator rest with
      | nil => exact absurd hp (pieces_ne_nil separator rest)
      | cons piece more =>
        rw [hp] at ih
        simpa [h] using ih

theorem pieces_eq_splitOn (separator : Char) (s : List Char) :
    pieces separator s = s.splitOn separator := by
  induction s with
  | nil => rfl
  | cons c rest ih =>
    rw [pieces, List.splitOn_cons_eq_if_modifyHead, ih]
    by_cases h : c = separator
    · simp [h]
    · cases hp : rest.splitOn separator with
      | nil => exact absurd hp (List.splitOn_ne_nil separator rest)
      | cons piece more => simp [h]

/-- A separator between two texts keeps their pieces apart. -/
theorem pieces_append_separator (separator : Char) (s t : List Char) :
    pieces separator (s ++ separator :: t) = pieces separator s ++ pieces separator t := by
  simp only [pieces_eq_splitOn, List.splitOn_append_cons_self]

/-- Dropping characters other than the separator drops them from each piece. -/
theorem pieces_filter {separator : Char} {keep : Char → Bool} (h : keep separator = true)
    (s : List Char) :
    pieces separator (s.filter keep) = (pieces separator s).map (List.filter keep) := by
  induction s with
  | nil => rfl
  | cons c rest ih =>
    by_cases hc : c = separator
    · rw [List.filter_cons_of_pos (by rw [hc, h]), pieces, pieces, if_pos hc, if_pos hc, ih]
      rfl
    · cases hp : pieces separator rest with
      | nil => exact absurd hp (pieces_ne_nil separator rest)
      | cons piece more =>
        rw [hp, List.map_cons] at ih
        by_cases hk : keep c = true
        · simp [pieces, hc, hk, hp, ih]
        · simp [pieces, hc, hk, hp, ih]

theorem join_eq_intercalate (separator : Char) (ps : List (List Char)) :
    join separator ps = [separator].intercalate ps := by
  induction ps with
  | nil => rfl
  | cons piece rest ih =>
    cases rest with
    | nil => simp [join]
    | cons next more => simp [join, ih]

/-- Cutting a text gives back the pieces it was joined from, if there are any and none of them
contains the separator. -/
theorem pieces_join {separator : Char} {ps : List (List Char)} (hn : ps ≠ [])
    (h : ∀ piece ∈ ps, separator ∉ piece) : pieces separator (join separator ps) = ps := by
  rw [pieces_eq_splitOn, join_eq_intercalate]
  exact List.splitOn_intercalate separator h hn

/-- Pieces that are not empty are what is left of the joined text without its separators. -/
theorem filter_pieces_join {separator : Char} {ps : List (List Char)}
    (h : ∀ piece ∈ ps, piece ≠ [] ∧ separator ∉ piece) :
    ((pieces separator (join separator ps)).filter fun piece => !piece.isEmpty) = ps := by
  cases ps with
  | nil => rfl
  | cons piece rest =>
    rw [pieces_join (by simp) fun piece hp => (h piece hp).2]
    apply List.filter_eq_self.mpr
    intro piece hp
    simpa using (h piece hp).1

theorem join_injective {separator : Char} {ps qs : List (List Char)}
    (hp : ∀ piece ∈ ps, piece ≠ [] ∧ separator ∉ piece)
    (hq : ∀ piece ∈ qs, piece ≠ [] ∧ separator ∉ piece)
    (h : join separator ps = join separator qs) : ps = qs := by
  rw [← filter_pieces_join hp, h, filter_pieces_join hq]

end PrintJob.Text
