import PrintJob.Disk.Basic
import Mathlib.Data.List.DropRight
import Mathlib.Data.List.Induction

/-! # The names of a path

A path leads through its names. The path of its directory has all of them but the last one, and a
path with another extension has another last one. -/

namespace PrintJob

namespace Text

theorem not_mem_of_mem_pieces {separator : Char} {s piece : List Char}
    (h : piece ∈ pieces separator s) : separator ∉ piece := by
  intro hc
  have hf : separator ∈ (pieces separator s).flatten := List.mem_flatten.mpr ⟨piece, h, hc⟩
  simp [flatten_pieces] at hf

theorem join_append_last (separator : Char) (ps : List (List Char)) (piece more : List Char) :
    join separator (ps ++ [piece]) ++ more = join separator (ps ++ [piece ++ more]) := by
  induction ps with
  | nil => rfl
  | cons first rest ih =>
      cases rest with
      | nil => simp [join]
      | cons second rest =>
          simp only [List.cons_append, join_cons_cons] at ih ⊢
          rw [List.append_assoc, List.cons_append, ih]

end Text

namespace Path

variable {path : List Char} {before : List (List Char)} {last : List Char}

/-! ## The start of a path -/

/-- What a path starts with, and what follows. -/
theorem head_cases (path : List Char) :
    (∃ rest, path = '/' :: rest ∧ head path = ['/']) ∨ (path = ['.'] ∧ head path = ['.']) ∨
      (∃ rest, path = '.' :: '/' :: rest ∧ head path = ['.']) ∨ head path = [] := by
  unfold head
  split
  · exact .inl ⟨_, rfl, rfl⟩
  · exact .inr (.inl ⟨rfl, rfl⟩)
  · exact .inr (.inr (.inl ⟨_, rfl, rfl⟩))
  · exact .inr (.inr (.inr rfl))

/-! ## Names -/

/-- The names of a path that count. -/
def names (path : List Char) : List (List Char) :=
  (Text.pieces '/' path).filter fun name => !isIdle name

theorem names_slash (rest : List Char) : names ('/' :: rest) = names rest := by
  simp [names, Text.pieces, isIdle]

theorem names_dot_slash (rest : List Char) : names ('.' :: '/' :: rest) = names rest := by
  simp [names, Text.pieces, isIdle]

theorem names_drop_head (path : List Char) : names (path.drop (head path).length) = names path := by
  obtain ⟨rest, rfl, h⟩ | ⟨rfl, h⟩ | ⟨rest, rfl, h⟩ | h := head_cases path
  · rw [h, names_slash]
    rfl
  · decide
  · rw [h, names_dot_slash]
    exact names_slash rest
  · simp [h]

theorem names_join {ps : List (List Char)} (h : ∀ piece ∈ ps, '/' ∉ piece) :
    names (Text.join '/' ps) = ps.filter fun name => !isIdle name := by
  cases ps with
  | nil => rfl
  | cons piece rest => rw [names, Text.pieces_join (by simp) h]

/-! ## The last name -/

theorem filter_dropIdle (ps : List (List Char)) :
    (dropIdle ps).filter (fun name => !isIdle name) = ps.filter fun name => !isIdle name := by
  change (ps.rdropWhile isIdle).filter _ = _
  induction ps using List.reverseRecOn with
  | nil => rfl
  | append_singleton ps piece ih =>
      rw [List.rdropWhile_concat]
      split
      · rename_i h
        simp [ih, h]
      · rfl

theorem isPrefix_dropIdle (ps : List (List Char)) : dropIdle ps <+: ps :=
  List.rdropWhile_prefix isIdle ps

/-- A path with a last name consists of its start, what comes before the name, and the name; idle
names may follow. -/
theorem splitLast_eq_some_iff :
    splitLast path = some (before, last) ↔
      dropIdle (Text.pieces '/' (path.drop (head path).length)) = before ++ [last] := by
  simp only [splitLast]
  generalize dropIdle (Text.pieces '/' (path.drop (head path).length)) = ps
  induction ps using List.reverseRecOn with
  | nil => simp
  | append_singleton ps piece => simp

theorem isIdle_last (h : splitLast path = some (before, last)) : isIdle last = false := by
  rw [splitLast_eq_some_iff] at h
  have hn : (Text.pieces '/' (path.drop (head path).length)).rdropWhile isIdle ≠ [] := by
    change dropIdle _ ≠ []
    simp [h]
  have hl := List.rdropWhile_last_not isIdle _ hn
  change ¬isIdle ((dropIdle _).getLast hn) = true at hl
  simpa [h] using hl

theorem names_of_splitLast (h : splitLast path = some (before, last)) :
    names path = (before.filter fun name => !isIdle name) ++ [last] := by
  have hl := isIdle_last h
  rw [splitLast_eq_some_iff] at h
  rw [← names_drop_head, names, ← filter_dropIdle, h]
  simp [hl]

theorem names_of_splitLast_none (h : splitLast path = none) : names path = [] := by
  rw [← names_drop_head, names, ← filter_dropIdle]
  simp only [splitLast] at h
  split at h
  · rename_i hn
    rw [List.getLast?_eq_none_iff.mp hn]
    rfl
  · cases h

theorem slash_not_mem (h : splitLast path = some (before, last)) :
    ∀ name ∈ before ++ [last], '/' ∉ name := by
  intro name hn
  rw [← splitLast_eq_some_iff.mp h] at hn
  exact Text.not_mem_of_mem_pieces ((isPrefix_dropIdle _).subset hn)

/-- The names before the last one begin with an idle one if a dot begins the path. -/
theorem head?_of_dot (h : splitLast path = some (before, last)) (hd : head path = ['.']) :
    before.head? = some [] := by
  have hl := isIdle_last h
  have hprefix : before ++ [last] <+: Text.pieces '/' (path.drop (head path).length) :=
    splitLast_eq_some_iff.mp h ▸ isPrefix_dropIdle _
  have hfirst : (Text.pieces '/' (path.drop (head path).length)).head? = some [] := by
    obtain ⟨rest, rfl, hh⟩ | ⟨rfl, hh⟩ | ⟨rest, rfl, hh⟩ | hh := head_cases path
    · simp [hh] at hd
    · rfl
    · simp [hh, Text.pieces]
    · simp [hh] at hd
  obtain ⟨more, hmore⟩ := hprefix
  rw [← hmore] at hfirst
  cases before with
  | nil =>
      obtain rfl : last = [] := by simpa using hfirst
      cases hl
  | cons first rest => simpa using hfirst

/-- The names of the path that is made of the same start and other names. -/
theorem names_head_join {ps : List (List Char)} (hs : ∀ piece ∈ ps, '/' ∉ piece)
    (hd : head path = ['.'] → ps = [] ∨ ps.head? = some []) :
    names (head path ++ Text.join '/' ps) = ps.filter fun name => !isIdle name := by
  rw [← names_join hs]
  have hdot (h : ps = [] ∨ ps.head? = some []) :
      names ('.' :: Text.join '/' ps) = names (Text.join '/' ps) := by
    match ps, h with
    | [], _ => rfl
    | [[]], _ => rfl
    | [] :: next :: more, _ => exact (names_dot_slash _).trans (names_slash _).symm
    | (c :: rest) :: more, h => simp at h
  obtain ⟨rest, rfl, h⟩ | ⟨rfl, h⟩ | ⟨rest, rfl, h⟩ | h := head_cases path
  · rw [h]
    exact names_slash _
  · rw [h]
    exact hdot (hd h)
  · rw [h]
    exact hdot (hd h)
  · rw [h, List.nil_append]

/-! ## Parents and siblings -/

/-- The path of the directory has the names of the path without the last one. -/
theorem names_parent (h : splitLast path = some (before, last)) :
    names (head path ++ Text.join '/' (dropIdle before)) =
      before.filter fun name => !isIdle name := by
  rw [names_head_join, filter_dropIdle]
  · intro name hn
    exact slash_not_mem h name (by simp [(isPrefix_dropIdle before).subset hn])
  · intro hd
    obtain ⟨more, hmore⟩ := isPrefix_dropIdle before
    cases hp : dropIdle before with
    | nil => exact .inl rfl
    | cons first rest =>
        have hfirst := head?_of_dot h hd
        rw [← hmore, hp] at hfirst
        exact .inr (by simpa using hfirst)

theorem mem_of_mem_stem {name : List Char} {c : Char} (h : c ∈ stem name) : c ∈ name := by
  unfold stem at h
  dsimp only at h
  split at h
  · exact h
  · have hd := List.mem_of_mem_drop (List.mem_reverse.mp h)
    exact List.mem_reverse.mp ((List.dropWhile_suffix _).subset hd)

theorem stem_ne_nil {name : List Char} (h : name ≠ []) : stem name ≠ [] := by
  unfold stem
  dsimp only
  split
  · exact h
  · rename_i hb
    simpa using hb

/-- A path with another extension has the name with that extension in place of the last name. -/
theorem names_withExtension {extension : List Char} (h : splitLast path = some (before, last))
    (hl : last ≠ above) (he : '/' ∉ extension) (hn : extension ≠ []) :
    names (withExtension path extension) =
      (before.filter fun name => !isIdle name) ++ [stem last ++ '.' :: extension] := by
  have hpath : withExtension path extension =
      head path ++ Text.join '/' (before ++ [stem last ++ '.' :: extension]) := by
    simp only [withExtension, h, beq_iff_eq, if_neg hl]
    rw [List.append_assoc, Text.join_append_last]
  have hidle : isIdle (stem last ++ '.' :: extension) = false := by
    cases extension with
    | nil => exact absurd rfl hn
    | cons c rest => cases stem last <;> simp [isIdle]
  rw [hpath, names_head_join, List.filter_append]
  · simp [hidle]
  · intro name hm
    simp only [List.mem_append, List.mem_singleton] at hm
    rcases hm with hm | rfl
    · exact slash_not_mem h name (by simp [hm])
    · intro hc
      simp only [List.mem_append, List.mem_cons] at hc
      rcases hc with hc | hc | hc
      · exact slash_not_mem h last (by simp) (mem_of_mem_stem hc)
      · exact absurd hc (by decide)
      · exact he hc
  · intro hd
    have hfirst := head?_of_dot h hd
    cases before with
    | nil => simp at hfirst
    | cons first rest => exact .inr (by simpa using hfirst)

end Path

end PrintJob
