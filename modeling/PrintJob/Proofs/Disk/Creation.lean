import PrintJob.Proofs.Disk.Replacement
import Mathlib.Data.List.Induction

/-! # Directories that are created

Creating directories changes nothing but that directories are new on the way. A path leads to what
it led to before, unless it climbs out of a directory that was not there. -/

namespace PrintJob.Disk

variable {disk after : Disk} {start location place : Location} {name : List Char}
variable {names front rest : List (List Char)}

theorem isDirectory_iff : disk.isDirectory location = true ↔ disk.at? location = some .directory := by
  unfold isDirectory
  cases disk.at? location with
  | none => simp
  | some node => cases node <;> simp

/-! ## Following names -/

theorem follow_cons (h : disk.isDirectory start = true) (name : List Char)
    (rest : List (List Char)) :
    disk.follow start (name :: rest) =
      if name = Path.above then disk.follow start.dropLast rest
      else if isName name then disk.follow (start ++ [name]) rest else none := by
  simp [follow, h]

/-- Names lead on from directories only. -/
theorem follow_cons_of_not_directory (h : disk.isDirectory start = false) (name : List Char)
    (rest : List (List Char)) : disk.follow start (name :: rest) = none := by
  simp [follow, h]

theorem follow_append (start : Location) (front rest : List (List Char)) :
    disk.follow start (front ++ rest) =
      (disk.follow start front).bind fun location => disk.follow location rest := by
  induction front generalizing start with
  | nil => rfl
  | cons name front ih =>
      cases hd : disk.isDirectory start with
      | false => simp [follow, hd]
      | true =>
          rw [List.cons_append, follow_cons hd, follow_cons hd, ih, ih]
          split
          · rfl
          · split <;> rfl

/-- Names that do not climb are put behind one another. -/
theorem eq_append_of_follow (hn : Path.above ∉ names) (h : disk.follow start names = some place) :
    place = start ++ names := by
  induction names generalizing start with
  | nil => simpa [follow, eq_comm] using h
  | cons name rest ih =>
      simp only [List.mem_cons, not_or] at hn
      cases hd : disk.isDirectory start with
      | false => simp [follow, hd] at h
      | true =>
          rw [follow_cons hd, if_neg (Ne.symm hn.1)] at h
          split at h
          · simpa using ih hn.2 h
          · cases h

/-- The last name leads on from a directory, up or down. -/
theorem exists_of_follow_concat (h : disk.follow start (front ++ [name]) = some place) :
    ∃ directory, disk.follow start front = some directory ∧ disk.isDirectory directory = true ∧
      place = if name = Path.above then directory.dropLast else directory ++ [name] := by
  rw [follow_append, Option.bind_eq_some_iff] at h
  obtain ⟨directory, hfront, hlast⟩ := h
  cases hd : disk.isDirectory directory with
  | false => simp [follow_cons_of_not_directory hd] at hlast
  | true =>
      refine ⟨directory, hfront, hd, ?_⟩
      rw [follow_cons hd] at hlast
      by_cases ha : name = Path.above
      · rw [if_pos ha] at hlast ⊢
        exact (Option.some.inj hlast).symm
      · rw [if_neg ha] at hlast ⊢
        split at hlast
        · exact (Option.some.inj hlast).symm
        · cases hlast

/-! ## What is created -/

/-- The places that names lead through, one after the other. -/
def trail : Location → List (List Char) → List Location
  | _, [] => []
  | location, name :: rest =>
    let next := if name = Path.above then location.dropLast else location ++ [name]
    next :: trail next rest

theorem length_le_of_mem_trail (h : place ∈ trail start names) :
    place.length ≤ start.length + names.length := by
  induction names generalizing start with
  | nil => simp [trail] at h
  | cons name rest ih =>
      have hnext : (if name = Path.above then start.dropLast else start ++ [name]).length ≤
          start.length + 1 := by
        split
        · rw [List.length_dropLast]
          omega
        · simp
      rw [List.length_cons]
      rcases List.mem_cons.mp h with rfl | h
      · omega
      · have hrest := ih h
        omega

/-- Directories are new at some of the places, and nothing else has changed. -/
def Grows (places : List Location) (disk after : Disk) : Prop :=
  ∀ location, after.at? location = disk.at? location ∨
    disk.at? location = none ∧ after.at? location = some .directory ∧ location ∈ places

theorem Grows.isDirectory {places : List Location} (h : Grows places disk after)
    (hd : disk.isDirectory location = true) : after.isDirectory location = true := by
  rw [isDirectory_iff] at hd ⊢
  rcases h location with h | ⟨hnone, _, _⟩
  · rw [h, hd]
  · rw [hd] at hnone
    cases hnone

theorem grows_makeDirectories (disk : Disk) (start : Location) (names : List (List Char)) :
    Grows (trail start names) disk (disk.makeDirectories start names).2 := by
  induction names generalizing disk start with
  | nil => exact fun _ => .inl rfl
  | cons name rest ih =>
      intro location
      by_cases ha : name = Path.above
      · subst ha
        simp only [makeDirectories, trail, if_true]
        rcases ih disk start.dropLast location with h | ⟨hnone, hnew, hmem⟩
        · exact .inl h
        · exact .inr ⟨hnone, hnew, List.mem_cons_of_mem _ hmem⟩
      · simp only [makeDirectories, trail, if_neg ha]
        split
        · exact .inl rfl
        · cases hat : disk.at? (start ++ [name]) with
          | some node =>
              cases node with
              | file contents => exact .inl rfl
              | directory =>
                  rcases ih disk (start ++ [name]) location with h | ⟨hnone, hnew, hmem⟩
                  · exact .inl h
                  · exact .inr ⟨hnone, hnew, List.mem_cons_of_mem _ hmem⟩
          | none =>
              have hput := at?_put disk (by simp : start ++ [name] ≠ []) .directory location
              rcases ih (disk.put (start ++ [name]) .directory) (start ++ [name]) location with
                h | ⟨hnone, hnew, hmem⟩
              · by_cases hl : location = start ++ [name]
                · rw [if_pos hl] at hput
                  exact .inr ⟨hl ▸ hat, h.trans hput, hl ▸ List.mem_cons_self⟩
                · rw [if_neg hl] at hput
                  exact .inl (h.trans hput)
              · rw [hput] at hnone
                split at hnone
                · cases hnone
                · exact .inr ⟨hnone, hnew, List.mem_cons_of_mem _ hmem⟩

/-! ## Trees -/

/-- Whatever is on the disk is in a directory. -/
def IsTree (disk : Disk) : Prop :=
  ∀ location name, disk.at? (location ++ [name]) ≠ none → disk.isDirectory location = true

theorem isTree_empty : empty.IsTree := by
  intro location name h
  rw [at?_of_ne_nil (by simp)] at h
  exact absurd rfl h

theorem IsTree.isDirectory_dropLast (h : disk.IsTree) (hd : disk.isDirectory location = true) :
    disk.isDirectory location.dropLast = true := by
  induction location using List.reverseRecOn with
  | nil => rfl
  | append_singleton location name =>
      rw [List.dropLast_concat]
      apply h location name
      rw [isDirectory_iff.mp hd]
      simp

/-- Nothing is below a place where nothing is. -/
theorem IsTree.at?_append (h : disk.IsTree) (hn : disk.at? location = none)
    (names : List (List Char)) : disk.at? (location ++ names) = none := by
  induction names using List.reverseRecOn with
  | nil => simpa using hn
  | append_singleton names name ih =>
      rw [← List.append_assoc]
      by_contra hsome
      have hd := isDirectory_iff.mp (h _ _ hsome)
      rw [ih] at hd
      cases hd

/-- A tree stays one when something is put into a directory that is not itself replaced. -/
theorem IsTree.put (h : disk.IsTree) (hd : disk.isDirectory location = true)
    (hn : disk.isDirectory (location ++ [name]) = false) (node : Node) :
    (disk.put (location ++ [name]) node).IsTree := by
  intro other last hsome
  have hat := at?_put disk (by simp : location ++ [name] ≠ []) node
  have hkeep (place : Location) (hp : disk.isDirectory place = true) :
      (disk.put (location ++ [name]) node).isDirectory place = true := by
    rw [isDirectory_iff, hat, if_neg]
    · exact isDirectory_iff.mp hp
    · rintro rfl
      rw [hn] at hp
      cases hp
  rw [hat] at hsome
  split at hsome
  · rename_i heq
    obtain ⟨rfl, _⟩ := List.append_inj' heq rfl
    exact hkeep _ hd
  · exact hkeep _ (h other last hsome)

theorem IsTree.makeDirectories (h : disk.IsTree) (hd : disk.isDirectory start = true)
    (names : List (List Char)) : (disk.makeDirectories start names).2.IsTree := by
  induction names generalizing disk start with
  | nil => exact h
  | cons name rest ih =>
      unfold Disk.makeDirectories
      split
      · exact ih h (h.isDirectory_dropLast hd)
      · split
        · exact h
        · dsimp only
          cases hat : disk.at? (start ++ [name]) with
          | some node =>
              cases node with
              | file contents => exact h
              | directory => exact ih h (isDirectory_iff.mpr hat)
          | none =>
              have hn : disk.isDirectory (start ++ [name]) = false := by
                simp [isDirectory, hat]
              have hnew : (disk.put (start ++ [name]) .directory).isDirectory (start ++ [name]) =
                  true := by
                rw [isDirectory_iff, at?_put disk (by simp), if_pos rfl]
              exact ih (h.put hd hn .directory) hnew

/-! ## Paths that lead on as before -/

/-- Whatever names climb out of is a directory that is there. -/
def ClimbsKnown (disk : Disk) (start : Location) (names : List (List Char)) : Prop :=
  ∀ front rest, names = front ++ Path.above :: rest →
    (disk.follow start (front ++ [Path.above])).isSome = true

theorem climbsKnown_of_not_mem (h : Path.above ∉ names) : disk.ClimbsKnown start names := by
  rintro front rest rfl
  exact absurd (by simp) h

theorem ClimbsKnown.climb (hd : disk.isDirectory start = true)
    (h : disk.ClimbsKnown start (Path.above :: names)) :
    disk.ClimbsKnown start.dropLast names := by
  intro front rest hn
  have hf := h (Path.above :: front) rest (by rw [hn, List.cons_append])
  rwa [List.cons_append, follow_cons hd, if_pos rfl] at hf

theorem ClimbsKnown.descend (hd : disk.isDirectory start = true) (ha : name ≠ Path.above)
    (hn : isName name = true) (h : disk.ClimbsKnown start (name :: names)) :
    disk.ClimbsKnown (start ++ [name]) names := by
  intro front rest hnames
  have hf := h (name :: front) rest (by rw [hnames, List.cons_append])
  rwa [List.cons_append, follow_cons hd, if_neg ha, if_pos hn] at hf

/-- Nothing climbs behind a place that is no directory. -/
theorem ClimbsKnown.above_not_mem (hd : disk.isDirectory start = false)
    (h : disk.ClimbsKnown start names) : Path.above ∉ names := by
  intro hm
  obtain ⟨front, rest, rfl⟩ := List.append_of_mem hm
  have hf := h front rest rfl
  cases front with
  | nil => simp [follow, hd] at hf
  | cons name front => simp [follow, hd] at hf

/-- What is where names lead. -/
def look (disk : Disk) (start : Location) (names : List (List Char)) : Option Node :=
  (disk.follow start names).bind disk.at?

theorem look_cons (h : disk.isDirectory start = true) (name : List Char)
    (rest : List (List Char)) :
    disk.look start (name :: rest) =
      if name = Path.above then disk.look start.dropLast rest
      else if isName name then disk.look (start ++ [name]) rest else none := by
  rw [look, follow_cons h]
  split
  · rfl
  · split <;> rfl

/-- Where nothing is, nothing is found behind directories that are made for names in front. -/
theorem look_makeDirectories_of_none (ht : disk.IsTree) (hn : disk.at? location = none)
    (hl : location ≠ []) (ha : Path.above ∉ front ++ rest) (hr : rest ≠ []) :
    ((disk.put location .directory).makeDirectories location front).2.look location
      (front ++ rest) = none := by
  have hgrows := grows_makeDirectories (disk.put location .directory) location front
  generalize ((disk.put location .directory).makeDirectories location front).2 = made at hgrows
  cases hf : made.follow location (front ++ rest) with
  | none => simp [look, hf]
  | some place =>
      obtain rfl := eq_append_of_follow ha hf
      have hlong : 0 < rest.length := List.length_pos_iff.mpr hr
      -- The place is longer than any of those that were made a directory.
      have hplace : location ++ (front ++ rest) ∉ trail location front := by
        intro hm
        have hle := length_le_of_mem_trail hm
        simp only [List.length_append] at hle
        omega
      have hother : location ++ (front ++ rest) ≠ location := by
        intro h
        have hlength := congrArg List.length h
        simp only [List.length_append] at hlength
        omega
      rw [look, hf, Option.bind_some]
      rcases hgrows (location ++ (front ++ rest)) with h | ⟨_, _, hm⟩
      · rw [h, at?_put disk hl, if_neg hother]
        exact ht.at?_append hn _
      · exact absurd hm hplace

theorem look_makeDirectories (ht : disk.IsTree) (hd : disk.isDirectory start = true)
    (hc : disk.ClimbsKnown start (front ++ rest)) (hr : rest ≠ []) :
    (disk.makeDirectories start front).2.look start (front ++ rest) =
      disk.look start (front ++ rest) := by
  induction front generalizing start with
  | nil => rfl
  | cons name front ih =>
      have hmade := (grows_makeDirectories disk start (name :: front)).isDirectory hd
      rw [List.cons_append] at hc ⊢
      rw [look_cons hmade, look_cons hd]
      by_cases ha : name = Path.above
      · subst ha
        rw [if_pos rfl, if_pos rfl]
        have hsame : disk.makeDirectories start (Path.above :: front) =
            disk.makeDirectories start.dropLast front := by simp [makeDirectories]
        rw [hsame]
        exact ih (ht.isDirectory_dropLast hd) (hc.climb hd)
      · rw [if_neg ha, if_neg ha]
        by_cases hn : isName name = true
        · rw [if_pos hn, if_pos hn]
          have hnext := hc.descend hd ha hn
          simp only [makeDirectories, if_neg ha, hn]
          cases hat : disk.at? (start ++ [name]) with
          | some node =>
              cases node with
              | file contents => rfl
              | directory => exact ih (isDirectory_iff.mpr hat) hnext
          | none =>
              have hno : disk.isDirectory (start ++ [name]) = false := by simp [isDirectory, hat]
              refine (look_makeDirectories_of_none ht hat (by simp) (hnext.above_not_mem hno)
                hr).trans ?_
              obtain ⟨first, more, hrest⟩ := List.exists_cons_of_ne_nil
                (List.append_ne_nil_of_right_ne_nil front hr)
              rw [look, hrest, follow_cons_of_not_directory hno, Option.bind_none]
        · rw [if_neg hn, if_neg hn]

theorem follow_of_locate? {path : String} (h : disk.locate? path = some location) :
    disk.follow [] (Disk.names path) = some location := by
  unfold locate? at h
  split at h
  · cases h
  · exact h

theorem find?_eq (disk : Disk) (path : String) :
    disk.find? path =
      if path.isEmpty then none
      else
        match disk.look [] (Disk.names path) with
        | some .directory => some .directory
        | some (.file contents) => if endsInDirectory path then none else some (.file contents)
        | none => none := by
  unfold find? locate? look
  cases path.isEmpty with
  | true => rfl
  | false =>
      cases disk.follow [] (Disk.names path) with
      | none => rfl
      | some location => rfl

/-- Creating directories on the way changes nothing that is found at a path, unless the path climbs
out of a directory that was not there. -/
theorem find?_makeDirectories {path : String} (ht : disk.IsTree)
    (hc : disk.ClimbsKnown [] (Disk.names path)) (hn : Disk.names path = front ++ rest)
    (hr : rest ≠ []) : (disk.makeDirectories [] front).2.find? path = disk.find? path := by
  rw [hn] at hc
  rw [find?_eq, find?_eq, hn, look_makeDirectories ht rfl hc hr]

end PrintJob.Disk
