import PrintJob.Disk.Basic
import PrintJob.Proofs.Lookup

/-! # A file that replaces another

A file is written and then moved to its place. As long as nothing comes between, its text is what is
read there afterwards. -/

namespace PrintJob.Disk

variable {disk written after : Disk} {location : Location}

/-! ## What is at a location -/

@[simp] theorem at?_nil (disk : Disk) : disk.at? [] = some .directory := rfl

theorem at?_of_ne_nil (h : location ≠ []) : disk.at? location = disk.entries.lookup location :=
  if_neg h

/-- The root is a directory. -/
theorem ne_nil_of_isDirectory_eq_false (h : disk.isDirectory location = false) :
    location ≠ [] := by
  rintro rfl
  exact absurd h (by simp [isDirectory])

theorem at?_remove (disk : Disk) (h : location ≠ []) (other : Location) :
    (disk.remove location).at? other = if other = location then none else disk.at? other := by
  by_cases hn : other = []
  · subst hn
    simp [h.symm]
  · have hl := lookup_filter (fun key => key == location) disk.entries other
    simp only [beq_iff_eq] at hl
    rw [at?_of_ne_nil hn, at?_of_ne_nil hn, ← hl]
    rfl

theorem at?_put (disk : Disk) (h : location ≠ []) (node : Node) (other : Location) :
    (disk.put location node).at? other =
      if other = location then some node else disk.at? other := by
  by_cases hn : other = []
  · subst hn
    simp [h.symm]
  · have hr := at?_remove disk h other
    rw [at?_of_ne_nil hn] at hr ⊢
    have hput : (disk.put location node).entries =
        (disk.remove location).entries ++ [(location, node)] := rfl
    rw [hput, List.lookup_append, hr]
    by_cases ho : other = location
    · simp [ho]
    · cases hd : disk.at? other <;> simp [ho]

/-! ## Where a path leads -/

/-- Two disks have the same directories. -/
def SameDirectories (disk after : Disk) : Prop :=
  ∀ location, after.isDirectory location = disk.isDirectory location

theorem sameDirectories_put (h : disk.isDirectory location = false) (contents : ByteArray) :
    SameDirectories disk (disk.put location (.file contents)) := by
  intro other
  have hat := at?_put disk (ne_nil_of_isDirectory_eq_false h) (.file contents) other
  by_cases ho : other = location
  · subst ho
    rw [h, isDirectory, hat, if_pos rfl]
  · rw [isDirectory, isDirectory, hat, if_neg ho]

theorem sameDirectories_remove (h : disk.isDirectory location = false) :
    SameDirectories disk (disk.remove location) := by
  intro other
  have hat := at?_remove disk (ne_nil_of_isDirectory_eq_false h) other
  by_cases ho : other = location
  · subst ho
    rw [h, isDirectory, hat, if_pos rfl]
  · rw [isDirectory, isDirectory, hat, if_neg ho]

/-- Names lead to the same location where the directories on the way are the same. -/
theorem follow_congr (h : SameDirectories disk after) (start : Location)
    (names : List (List Char)) : after.follow start names = disk.follow start names := by
  induction names generalizing start with
  | nil => rfl
  | cons name rest ih => simp only [follow, h start, ih]

theorem locate?_congr (h : SameDirectories disk after) (path : String) :
    after.locate? path = disk.locate? path := by
  simp only [locate?, follow_congr h]

theorem find?_of_file {path : String} {contents : ByteArray}
    (hl : disk.locate? path = some location)
    (ha : disk.at? location = some (.file contents)) (he : endsInDirectory path = false) :
    disk.find? path = some (.file contents) := by
  simp [find?, hl, ha, he]

theorem readText_of_find? {path text : String}
    (h : disk.find? path = some (.file text.toUTF8)) : disk.readText path = some text := by
  rw [readText, h]
  exact dif_pos text.isValidUTF8

/-- A file that is put in the place of another is found by every path to that place, except by one
that can only lead to a directory. -/
theorem find?_put (hd : disk.isDirectory location = false) (contents : ByteArray) (path : String) :
    (disk.put location (.file contents)).find? path =
      if disk.locate? path = some location ∧ endsInDirectory path = false
      then some (.file contents) else disk.find? path := by
  have hlocate := locate?_congr (sameDirectories_put hd contents) path
  have hat := at?_put disk (ne_nil_of_isDirectory_eq_false hd) (.file contents)
  cases hl : disk.locate? path with
  | none => simp [find?, hlocate, hl]
  | some place =>
      simp only [find?, hlocate, hl, hat, Option.some.injEq]
      by_cases hp : place = location
      · subst hp
        cases he : endsInDirectory path with
        | false => simp
        | true =>
            cases ho : disk.at? place with
            | none => simp
            | some node =>
                cases node with
                | directory => simp [isDirectory, ho] at hd
                | file _ => simp
      · simp [hp]

/-! ## Operations that succeed -/

/-- A file is written at a location that is not a directory. -/
theorem writeText_eq_true_iff {path text : String} :
    disk.writeText path text = (true, written) ↔
      ∃ location, endsInDirectory path = false ∧ disk.locate? path = some location ∧
        disk.isDirectory location = false ∧ written = disk.put location (.file text.toUTF8) := by
  unfold writeText writeBytes
  cases he : endsInDirectory path <;> cases hl : disk.locate? path <;> simp
  rename_i location
  cases hd : disk.isDirectory location <;> simp [eq_comm]

/-- Writing changes nothing, or puts a file at a location that is not a directory. -/
theorem writeBytes_cases (disk : Disk) (path : String) (contents : ByteArray) :
    (disk.writeBytes path contents).2 = disk ∨
      ∃ location, endsInDirectory path = false ∧ disk.locate? path = some location ∧
        disk.isDirectory location = false ∧
        (disk.writeBytes path contents).2 = disk.put location (.file contents) := by
  unfold writeBytes
  cases he : endsInDirectory path with
  | true => exact .inl rfl
  | false =>
      cases hl : disk.locate? path with
      | none => exact .inl rfl
      | some location => cases hd : disk.isDirectory location <;> simp [hd]

/-- A file is moved to a location that is not a directory. -/
theorem rename_eq_true_iff {source target : String} :
    disk.rename source target = (true, after) ↔
      ∃ old contents new, disk.locate? source = some old ∧
        disk.find? source = some (.file contents) ∧ disk.locate? target = some new ∧
        endsInDirectory target = false ∧ disk.isDirectory new = false ∧
        after = if old = new then disk else (disk.remove old).put new (.file contents) := by
  unfold rename
  constructor
  · intro h
    split at h
    · rename_i old contents new hold hfile hnew
      split at h
      · simp at h
      · rename_i hdir
        simp only [Bool.or_eq_true, not_or, Bool.not_eq_true] at hdir
        refine ⟨old, contents, new, hold, hfile, hnew, hdir.1, hdir.2, ?_⟩
        split at h <;> rename_i hsame
        · rw [if_pos hsame]
          exact (Prod.mk.inj h).2.symm
        · rw [if_neg hsame]
          exact (Prod.mk.inj h).2.symm
    · simp at h
  · rintro ⟨old, contents, new, hold, hfile, hnew, he, hd, rfl⟩
    by_cases hsame : old = new <;> simp [hold, hfile, hnew, he, hd, hsame]

/-- A file that cannot be moved stays where it is. -/
theorem eq_of_rename_eq_false {source target : String}
    (h : disk.rename source target = (false, after)) : after = disk := by
  unfold rename at h
  split at h
  · split at h
    · exact (Prod.mk.inj h).2.symm
    · split at h <;> simp at h
  · exact (Prod.mk.inj h).2.symm

/-- A file that is written and moved is where it was moved, also if it was moved to where it was.
Nothing is left where it was written first, and everything else stays. -/
theorem rename_writeText {temporary path text : String}
    (hw : disk.writeText temporary text = (true, written))
    (hr : written.rename temporary path = (true, after)) :
    ∃ old new, disk.locate? temporary = some old ∧ disk.locate? path = some new ∧
      endsInDirectory path = false ∧ disk.isDirectory old = false ∧ SameDirectories disk after ∧
      ∀ other, after.at? other =
        if other = new then some (.file text.toUTF8)
        else if other = old then none else disk.at? other := by
  obtain ⟨location, he, hl, hd, rfl⟩ := writeText_eq_true_iff.mp hw
  obtain ⟨old, contents, new, hold, hfile, hnew, he', hd', rfl⟩ := rename_eq_true_iff.mp hr
  have hn := ne_nil_of_isDirectory_eq_false hd
  have hput := at?_put disk hn (.file text.toUTF8)
  have hwritten := sameDirectories_put hd text.toUTF8
  generalize disk.put location (.file text.toUTF8) = written at *
  have hfound : written.locate? temporary = some location := (locate?_congr hwritten _).trans hl
  obtain rfl : location = old := Option.some.inj (hfound.symm.trans hold)
  have hat : written.at? location = some (.file text.toUTF8) := (hput location).trans (if_pos rfl)
  obtain rfl : text.toUTF8 = contents := by
    have hcontents := (find?_of_file hfound hat he).symm.trans hfile
    simpa using hcontents
  refine ⟨location, new, hl, (locate?_congr hwritten path).symm.trans hnew, he', hd, ?_⟩
  by_cases hstays : location = new
  · subst hstays
    rw [if_pos rfl]
    refine ⟨hwritten, fun other => ?_⟩
    rw [hput other]
    split <;> rfl
  · rw [if_neg hstays]
    have hremove := sameDirectories_remove ((hwritten location).trans hd)
    have hmoved := sameDirectories_put ((hremove new).trans hd') text.toUTF8
    refine ⟨fun other => ((hmoved other).trans (hremove other)).trans (hwritten other), ?_⟩
    intro other
    rw [at?_put _ (ne_nil_of_isDirectory_eq_false hd'), at?_remove _ hn, hput other]
    by_cases ho : other = location <;> simp [ho]

/-- The text that was written is found where the file was moved. -/
theorem find?_rename_writeText {temporary path text : String}
    (hw : disk.writeText temporary text = (true, written))
    (hr : written.rename temporary path = (true, after)) :
    after.find? path = some (.file text.toUTF8) := by
  obtain ⟨old, new, _, hnew, he, _, hsame, hat⟩ := rename_writeText hw hr
  exact find?_of_file ((locate?_congr hsame path).trans hnew) ((hat new).trans (if_pos rfl)) he

end PrintJob.Disk
