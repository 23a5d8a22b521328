import PrintJob.Proofs.Disk.Creation
import PrintJob.Proofs.Disk.Names
import PrintJob.Proofs.Settings.Storing

/-! # Saving settings where operations fail

Each of the operations that save settings may fail, and a write that fails may leave anything where
the text was to be. As the text is written to a temporary file first, the settings file is either
kept or replaced as a whole. -/

namespace PrintJob

/-! ## Operations that may fail -/

namespace Disk

variable {disk : Disk}

/-- What can come of creating directories: all of them, or those for some of the names in front. -/
inductive Creates (disk : Disk) (path : String) : Bool → Disk → Prop
  | all {after : Disk} : disk.createDirectories path = (true, after) →
      Creates disk path true after
  | part {front rest : List (List Char)} : names path = front ++ rest →
      Creates disk path false (disk.makeDirectories [] front).2

/-- What can come of writing a text: a file with the text, no change, or a file with anything. -/
inductive Writes (disk : Disk) (path text : String) : Bool → Disk → Prop
  | whole {after : Disk} : disk.writeText path text = (true, after) → Writes disk path text true after
  | nothing : Writes disk path text false disk
  | anything (contents : ByteArray) : Writes disk path text false (disk.writeBytes path contents).2

/-- What can come of moving a file: it is moved, or nothing changes. -/
inductive Moves (disk : Disk) (source target : String) : Bool → Disk → Prop
  | moved {after : Disk} : disk.rename source target = (true, after) →
      Moves disk source target true after
  | kept : Moves disk source target false disk

end Disk

/-- The operations work on the disk that is part of a state, and each of them may fail. -/
structure Files.MayFail {σ : Type} (files : Files (StateM σ)) (disk : σ → Disk) : Prop where
  creates {path : String} {before after : σ} {ok : Bool} :
    files.createDirectories path before = (ok, after) → (disk before).Creates path ok (disk after)
  writes {path text : String} {before after : σ} {ok : Bool} :
    files.writeText path text before = (ok, after) → (disk before).Writes path text ok (disk after)
  moves {source target : String} {before after : σ} {ok : Bool} :
    files.rename source target before = (ok, after) →
      (disk before).Moves source target ok (disk after)

namespace Disk

/-- The operations of a disk fail only where they have to. -/
theorem mayFail_files : files.MayFail id := by
  constructor
  · intro path before after ok h
    change before.createDirectories path = (ok, after) at h
    cases ok with
    | true => exact .all h
    | false =>
        obtain rfl : (before.createDirectories path).2 = after := by rw [h]
        exact .part (List.append_nil (names path)).symm
  · intro path text before after ok h
    rw [files_writeText] at h
    cases ok with
    | true => exact .whole h
    | false =>
        obtain rfl : (before.writeText path text).2 = after := by rw [h]
        exact .anything text.toUTF8
  · intro source target before after ok h
    rw [files_rename] at h
    cases ok with
    | true => exact .moved h
    | false =>
        obtain rfl := eq_of_rename_eq_false h
        exact .kept

/-- The operations of a disk where nothing gets into a file. -/
def fullFiles : Files (StateM Disk) :=
  { files with writeText := fun path _ disk => (false, (disk.writeBytes path .empty).2) }

theorem mayFail_fullFiles : fullFiles.MayFail id := by
  refine ⟨mayFail_files.creates, ?_, mayFail_files.moves⟩
  intro path text before after ok h
  obtain ⟨rfl, rfl⟩ := Prod.mk.inj h
  exact .anything .empty

end Disk

/-! ## Paths beside a path -/

namespace Disk

variable {disk : Disk}

theorem names_eq (path : String) : names path = Path.names path.toList := rfl

end Disk

namespace Settings

theorem names_directoryPath {path directory : String} (h : directoryPath path = some directory) :
    Disk.names directory = (Disk.names path).dropLast := by
  simp only [directoryPath, Option.map_eq_some_iff, Option.filter_eq_some_iff] at h
  obtain ⟨parent, ⟨hparent, hn⟩, rfl⟩ := h
  rw [Disk.names_eq, Disk.names_eq, String.toList_ofList]
  unfold Path.parent? at hparent
  cases hs : Path.splitLast path.toList with
  | none =>
      rw [hs] at hparent
      dsimp only at hparent
      split at hparent
      · cases hparent
        simp at hn
      · cases hparent
  | some pair =>
      obtain ⟨before, last⟩ := pair
      rw [hs] at hparent
      cases hparent
      rw [Path.names_parent hs, Path.names_of_splitLast hs, List.dropLast_concat]

theorem dropLast_names_of_directoryPath {path : String} (h : directoryPath path = none) :
    (Disk.names path).dropLast = [] := by
  rw [Disk.names_eq]
  cases hs : Path.splitLast path.toList with
  | none => rw [Path.names_of_splitLast_none hs]; rfl
  | some pair =>
      obtain ⟨before, last⟩ := pair
      simp only [directoryPath, Path.parent?, hs] at h
      have hempty : Path.head path.toList ++ Text.join '/' (Path.dropIdle before) = [] := by
        simpa [Option.filter] using h
      rw [Path.names_of_splitLast hs, List.dropLast_concat, ← Path.names_parent hs, hempty]
      rfl

/-! ## The courses of saving -/

/-- Saving settings stops at the operation that fails, or all of them succeed. -/
inductive Course (settings : Settings) (path : String) (before : Disk) :
    Except SettingsError Unit → Disk → Prop
  | uncreated {directory : String} {after : Disk} : directoryPath path = some directory →
      before.Creates directory false after →
      Course settings path before (.error (.noDirectory directory)) after
  | unwritten {made after : Disk} :
      before.makeDirectories [] (Disk.names path).dropLast = (true, made) →
      made.Writes (temporaryPath path) settings.fileText false after →
      Course settings path before (.error (.unwritable (temporaryPath path))) after
  | unmoved {made written after : Disk} :
      before.makeDirectories [] (Disk.names path).dropLast = (true, made) →
      made.Writes (temporaryPath path) settings.fileText true written →
      written.Moves (temporaryPath path) path false after →
      Course settings path before (.error (.unwritable path)) after
  | saved {made written after : Disk} :
      before.makeDirectories [] (Disk.names path).dropLast = (true, made) →
      made.Writes (temporaryPath path) settings.fileText true written →
      written.Moves (temporaryPath path) path true after →
      Course settings path before (.ok ()) after

section

variable {σ : Type} {files : Files (StateM σ)} {disk : σ → Disk} {settings : Settings}
variable {path : String} {before after : σ} {result : Except SettingsError Unit}

theorem course_of_replaceFile (hf : files.MayFail disk) {start : Disk}
    (hmade : start.makeDirectories [] (Disk.names path).dropLast = (true, disk before))
    (h : replaceFile files settings path before = (result, after)) :
    Course settings path start result (disk after) := by
  obtain ⟨wrote, written, hwrite, hrest⟩ := bind_eq_iff.mp h
  have hwrites := hf.writes hwrite
  cases wrote with
  | false =>
      obtain ⟨rfl, rfl⟩ := pure_eq_iff.mp hrest
      exact .unwritten hmade hwrites
  | true =>
      obtain ⟨moved, last, hrename, hdone⟩ := bind_eq_iff.mp hrest
      have hmoves := hf.moves hrename
      cases moved with
      | false =>
          obtain ⟨rfl, rfl⟩ := pure_eq_iff.mp hdone
          exact .unmoved hmade hwrites hmoves
      | true =>
          obtain ⟨rfl, rfl⟩ := pure_eq_iff.mp hdone
          exact .saved hmade hwrites hmoves

theorem course_of_save (hf : files.MayFail disk)
    (h : save files settings path before = (result, after)) :
    Course settings path (disk before) result (disk after) := by
  unfold save at h
  cases hd : directoryPath path with
  | none =>
      rw [hd] at h
      refine course_of_replaceFile hf ?_ h
      rw [dropLast_names_of_directoryPath hd]
      rfl
  | some directory =>
      rw [hd] at h
      obtain ⟨created, made, hcreate, hrest⟩ := bind_eq_iff.mp h
      have hcreates := hf.creates hcreate
      cases created with
      | false =>
          obtain ⟨rfl, rfl⟩ := pure_eq_iff.mp hrest
          exact .uncreated hd hcreates
      | true =>
          refine course_of_replaceFile hf ?_ hrest
          cases hcreates with
          | all hmade => rwa [Disk.createDirectories, names_directoryPath hd] at hmade

end

/-! ## The temporary file -/

/-- The path of a file that has the extension of temporary files already. -/
def IsTemporary (path : String) : Prop :=
  Disk.endsInDirectory path = false ∧
    ∃ stem, stem ≠ [] ∧ Path.fileName? path.toList = some (stem ++ ['.', 't', 'm', 'p'])

theorem names_temporaryPath {path : String} {before : List (List Char)} {last : List Char}
    (h : Path.splitLast path.toList = some (before, last)) (hl : last ≠ Path.above) :
    Disk.names (temporaryPath path) =
      (Disk.names path).dropLast ++ [Path.stem last ++ ['.', 't', 'm', 'p']] := by
  rw [Disk.names_eq, Disk.names_eq, temporaryPath, String.toList_ofList,
    Path.names_withExtension h hl (by decide) (by decide), Path.names_of_splitLast h,
    List.dropLast_concat]

variable {disk : Disk} {path : String} {location : Location}

/-- The temporary path leads to the place of a file only if the file is a temporary one itself. -/
theorem isTemporary_of_locate? (ht : disk.IsTree) (hp : disk.locate? path = some location)
    (htmp : disk.locate? (temporaryPath path) = some location)
    (he : Disk.endsInDirectory path = false) (hd : disk.isDirectory location = false) :
    IsTemporary path := by
  have hp := Disk.follow_of_locate? hp
  have htmp := Disk.follow_of_locate? htmp
  cases hs : Path.splitLast path.toList with
  | none =>
      rw [Disk.names_eq, Path.names_of_splitLast_none hs] at hp
      obtain rfl : [] = location := Option.some.inj hp
      cases hd
  | some pair =>
      obtain ⟨before, last⟩ := pair
      have hnames : Disk.names path = (Disk.names path).dropLast ++ [last] := by
        rw [Disk.names_eq, Path.names_of_splitLast hs, List.dropLast_concat]
      rw [hnames] at hp
      obtain ⟨directory, _, hk, hplace⟩ := Disk.exists_of_follow_concat hp
      by_cases ha : last = Path.above
      · -- What a path climbs to is a directory.
        rw [if_pos ha] at hplace
        rw [hplace, ht.isDirectory_dropLast hk] at hd
        cases hd
      · have hstem : Path.stem last ++ ['.', 't', 'm', 'p'] ≠ Path.above := by
          intro h
          have hlength := congrArg List.length h
          simp [Path.above] at hlength
        rw [names_temporaryPath hs ha] at htmp
        obtain ⟨_, _, _, htemporary⟩ := Disk.exists_of_follow_concat htmp
        rw [if_neg ha] at hplace
        rw [if_neg hstem] at htemporary
        obtain ⟨_, hsame⟩ := List.append_inj' (hplace.symm.trans htemporary) rfl
        have hn : last ≠ [] := by
          rintro rfl
          cases Path.isIdle_last hs
        refine ⟨he, Path.stem last, Path.stem_ne_nil hn, ?_⟩
        simpa [Path.fileName?, hs, ha] using hsame

/-! ## Kept or replaced -/

section

variable {before made after : Disk} {settings : Settings} {result : Except SettingsError Unit}

/-- At the path is what was there before, or else the whole text of the settings. -/
def KeptOrReplaced (settings : Settings) (path : String) (before after : Disk) : Prop :=
  after.find? path = before.find? path ∨
    after.find? path = some (.file settings.fileText.toUTF8)

/-- Directories for the names before the last one change nothing that is found at the path. -/
theorem find?_made (ht : before.IsTree) (hc : before.ClimbsKnown [] (Disk.names path))
    {front rest : List (List Char)} (hn : (Disk.names path).dropLast = front ++ rest) :
    (before.makeDirectories [] front).2.find? path = before.find? path := by
  rcases List.eq_nil_or_concat (Disk.names path) with hnil | ⟨names, last, hlast⟩
  · rw [hnil] at hn
    obtain ⟨rfl, _⟩ := List.append_eq_nil_iff.mp hn.symm
    rfl
  · rw [hlast, List.concat_eq_append, List.dropLast_concat] at hn
    rw [hn, List.concat_eq_append, List.append_assoc] at hlast
    exact Disk.find?_makeDirectories ht hc hlast (by simp)

theorem find?_written {text : String} (h : made.Writes (temporaryPath path) text true after) :
    after.find? path = made.find? path ∨ after.find? path = some (.file text.toUTF8) := by
  cases h with
  | whole hwrite =>
      obtain ⟨location, _, _, hd, rfl⟩ := Disk.writeText_eq_true_iff.mp hwrite
      rw [Disk.find?_put hd]
      split
      · exact .inr rfl
      · exact .inl rfl

/-- A write that fails changes nothing that is found at a path, unless the path is that of a
temporary file. -/
theorem find?_unwritten {text : String} (ht : made.IsTree) (hn : ¬IsTemporary path)
    (h : made.Writes (temporaryPath path) text false after) :
    after.find? path = made.find? path := by
  cases h with
  | nothing => rfl
  | anything contents =>
      rcases made.writeBytes_cases (temporaryPath path) contents with
        hsame | ⟨location, _, hlocate, hd, hput⟩
      · rw [hsame]
      · rw [hput, Disk.find?_put hd, if_neg]
        rintro ⟨hp, he⟩
        exact hn (isTemporary_of_locate? ht hp hlocate he hd)

theorem Course.find?_of_ok (h : Course settings path before (.ok ()) after) :
    after.find? path = some (.file settings.fileText.toUTF8) := by
  cases h with
  | saved _ hwrites hmoves =>
      cases hwrites with
      | whole hwrite =>
          cases hmoves with
          | moved hrename => exact Disk.find?_rename_writeText hwrite hrename

theorem Course.keptOrReplaced (ht : before.IsTree)
    (hc : before.ClimbsKnown [] (Disk.names path))
    (hn : ¬(IsTemporary path ∧ result = .error (.unwritable (temporaryPath path))))
    (h : Course settings path before result after) :
    KeptOrReplaced settings path before after := by
  have hfind {made : Disk}
      (hmade : before.makeDirectories [] (Disk.names path).dropLast = (true, made)) :
      made.find? path = before.find? path := by
    have hm := find?_made ht hc (List.append_nil (Disk.names path).dropLast).symm
    rwa [hmade] at hm
  have htree {made : Disk}
      (hmade : before.makeDirectories [] (Disk.names path).dropLast = (true, made)) :
      made.IsTree := by
    have hm : (before.makeDirectories [] (Disk.names path).dropLast).2.IsTree :=
      ht.makeDirectories rfl _
    rwa [hmade] at hm
  cases h with
  | uncreated hd hcreates =>
      cases hcreates with
      | part hnames =>
          rw [names_directoryPath hd] at hnames
          exact .inl (find?_made ht hc hnames)
  | unwritten hmade hwrites =>
      have hfile : ¬IsTemporary path := fun h => hn ⟨h, rfl⟩
      exact .inl ((find?_unwritten (htree hmade) hfile hwrites).trans (hfind hmade))
  | unmoved hmade hwrites hmoves =>
      cases hmoves with
      | kept =>
          rcases find?_written hwrites with hsame | hnew
          · exact .inl (hsame.trans (hfind hmade))
          · exact .inr hnew
  | saved hmade hwrites hmoves => exact .inr (Course.saved hmade hwrites hmoves).find?_of_ok

end

/-- Settings are saved as a whole or not at all, whatever operation fails: at the path is what was
there before or the whole text, and it is the text if saving succeeds. The path must not climb out
of a directory that was not there, and a temporary file may be spoilt when it cannot be written. -/
theorem save_keeps_or_replaces {σ : Type} (files : Files (StateM σ)) (disk : σ → Disk)
    (hf : files.MayFail disk) (settings : Settings) (path : String) (before after : σ)
    (result : Except SettingsError Unit)
    (h : save files settings path before = (result, after)) :
    (result = .ok () → (disk after).find? path = some (.file settings.fileText.toUTF8)) ∧
    ((disk before).IsTree → (disk before).ClimbsKnown [] (Disk.names path) →
      ¬(IsTemporary path ∧ result = .error (.unwritable (temporaryPath path))) →
        KeptOrReplaced settings path (disk before) (disk after)) := by
  have hcourse := course_of_save hf h
  constructor
  · rintro rfl
    exact hcourse.find?_of_ok
  · intro ht hc hn
    exact hcourse.keptOrReplaced ht hc hn

/-- On a full disk a file of settings is kept, and only the temporary file is left empty. -/
theorem save_keeps_or_replaces_full :
    let before : Disk := Disk.empty.put ["a.json".toList] (.file "{}".toUTF8)
    let after : Disk := before.put ["a.tmp".toList] (.file .empty)
    Disk.fullFiles.MayFail id ∧
      save Disk.fullFiles {} "a.json" before = (.error (.unwritable "a.tmp"), after) ∧
      before.IsTree ∧ before.ClimbsKnown [] (Disk.names "a.json") ∧ ¬IsTemporary "a.json" ∧
      KeptOrReplaced {} "a.json" before after := by
  intro before after
  have hdirectory : directoryPath "a.json" = none := by decide +kernel
  have htemporary : temporaryPath "a.json" = "a.tmp" := by decide +kernel
  have hsave : save Disk.fullFiles {} "a.json" before = (.error (.unwritable "a.tmp"), after) := by
    unfold save replaceFile
    rw [hdirectory, htemporary]
    rfl
  have htree : before.IsTree :=
    @Disk.IsTree.put .empty [] "a.json".toList Disk.isTree_empty rfl rfl _
  have hclimbs : before.ClimbsKnown [] (Disk.names "a.json") :=
    Disk.climbsKnown_of_not_mem (by decide +kernel)
  have hfile : ¬IsTemporary "a.json" := by
    rintro ⟨_, stem, _, hname⟩
    have hjson : Path.fileName? "a.json".toList = some "a.json".toList := by decide +kernel
    have hlast := congrArg List.getLast? (Option.some.inj (hjson.symm.trans hname))
    simp at hlast
  refine ⟨Disk.mayFail_fullFiles, hsave, htree, hclimbs, hfile, ?_⟩
  exact (save_keeps_or_replaces Disk.fullFiles id Disk.mayFail_fullFiles {} "a.json" before after _
    hsave).2 htree hclimbs fun h => hfile h.1

/-- A path that climbs out of a directory that was not there leads to another file afterwards, and
on a full disk a temporary file that is written in its own place is lost. -/
theorem not_forall_keptOrReplaced :
    (¬∀ (settings : Settings) (path : String) (before after : Disk)
      (result : Except SettingsError Unit), before.IsTree →
        save Disk.files settings path before = (result, after) →
        KeptOrReplaced settings path before after) ∧
    ¬∀ (files : Files (StateM Disk)) (settings : Settings) (path : String) (before after : Disk)
      (result : Except SettingsError Unit), files.MayFail id → before.IsTree →
        before.ClimbsKnown [] (Disk.names path) →
        save files settings path before = (result, after) →
        KeptOrReplaced settings path before after := by
  have hempty {text : String} (ht : text ≠ "") :
      some (Node.file .empty) ≠ some (Node.file text.toUTF8) := by
    intro h
    exact ht (String.toByteArray_inj.mp (Node.file.inj (Option.some.inj h)).symm)
  have htext : ({} : Settings).fileText ≠ "" := by decide +kernel
  constructor
  · intro h
    let before : Disk :=
      (Disk.empty.put ["b".toList] (.file .empty)).put ["b.tmp".toList] .directory
    let after : Disk := before.put ["a".toList] .directory
    have hdirectory : directoryPath "a/../b" = some "a/.." := by decide +kernel
    have htemporary : temporaryPath "a/../b" = "a/../b.tmp" := by decide +kernel
    have hsave : save Disk.files {} "a/../b" before =
        (.error (.unwritable "a/../b.tmp"), after) := by
      unfold save replaceFile
      rw [hdirectory, htemporary]
      rfl
    have htree : before.IsTree :=
      @Disk.IsTree.put _ [] "b.tmp".toList
        (@Disk.IsTree.put .empty [] "b".toList Disk.isTree_empty rfl rfl _) rfl rfl _
    have hbefore : before.find? "a/../b" = none := by rfl
    have hafter : after.find? "a/../b" = some (.file .empty) := by rfl
    rcases h {} "a/../b" before after _ htree hsave with hkept | hnew
    · rw [hbefore, hafter] at hkept
      cases hkept
    · exact hempty htext (hafter.symm.trans hnew)
  · intro h
    let before : Disk := Disk.empty.put ["a.tmp".toList] (.file "{}".toUTF8)
    let after : Disk := before.put ["a.tmp".toList] (.file .empty)
    have hdirectory : directoryPath "a.tmp" = none := by decide +kernel
    have htemporary : temporaryPath "a.tmp" = "a.tmp" := by decide +kernel
    have hsave : save Disk.fullFiles {} "a.tmp" before = (.error (.unwritable "a.tmp"), after) := by
      unfold save replaceFile
      rw [hdirectory, htemporary]
      rfl
    have htree : before.IsTree :=
      @Disk.IsTree.put .empty [] "a.tmp".toList Disk.isTree_empty rfl rfl _
    have hclimbs : before.ClimbsKnown [] (Disk.names "a.tmp") :=
      Disk.climbsKnown_of_not_mem (by decide +kernel)
    have hbefore : before.find? "a.tmp" = some (.file "{}".toUTF8) := by rfl
    have hafter : after.find? "a.tmp" = some (.file .empty) := by rfl
    rcases h Disk.fullFiles {} "a.tmp" before after _ Disk.mayFail_fullFiles htree hclimbs hsave with
      hkept | hnew
    · exact hempty (by decide) (hafter.symm.trans (hkept.trans hbefore))
    · exact hempty htext (hafter.symm.trans hnew)

end Settings

end PrintJob
