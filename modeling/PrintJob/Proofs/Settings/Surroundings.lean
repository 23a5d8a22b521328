import PrintJob.Command.Run
import PrintJob.Proofs.Settings.Faults

/-! # What saving settings leaves alone

Saving settings touches the settings file and the temporary file beside it, and creates directories
on the way to them. Everything else on the disk stays as it is. -/

namespace PrintJob

namespace Settings

/-- Of two disks the second differs from the first at a path and its temporary path only, and by
directories that were missing on the way to them. Nothing is left at the temporary path. -/
structure LeavesAlone (path : String) (before after : Disk) : Prop where
  elsewhere (location : Location) : after.locate? path ≠ some location →
    after.locate? (temporaryPath path) ≠ some location →
      after.at? location = before.at? location ∨
        before.at? location = none ∧ after.at? location = some .directory ∧
          location ∈ Disk.trail [] (Disk.names path).dropLast
  temporary (location : Location) : after.locate? (temporaryPath path) = some location →
    after.locate? path ≠ some location →
      before.isDirectory location = false ∧ after.at? location = none

variable {settings : Settings} {path : String} {before after : Disk}

theorem leavesAlone_of_save (h : save Disk.files settings path before = (.ok (), after)) :
    LeavesAlone path before after := by
  have hcourse : Course settings path before (.ok ()) after := course_of_save Disk.mayFail_files h
  cases hcourse with
  | @saved made written _ hmade hwrites hmoves =>
      cases hwrites with
      | whole hwrite =>
          cases hmoves with
          | moved hrename =>
              have hgrows := Disk.grows_makeDirectories before [] (Disk.names path).dropLast
              rw [hmade] at hgrows
              obtain ⟨old, new, hold, hnew, _, hdirectory, hsame, hat⟩ :=
                Disk.rename_writeText hwrite hrename
              have hold := (Disk.locate?_congr hsame (temporaryPath path)).trans hold
              have hnew := (Disk.locate?_congr hsame path).trans hnew
              constructor
              · intro location hpath htemporary
                have hn : location ≠ new := by
                  rintro rfl
                  exact hpath hnew
                have ho : location ≠ old := by
                  rintro rfl
                  exact htemporary hold
                rw [hat, if_neg hn, if_neg ho]
                exact hgrows location
              · intro location htemporary hpath
                obtain rfl : old = location := Option.some.inj (hold.symm.trans htemporary)
                have hn : old ≠ new := by
                  rintro rfl
                  exact hpath hnew
                constructor
                · by_contra hd
                  rw [Bool.not_eq_false] at hd
                  rw [hgrows.isDirectory hd] at hdirectory
                  cases hdirectory
                · rw [hat, if_neg hn, if_pos rfl]

end Settings

namespace Command

variable {path : String} {before after : Disk} {report : Report}

/-- A file of settings is initialized by saving the default settings where nothing was. -/
theorem runInitSettings_success (h : runInitSettings Disk.files path before = (report, after))
    (hs : report.ending = .success) :
    before.pathExists path = false ∧ Settings.save Disk.files {} path before = (.ok (), after) := by
  obtain ⟨present, between, hexists, hrest⟩ := Settings.bind_eq_iff.mp h
  obtain ⟨rfl, rfl⟩ : before.pathExists path = present ∧ before = between := Prod.mk.inj hexists
  cases hp : before.pathExists path with
  | true =>
      rw [hp] at hrest
      obtain ⟨rfl, _⟩ := Settings.pure_eq_iff.mp hrest
      cases hs
  | false =>
      rw [hp] at hrest
      obtain ⟨result, saved, hsave, hdone⟩ := Settings.bind_eq_iff.mp hrest
      cases result with
      | error error =>
          obtain ⟨rfl, _⟩ := Settings.pure_eq_iff.mp hdone
          cases hs
      | ok _ =>
          obtain ⟨_, rfl⟩ := Settings.pure_eq_iff.mp hdone
          exact ⟨rfl, hsave⟩

end Command

namespace Settings

/-- Settings that are saved, also when they are initialized, leave everything alone but the file at
their path and the one at its temporary path, and directories are new only on the way. -/
theorem save_leaves_alone :
    (∀ (settings : Settings) (path : String) (before after : Disk),
      save Disk.files settings path before = (.ok (), after) → LeavesAlone path before after) ∧
    ∀ (path : String) (before after : Disk) (report : Command.Report),
      Command.runInitSettings Disk.files path before = (report, after) →
        report.ending = .success → LeavesAlone path before after := by
  constructor
  · intro settings path before after h
    exact leavesAlone_of_save h
  · intro path before after report h hs
    exact leavesAlone_of_save (Command.runInitSettings_success h hs).2

/-- A file beside the directory that is made stays, both when settings are saved and when they are
initialized. -/
theorem save_leaves_alone_beside :
    let before : Disk := Disk.empty.put ["b.tmp".toList] (.file "keep".toUTF8)
    let after : Disk := (before.put ["c".toList] .directory).put ["c".toList, "b.json".toList]
      (.file ({} : Settings).fileText.toUTF8)
    save Disk.files {} "c/b.json" before = (.ok (), after) ∧
      LeavesAlone "c/b.json" before after ∧
      ∃ report, Command.runInitSettings Disk.files "c/b.json" before = (report, after) ∧
        report.ending = .success ∧ LeavesAlone "c/b.json" before after := by
  intro before after
  have hdirectory : directoryPath "c/b.json" = some "c" := by decide +kernel
  have htemporary : temporaryPath "c/b.json" = "c/b.tmp" := by decide +kernel
  have hsave : save Disk.files {} "c/b.json" before = (.ok (), after) := by
    unfold save replaceFile
    rw [hdirectory, htemporary]
    rfl
  have hinit : Command.runInitSettings Disk.files "c/b.json" before =
      (.ok ["wrote c/b.json"], after) := by
    have hmissing : Disk.files.pathExists "c/b.json" before = (false, before) := by rfl
    refine Settings.bind_eq_iff.mpr ⟨_, _, hmissing, ?_⟩
    exact Settings.bind_eq_iff.mpr ⟨_, _, hsave, rfl⟩
  exact ⟨hsave, save_leaves_alone.1 {} "c/b.json" before after hsave, _, hinit, rfl,
    save_leaves_alone.2 "c/b.json" before after _ hinit rfl⟩

/-- A file that has the name of the temporary one is lost. -/
theorem not_forall_left_alone :
    ¬∀ (settings : Settings) (path : String) (before after : Disk),
      save Disk.files settings path before = (.ok (), after) →
      ∀ location, after.locate? path ≠ some location →
        after.at? location = before.at? location ∨
          before.at? location = none ∧ after.at? location = some .directory ∧
            location ∈ Disk.trail [] (Disk.names path).dropLast := by
  intro h
  let before : Disk := Disk.empty.put ["a.tmp".toList] (.file "keep".toUTF8)
  let after : Disk :=
    Disk.empty.put ["a.json".toList] (.file ({} : Settings).fileText.toUTF8)
  have hdirectory : directoryPath "a.json" = none := by decide +kernel
  have htemporary : temporaryPath "a.json" = "a.tmp" := by decide +kernel
  have hsave : save Disk.files {} "a.json" before = (.ok (), after) := by
    unfold save replaceFile
    rw [hdirectory, htemporary]
    rfl
  have hpath : after.locate? "a.json" ≠ some ["a.tmp".toList] := by decide +kernel
  have hbefore : before.at? ["a.tmp".toList] = some (.file "keep".toUTF8) := by rfl
  have hafter : after.at? ["a.tmp".toList] = none := by rfl
  rcases h {} "a.json" before after hsave ["a.tmp".toList] hpath with hsame | ⟨hnone, _, _⟩
  · rw [hbefore, hafter] at hsame
    cases hsame
  · rw [hbefore] at hnone
    cases hnone

end Settings

end PrintJob
