import PrintJob.Proofs.Disk.Replacement
import PrintJob.Proofs.Json.RoundTrip
import PrintJob.Proofs.Records.Remains
import PrintJob.Settings.Store

/-! # Settings that were stored

Settings that were saved are loaded again, mended. Whatever is loaded needs no mending. -/

namespace PrintJob

/-! ## Mended settings -/

theorem isBlankText_orDefault {default : String} (h : Text.isBlankText default.toList = false)
    (text : String) : Text.isBlankText (orDefault default text).toList = false := by
  unfold orDefault
  split <;> simp_all

theorem orDefault_of_not_blank {text : String} (h : Text.isBlankText text.toList = false)
    (default : String) : orDefault default text = text := by
  simp [orDefault, h]

/-- None of the names of an application is blank. -/
structure Application.IsNamed (source : Application) : Prop where
  name : Text.isBlankText source.name.toList = false
  version : Text.isBlankText source.version.toList = false
  system : Text.isBlankText source.system.toList = false

theorem Application.isNamed_mend (source : Application) : source.mend.IsNamed :=
  ⟨isBlankText_orDefault (by decide) _, isBlankText_orDefault (by decide) _,
    isBlankText_orDefault (by decide) _⟩

theorem Application.IsNamed.mend_eq {source : Application} (h : source.IsNamed) :
    source.mend = source := by
  simp [Application.mend, orDefault_of_not_blank, h.name, h.version, h.system]

namespace Settings

/-- Settings that need no mending. -/
structure IsSound (settings : Settings) : Prop where
  version : 1 ≤ settings.version
  source : settings.source.IsNamed
  shortest : 100 ≤ settings.timeoutMs
  longest : settings.timeoutMs ≤ 600000
  debugDir : settings.debugDir ≠ some ""

theorem clampTimeout_bounds (timeout : UInt64) :
    100 ≤ clampTimeout timeout ∧ clampTimeout timeout ≤ 600000 := by
  unfold clampTimeout shortestTimeout longestTimeout
  split
  · decide
  · split
    · decide
    · rename_i hs hl
      exact ⟨UInt64.not_lt.mp hs, UInt64.not_lt.mp hl⟩

theorem clampTimeout_of_bounds {timeout : UInt64} (hs : 100 ≤ timeout) (hl : timeout ≤ 600000) :
    clampTimeout timeout = timeout := by
  have hshort : ¬ timeout < shortestTimeout := UInt64.not_lt.mpr hs
  have hlong : ¬ longestTimeout < timeout := UInt64.not_lt.mpr hl
  rw [clampTimeout, if_neg hshort, if_neg hlong]

theorem one_le_iff {version : UInt32} : 1 ≤ version ↔ version ≠ 0 := by
  rw [UInt32.le_iff_toNat_le, ne_eq, ← UInt32.toNat_inj]
  exact Nat.one_le_iff_ne_zero

theorem isSound_mend (settings : Settings) : settings.mend.IsSound := by
  refine ⟨?_, settings.source.isNamed_mend, (clampTimeout_bounds _).1, (clampTimeout_bounds _).2,
    ?_⟩
  · rw [one_le_iff]
    change (if settings.version = 0 then 1 else settings.version) ≠ 0
    split
    · decide
    · assumption
  · simp [mend, Option.filter_eq_some_iff]

theorem IsSound.mend_eq {settings : Settings} (h : settings.IsSound) :
    settings.mend = settings := by
  obtain ⟨hversion, hsource, hshortest, hlongest, hdir⟩ := h
  have hfilter : settings.debugDir.filter (fun dir => !dir.isEmpty) = settings.debugDir := by
    cases hd : settings.debugDir with
    | none => rfl
    | some dir => simp [hd] at hdir ⊢; exact hdir
  simp [mend, one_le_iff.mp hversion, hsource.mend_eq, clampTimeout_of_bounds hshortest hlongest,
    hfilter]

/-- Settings are left as they are exactly if they need no mending. -/
theorem mend_eq_self_iff {settings : Settings} : settings.mend = settings ↔ settings.IsSound :=
  ⟨fun h => h ▸ settings.isSound_mend, IsSound.mend_eq⟩

theorem isSound_default : ({} : Settings).IsSound := mend_eq_self_iff.mp (by decide)

/-! ## Operations one after the other -/

section

variable {σ α β : Type} {before after : σ}

theorem bind_eq_iff {first : StateM σ α} {next : α → StateM σ β} {b : β} :
    (first >>= next) before = (b, after) ↔
      ∃ a between, first before = (a, between) ∧ next a between = (b, after) := by
  constructor
  · intro h
    exact ⟨(first before).1, (first before).2, rfl, h⟩
  · rintro ⟨a, between, hfirst, hnext⟩
    simpa [bind, StateT.bind, hfirst] using hnext

theorem pure_eq_iff {a b : α} :
    (pure a : StateM σ α) before = (b, after) ↔ a = b ∧ before = after :=
  Prod.mk.injEq a before b after ▸ Iff.rfl

end

/-! ## Loading -/

section

variable {σ : Type} {files : Files (StateM σ)} {settings : Settings} {path : String}
variable {before after : σ}

theorem load_eq_ok_iff :
    load files path before = (.ok settings, after) ↔
      ∃ text stored, files.readText path before = (some text, after) ∧
        ofFileText? text = some stored ∧ stored.mend = settings := by
  rw [load, bind_eq_iff]
  constructor
  · rintro ⟨_ | text, between, hread, hrest⟩
    · simp [pure_eq_iff] at hrest
    · cases hstored : ofFileText? text with
      | none => simp [hstored, pure_eq_iff] at hrest
      | some stored =>
          simp only [hstored, pure_eq_iff, Except.ok.injEq] at hrest
          obtain ⟨hmend, rfl⟩ := hrest
          exact ⟨text, stored, hread, hstored, hmend⟩
  · rintro ⟨text, stored, hread, hstored, rfl⟩
    exact ⟨some text, after, hread, by simp [hstored, pure_eq_iff]⟩

theorem isSound_of_load (h : load files path before = (.ok settings, after)) :
    settings.IsSound := by
  obtain ⟨_, stored, _, _, rfl⟩ := load_eq_ok_iff.mp h
  exact stored.isSound_mend

theorem isSound_of_loadIfPresent (h : loadIfPresent files path before = (.ok settings, after)) :
    settings.IsSound := by
  obtain ⟨isThere, between, _, hrest⟩ := bind_eq_iff.mp h
  cases isThere with
  | true => exact isSound_of_load hrest
  | false =>
      obtain ⟨hdefault, _⟩ := pure_eq_iff.mp hrest
      obtain rfl := Except.ok.inj hdefault
      exact isSound_default

/-! ## Saving -/

/-- The temporary file is written and moved into place. -/
def Replaces (files : Files (StateM σ)) (settings : Settings) (path : String)
    (before after : σ) : Prop :=
  ∃ written, files.writeText (temporaryPath path) settings.fileText before = (true, written) ∧
    files.rename (temporaryPath path) path written = (true, after)

/-- The operations that save settings succeed one after the other. -/
inductive Stores (files : Files (StateM σ)) (settings : Settings) (path : String)
    (before after : σ) : Prop where
  | here : directoryPath path = none → Replaces files settings path before after →
      Stores files settings path before after
  | within {directory : String} {made : σ} : directoryPath path = some directory →
      files.createDirectories directory before = (true, made) →
      Replaces files settings path made after → Stores files settings path before after

theorem replaceFile_eq_ok_iff :
    replaceFile files settings path before = (.ok (), after) ↔
      Replaces files settings path before after := by
  rw [replaceFile, bind_eq_iff]
  constructor
  · rintro ⟨_ | _, written, hwrite, hrest⟩
    · simp [pure_eq_iff] at hrest
    · obtain ⟨_ | _, moved, hrename, hdone⟩ := bind_eq_iff.mp hrest
      · simp [pure_eq_iff] at hdone
      · obtain ⟨_, rfl⟩ := pure_eq_iff.mp hdone
        exact ⟨written, hwrite, hrename⟩
  · rintro ⟨written, hwrite, hrename⟩
    exact ⟨true, written, hwrite, bind_eq_iff.mpr ⟨true, after, hrename, rfl⟩⟩

theorem save_eq_ok_iff :
    save files settings path before = (.ok (), after) ↔
      Stores files settings path before after := by
  unfold save
  cases hd : directoryPath path with
  | none =>
      constructor
      · intro h
        exact .here hd (replaceFile_eq_ok_iff.mp h)
      · rintro (⟨_, hreplaces⟩ | ⟨hsome, _, _⟩)
        · exact replaceFile_eq_ok_iff.mpr hreplaces
        · simp [hd] at hsome
  | some directory =>
      constructor
      · intro h
        obtain ⟨_ | _, made, hmake, hrest⟩ := bind_eq_iff.mp h
        · simp [pure_eq_iff] at hrest
        · exact .within hd hmake (replaceFile_eq_ok_iff.mp hrest)
      · rintro (⟨hnone, _⟩ | ⟨hsome, hmake, hreplaces⟩)
        · simp [hd] at hnone
        · obtain rfl : directory = _ := Option.some.inj (hd.symm.trans hsome)
          exact bind_eq_iff.mpr ⟨true, _, hmake, replaceFile_eq_ok_iff.mpr hreplaces⟩

end

/-! ## The text of a settings file -/

theorem isExact_toJson (settings : Settings) : settings.toJson.IsExact := by
  have hversion : (Json.nat settings.version.toNat).IsExact := by
    have hlt := settings.version.toNat_lt
    exact .int ⟨by omega, by simp; omega⟩
  have htimeout : (Json.nat settings.timeoutMs.toNat).IsExact := by
    have hlt := settings.timeoutMs.toNat_lt
    exact .int ⟨by omega, by simp; omega⟩
  have hsource : settings.source.toJson.IsExact := by
    apply Json.isExact_record
    simp [Json.IsExact.text]
  have hdir : (Json.ofOption .text settings.debugDir).IsExact := by
    cases settings.debugDir with
    | none => exact .null
    | some dir => exact .text dir
  apply Json.isExact_record
  simp [hversion, htimeout, hsource, hdir]

theorem ofFileText?_fileText (settings : Settings) :
    ofFileText? settings.fileText = some settings := by
  rw [ofFileText?, fileText, Json.parse?_pretty settings.isExact_toJson]
  exact settings.ofJson?_toJson

theorem readText_of_replaces {settings : Settings} {path : String} {before after : Disk}
    (h : Replaces Disk.files settings path before after) :
    after.readText path = some settings.fileText := by
  obtain ⟨written, hwrite, hrename⟩ := h
  rw [Disk.files_writeText] at hwrite
  rw [Disk.files_rename] at hrename
  exact Disk.readText_of_find? (Disk.find?_rename_writeText hwrite hrename)

theorem load_of_stores {settings : Settings} {path : String} {before after : Disk}
    (h : Stores Disk.files settings path before after) :
    load Disk.files path after = (.ok settings.mend, after) := by
  have hread : after.readText path = some settings.fileText := by
    cases h with
    | here _ hreplaces => exact readText_of_replaces hreplaces
    | within _ _ hreplaces => exact readText_of_replaces hreplaces
  refine load_eq_ok_iff.mpr ⟨_, settings, ?_, settings.ofFileText?_fileText, rfl⟩
  rw [Disk.files_readText, hread]

/-- Settings whose operations on the disk succeed are saved, and are then loaded mended. Mending
twice is mending once, and the settings that mending leaves as they are are the sound ones. All
settings that are loaded are such, whatever the files hold. -/
theorem load_after_save :
    (∀ (settings : Settings) (path : String) (before after : Disk),
      Stores Disk.files settings path before after →
        save Disk.files settings path before = (.ok (), after) ∧
          load Disk.files path after = (.ok settings.mend, after)) ∧
    (∀ settings : Settings, settings.mend.mend = settings.mend) ∧
    (∀ settings : Settings, settings.mend = settings ↔ settings.IsSound) ∧
    ∀ (σ : Type) (files : Files (StateM σ)) (path : String) (before after : σ)
      (settings : Settings),
      load files path before = (.ok settings, after) ∨
        loadIfPresent files path before = (.ok settings, after) →
      settings.mend = settings := by
  refine ⟨fun settings path before after h => ⟨save_eq_ok_iff.mpr h, load_of_stores h⟩,
    fun settings => settings.isSound_mend.mend_eq, fun _ => mend_eq_self_iff, ?_⟩
  intro σ files path before after settings h
  rcases h with h | h
  · exact (isSound_of_load h).mend_eq
  · exact (isSound_of_loadIfPresent h).mend_eq

/-- Settings with a blank name and too short a time are saved in a directory that is not there
yet. -/
theorem load_after_save_nested :
    ∃ after : Disk,
      let settings : Settings := { source := { name := " " }, timeoutMs := 5 }
      Stores Disk.files settings "nested/sequencer.json" .empty after ∧
        save Disk.files settings "nested/sequencer.json" .empty = (.ok (), after) ∧
        load Disk.files "nested/sequencer.json" after = (.ok { timeoutMs := 100 }, after) := by
  let settings : Settings := { source := { name := " " }, timeoutMs := 5 }
  have hdirectory : directoryPath "nested/sequencer.json" = some "nested" := by decide +kernel
  have htemporary : temporaryPath "nested/sequencer.json" = "nested/sequencer.tmp" := by
    decide +kernel
  let folder : Location := ["nested".toList]
  let contents := settings.fileText.toUTF8
  let made : Disk := ⟨[(folder, .directory)]⟩
  let written : Disk := made.put (folder ++ ["sequencer.tmp".toList]) (.file contents)
  let after : Disk := made.put (folder ++ ["sequencer.json".toList]) (.file contents)
  have hmake : Disk.empty.createDirectories "nested" = (true, made) := by rfl
  have hwrite : made.writeText "nested/sequencer.tmp" settings.fileText = (true, written) := by
    rfl
  have hrename : written.rename "nested/sequencer.tmp" "nested/sequencer.json" = (true, after) := by
    rfl
  have hafter : Stores Disk.files settings "nested/sequencer.json" .empty after := by
    refine .within hdirectory hmake ⟨written, ?_, ?_⟩
    · rw [htemporary, Disk.files_writeText, hwrite]
    · rw [htemporary, Disk.files_rename, hrename]
  obtain ⟨hsave, hload⟩ := load_after_save.1 settings "nested/sequencer.json" .empty after hafter
  have hmend : settings.mend = { timeoutMs := 100 } := by decide
  exact ⟨after, hafter, hsave, hmend ▸ hload⟩

end Settings

end PrintJob
