import PrintJob.Proofs.Range.Concatenation
import PrintJob.Proofs.Range.Outcomes

/-! # Blanks in an expression

Blanks do not count within a segment. Whether there is a segment at all is decided before they are
skipped, so a segment of blanks alone is refused where an empty one is passed over. Apart from that
an expression selects the same pages without its blanks. -/

namespace PrintJob.Range

/-- An expression without its blanks. -/
def stripped (text : String) : String := String.ofList (visible text.toList)

/-- Some segment of an expression has no other characters than blanks. -/
def HasBlankSegment (expression : List Char) : Prop :=
  ∃ segment ∈ segments expression, ∀ c ∈ segment, Text.isAsciiBlank c = true

instance (expression : List Char) : Decidable (HasBlankSegment expression) :=
  decidable_of_iff ((segments expression).any fun segment => segment.all Text.isAsciiBlank) (by
    simp [HasBlankSegment])

/-! ## Segments -/

theorem visible_eq_nil_iff (segment : List Char) :
    visible segment = [] ↔ ∀ c ∈ segment, Text.isAsciiBlank c = true := by
  simp [visible, List.filter_eq_nil_iff]

/-- Blanks do not count within a segment. -/
theorem selectRun_visible (segment : List Char) (pageCount : Nat) :
    selectRun (visible segment) pageCount = selectRun segment pageCount := by
  have hbounds : Bounds.ofSegment (visible segment) = Bounds.ofSegment segment :=
    Bounds.foldl_feed_visible segment .empty
  rw [selectRun, selectRun, hbounds]

/-- A segment of blanks has no bounds. -/
theorem selectRun_of_blank {segment : List Char}
    (h : ∀ c ∈ segment, Text.isAsciiBlank c = true) (pageCount : Nat) :
    selectRun segment pageCount = .error (.notNumeric "" "0") := by
  rw [← selectRun_visible, (visible_eq_nil_iff segment).mpr h]
  rfl

theorem refused_of_hasBlankSegment {expression : List Char} (h : HasBlankSegment expression)
    (pageCount : Nat) : Refused expression pageCount := by
  obtain ⟨segment, hm, hb⟩ := h
  exact ⟨segment, hm, _, selectRun_of_blank hb pageCount⟩

/-! ## Expressions -/

/-- Where no segment is blank, the segments stay the same but for the blanks in them. -/
theorem segments_visible {expression : List Char} (h : ¬ HasBlankSegment expression) :
    segments (visible expression) = (segments expression).map visible := by
  have hkeep : (!Text.isAsciiBlank ',') = true := by decide
  have hempty : ∀ piece ∈ Text.pieces ',' expression,
      (!(visible piece).isEmpty) = !piece.isEmpty := by
    intro piece hp
    by_cases hn : piece = []
    · simp [hn, visible]
    · have hm : piece ∈ segments expression := List.mem_filter.mpr ⟨hp, by simpa using hn⟩
      have hv : visible piece ≠ [] := fun hv =>
        h ⟨piece, hm, (visible_eq_nil_iff piece).mp hv⟩
      rw [List.isEmpty_eq_false_iff.mpr hn, List.isEmpty_eq_false_iff.mpr hv]
  calc segments (visible expression)
      = ((Text.pieces ',' expression).map visible).filter fun piece => !piece.isEmpty := by
        rw [segments, visible, Text.pieces_filter hkeep]
        rfl
    _ = ((Text.pieces ',' expression).filter fun piece => !(visible piece).isEmpty).map
          visible := List.filter_map
    _ = (segments expression).map visible := by rw [segments, List.filter_congr hempty]

theorem selectPages_visible {expression : List Char} (h : ¬ HasBlankSegment expression)
    (pageCount : Nat) :
    selectPages (visible expression) pageCount = selectPages expression pageCount := by
  simp only [selectPages_eq, selectRuns, segments_visible h, List.mapM_map, Function.comp_def,
    selectRun_visible]

/-- An expression that is not empty and has no blank segment holds more than blanks. -/
theorem stripped_ne_empty {text : String} (ht : text ≠ "") (h : ¬ HasBlankSegment text.toList) :
    stripped text ≠ "" := by
  intro he
  have hv : visible text.toList = [] := by simpa [stripped] using congrArg String.toList he
  have hnothing : selectPages text.toList 0 = .ok [] := by
    rw [← selectPages_visible h, hv]
    rfl
  have hcommas := (selectPages_eq_ok_nil_iff text.toList 0).mp hnothing
  have hblanks := (visible_eq_nil_iff text.toList).mp hv
  cases hl : text.toList with
  | nil => exact ht (String.toList_eq_nil_iff.mp hl)
  | cons c rest =>
      have hc : c ∈ text.toList := by simp [hl]
      have hcomma := hblanks c hc
      rw [hcommas c hc] at hcomma
      exact absurd hcomma (by decide)

theorem pages_resolve_stripped {text : String} (h : ¬ HasBlankSegment text.toList)
    (pageCount : Nat) :
    (resolve (some (stripped text)) pageCount).pages = (resolve (some text) pageCount).pages := by
  by_cases ht : text = ""
  · rw [ht]
    rfl
  · have hs := stripped_ne_empty ht h
    have hp : selectPages (stripped text).toList pageCount = selectPages text.toList pageCount := by
      rw [stripped, String.toList_ofList, selectPages_visible h]
    cases hr : selectPages text.toList pageCount <;> simp [resolve, ht, hs, hp, hr]

/-- An expression selects the same pages without its blanks unless one of its segments is blank. A
blank segment turns it into the whole document, so that then the pages are the same exactly if they
are all pages without the blanks too. -/
theorem pages_resolve_stripped_eq_iff (text : String) (pageCount : Nat) :
    ((resolve (some (stripped text)) pageCount).pages = (resolve (some text) pageCount).pages ↔
      (HasBlankSegment text.toList →
        (resolve (some (stripped text)) pageCount).pages = wholePages pageCount)) ∧
    (HasBlankSegment text.toList → resolve (some text) pageCount = .whole pageCount) := by
  have hwhole : HasBlankSegment text.toList → resolve (some text) pageCount = .whole pageCount :=
    fun hb => resolve_of_refused (refused_of_hasBlankSegment hb pageCount)
  refine ⟨?_, hwhole⟩
  by_cases hb : HasBlankSegment text.toList
  · rw [hwhole hb]
    exact ⟨fun he _ => he, fun he => he hb⟩
  · exact ⟨fun _ hb' => absurd hb' hb, fun _ => pages_resolve_stripped hb pageCount⟩

/-- Blanks around a dash and before a comma, and a blank after the last comma. -/
theorem pages_resolve_stripped_eq_iff_two_places :
    ¬ HasBlankSegment "2 - 1 ,3".toList ∧
      (resolve (some "2-1,3") 3).pages = (resolve (some "2 - 1 ,3") 3).pages ∧
      (resolve (some "2 - 1 ,3") 3).pages = [2, 1, 3] ∧
      HasBlankSegment "1, ".toList ∧ resolve (some "1, ") 3 = ⟨"1-3", [1, 2, 3]⟩ := by
  have hwithin : ¬ HasBlankSegment "2 - 1 ,3".toList := by decide
  have hbehind : HasBlankSegment "1, ".toList := by decide
  have hstripped : stripped "2 - 1 ,3" = "2-1,3" := by decide
  refine ⟨hwithin, ?_, by decide, hbehind, (pages_resolve_stripped_eq_iff "1, " 3).2 hbehind⟩
  rw [← hstripped]
  exact (pages_resolve_stripped_eq_iff "2 - 1 ,3" 3).1.mpr fun hb => absurd hb hwithin

/-- A blank after the last comma prints a document of three pages in full, although the expression
names its first page alone. -/
theorem not_forall_pages_resolve_stripped :
    ¬ ∀ (text : String) (pageCount : Nat),
      (resolve (some (stripped text)) pageCount).pages =
        (resolve (some text) pageCount).pages := by
  intro h
  have hpages : (resolve (some (stripped "1, ")) 3).pages = [1] := by decide
  have hwhole : (resolve (some "1, ") 3).pages = [1, 2, 3] := by decide
  have heq := h "1, " 3
  rw [hpages, hwhole] at heq
  exact absurd heq (by decide)

end PrintJob.Range
