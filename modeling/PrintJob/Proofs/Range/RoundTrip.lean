import PrintJob.Proofs.Range.Bounds
import PrintJob.Proofs.Range.Selection

/-! # Ranges written and read back

Runs that are written down are read back as the same runs, and a range that is shown is the same
range when it is applied again, as far as four digits reach. -/

namespace PrintJob.Range

open Text (decimal leading)

/-! ## Numerals as bounds -/

theorem dash_not_mem_decimal (n : Nat) : '-' ∉ decimal n := by
  intro h
  exact absurd (Text.isDigit_of_mem_decimal h) (by decide)

theorem comma_not_mem_decimal (n : Nat) : ',' ∉ decimal n := by
  intro h
  exact absurd (Text.isDigit_of_mem_decimal h) (by decide)

theorem visible_decimal (n : Nat) : visible (decimal n) = decimal n := by
  apply List.filter_eq_self.mpr
  intro c hc
  simp [isAsciiBlank_of_isDigit (Text.isDigit_of_mem_decimal hc)]

theorem isDigit_of_mem_take_decimal {n : Nat} :
    ∀ c ∈ (decimal n).take Token.width, c.isDigit = true :=
  fun _ hc => Text.isDigit_of_mem_decimal (List.mem_of_mem_take hc)

theorem isLiteral_take_decimal (n : Nat) : isLiteral ((decimal n).take Token.width) = true := by
  apply isLiteral_of_isDigit _ isDigit_of_mem_take_decimal
  simp [Token.width, Text.decimal_ne_nil]

theorem initialInteger_take_decimal (n : Nat) :
    initialInteger ((decimal n).take Token.width) = leading Token.width n :=
  initialInteger_of_isDigit isDigit_of_mem_take_decimal

/-- The bounds of a numeral on its own. -/
theorem bounds_decimal (n : Nat) :
    (Bounds.ofSegment (decimal n)).firstText = (decimal n).take Token.width ∧
      (Bounds.ofSegment (decimal n)).lastText = ['0'] := by
  rw [Bounds.ofSegment_of_not_mem (dash_not_mem_decimal n), visible_decimal]
  exact ⟨Token.text_foldl_push_empty _, rfl⟩

/-- The bounds of two numerals with a dash between them. -/
theorem bounds_decimal_dash (first last : Nat) :
    (Bounds.ofSegment (decimal first ++ '-' :: decimal last)).firstText =
        (decimal first).take Token.width ∧
      (Bounds.ofSegment (decimal first ++ '-' :: decimal last)).lastText =
        (decimal last).take Token.width := by
  rw [Bounds.ofSegment_append_dash (dash_not_mem_decimal _) (dash_not_mem_decimal _),
    visible_decimal, visible_decimal]
  exact ⟨Token.text_foldl_push_empty _, Token.text_foldl_push_empty _⟩

theorem selectRun_decimal {n pageCount : Nat} (hn : 0 < n)
    (h : leading Token.width n ≤ pageCount) :
    selectRun (decimal n) pageCount = .ok ⟨leading Token.width n, leading Token.width n⟩ := by
  obtain ⟨hf, hl⟩ := bounds_decimal n
  have hp : 0 < leading Token.width n := Text.leading_pos (by decide) hn
  have hz : initialInteger ['0'] = 0 := by decide
  apply (selectRun_eq_ok_iff _ _ _).mpr
  dsimp only
  rw [hf, hl, initialInteger_take_decimal, hz, lastPage, if_pos rfl]
  exact ⟨⟨isLiteral_take_decimal n, by decide⟩, by omega, by omega, by simp⟩

theorem selectRun_decimal_dash {first last pageCount : Nat} (hf : 0 < first) (hl : 0 < last)
    (hf' : leading Token.width first ≤ pageCount) (hl' : leading Token.width last ≤ pageCount) :
    selectRun (decimal first ++ '-' :: decimal last) pageCount =
      .ok ⟨leading Token.width first, leading Token.width last⟩ := by
  obtain ⟨hb, hb'⟩ := bounds_decimal_dash first last
  have hp : 0 < leading Token.width first := Text.leading_pos (by decide) hf
  have hp' : 0 < leading Token.width last := Text.leading_pos (by decide) hl
  apply (selectRun_eq_ok_iff _ _ _).mpr
  dsimp only
  rw [hb, hb', initialInteger_take_decimal, initialInteger_take_decimal, lastPage,
    if_neg (by omega)]
  exact ⟨⟨isLiteral_take_decimal _, isLiteral_take_decimal _⟩, by omega, by omega, by simp⟩

/-! ## Runs -/

theorem leading_width_eq_self {n : Nat} (h : n ≤ 9999) : leading Token.width n = n :=
  Text.leading_eq_self (by simp only [Token.width]; omega) (by decide)

namespace Run

theorem text_ne_nil (run : Run) : run.text ≠ [] := by
  unfold text
  split <;> simp [Text.decimal_ne_nil]

theorem comma_not_mem_text (run : Run) : ',' ∉ run.text := by
  unfold text
  split <;> simp [comma_not_mem_decimal]

theorem listText_eq_join (runs : List Run) : listText runs = Text.join ',' (runs.map text) := by
  induction runs with
  | nil => rfl
  | cons run rest ih =>
      cases rest with
      | nil => rfl
      | cons next more => simp only [listText, List.map_cons, Text.join] at ih ⊢; rw [ih]

theorem listText_ne_nil {runs : List Run} (h : runs ≠ []) : listText runs ≠ [] := by
  cases runs with
  | nil => exact absurd rfl h
  | cons run rest => cases rest <;> simp [listText, text_ne_nil]

/-- A run that is written down is read as itself. -/
theorem selectRun_text {run : Run} {pageCount : Nat} (h : run.Within (lastNamed pageCount)) :
    selectRun run.text pageCount = .ok run := by
  obtain ⟨hf, hf', hl, hl'⟩ := h
  simp only [lastNamed, Nat.le_min] at hf' hl'
  have hef := leading_width_eq_self hf'.2
  have hel := leading_width_eq_self hl'.2
  unfold text
  split
  · rename_i he
    rw [selectRun_decimal hf (hef.trans_le hf'.1), hef]
    cases run
    simp_all
  · rw [selectRun_decimal_dash hf hl (hef.trans_le hf'.1) (hel.trans_le hl'.1), hef, hel]

end Run

/-! ## Expressions -/

theorem segments_join {texts : List (List Char)} (h : ∀ text ∈ texts, text ≠ [] ∧ ',' ∉ text) :
    segments (Text.join ',' texts) = texts :=
  Text.filter_pieces_join h

theorem selectPages_join {texts : List (List Char)} {runs : List Run} {pageCount : Nat}
    (ht : ∀ text ∈ texts, text ≠ [] ∧ ',' ∉ text)
    (hr : List.Forall₂ (fun text run => selectRun text pageCount = .ok run) texts runs) :
    selectPages (Text.join ',' texts) pageCount = .ok (runs.flatMap Run.pages) := by
  apply (selectPages_eq_ok_iff _ _ _).mpr
  refine ⟨runs, ?_, rfl⟩
  rw [selectRuns, segments_join ht]
  exact (mapM_eq_ok_iff _ _ _).mpr hr

theorem selectPages_listText {runs : List Run} {pageCount : Nat}
    (h : ∀ run ∈ runs, run.Within (lastNamed pageCount)) :
    selectPages (Run.listText runs) pageCount = .ok (runs.flatMap Run.pages) := by
  rw [Run.listText_eq_join]
  apply selectPages_join
  · intro text ht
    obtain ⟨run, _, rfl⟩ := List.mem_map.mp ht
    exact ⟨run.text_ne_nil, run.comma_not_mem_text⟩
  · rw [List.forall₂_map_left_iff, List.forall₂_same]
    exact fun run hr => Run.selectRun_text (h run hr)

theorem resolve_of_selectPages {text : String} {pageCount : Nat} {pages : List Nat}
    (ht : text ≠ "") (h : selectPages text.toList pageCount = .ok pages) :
    resolve (some text) pageCount = ⟨text, pages⟩ := by
  simp [resolve, ht, h]

/-! ## What expressions can say -/

/-- Any list of pages that bounds can name is the list of some expression: that of single pages. -/
theorem exists_expression {pages : List Nat} {pageCount : Nat}
    (h : ∀ page ∈ pages, 1 ≤ page ∧ page ≤ lastNamed pageCount) :
    ∃ expression : String, selectPages expression.toList pageCount = .ok pages := by
  let runs := pages.map fun page => Run.mk page page
  have hr : ∀ run ∈ runs, run.Within (lastNamed pageCount) := by
    intro run hm
    obtain ⟨page, hp, rfl⟩ := List.mem_map.mp hm
    obtain ⟨hf, hl⟩ := h page hp
    exact ⟨hf, hl, hf, hl⟩
  have hp : runs.flatMap Run.pages = pages := by
    simp [runs, List.flatMap_map, Run.pages]
  refine ⟨String.ofList (Run.listText runs), ?_⟩
  rw [String.toList_ofList, selectPages_listText hr, hp]

/-- Runs that are written down are resolved to their pages one after another and shown as they
were written. The lists of pages that expressions select are those of pages that bounds can
name. -/
theorem resolve_listText (pageCount : Nat) :
    (∀ runs : List Run, runs ≠ [] → (∀ run ∈ runs, run.Within (lastNamed pageCount)) →
      resolve (some (String.ofList (Run.listText runs))) pageCount =
        ⟨String.ofList (Run.listText runs), runs.flatMap Run.pages⟩) ∧
    ∀ pages : List Nat,
      (∃ expression : String, selectPages expression.toList pageCount = .ok pages) ↔
        ∀ page ∈ pages, 1 ≤ page ∧ page ≤ lastNamed pageCount := by
  constructor
  · intro runs hn hr
    apply resolve_of_selectPages
    · intro he
      have ht : Run.listText runs = [] := by simpa using congrArg String.toList he
      exact Run.listText_ne_nil hn ht
    · rw [String.toList_ofList]
      exact selectPages_listText hr
  · intro pages
    constructor
    · rintro ⟨expression, h⟩ page hp
      exact named_of_selectPages h hp
    · exact exists_expression

/-- Three runs of a document of five digits, one of them downwards and one of a single page, and a
list of pages in no order. -/
theorem resolve_listText_three_runs :
    resolve (some "9998-9999,3-1,7") 12345 = ⟨"9998-9999,3-1,7", [9998, 9999, 3, 2, 1, 7]⟩ ∧
      ∃ expression : String, selectPages expression.toList 12345 = .ok [9999, 1, 9999] := by
  constructor
  · refine (resolve_listText 12345).1 [⟨9998, 9999⟩, ⟨3, 1⟩, ⟨7, 7⟩] (by simp) ?_
    intro run hr
    simp only [List.mem_cons, List.not_mem_nil, or_false] at hr
    rcases hr with rfl | rfl | rfl <;> exact ⟨by decide, by decide, by decide, by decide⟩
  · exact ((resolve_listText 12345).2 [9999, 1, 9999]).mpr (by decide)

/-! ## Applying a range again -/

/-- An expression is given, it is not empty, and it selects pages of the document. -/
def Accepted (expression : Option String) (pageCount : Nat) : Prop :=
  ∃ text pages, expression = some text ∧ text ≠ "" ∧ selectPages text.toList pageCount = .ok pages

theorem toList_wholeText (pageCount : Nat) :
    (wholeText pageCount).toList = Text.join ',' [decimal 1 ++ '-' :: decimal pageCount] := by
  have hone : decimal 1 = ['1'] := by decide
  simp only [wholeText, Text.join, hone, String.toList_append, Nat.toString_eq_repr,
    Nat.toList_repr]
  rfl

/-- The expression for a whole document is read back by its first four digits. -/
theorem resolve_wholeText {pageCount : Nat} (h : 0 < pageCount) :
    resolve (some (wholeText pageCount)) pageCount =
      ⟨wholeText pageCount, wholePages (leading Token.width pageCount)⟩ := by
  have hone : leading Token.width 1 = 1 := leading_width_eq_self (by decide)
  have hpos : 1 ≤ leading Token.width pageCount := Text.leading_pos (by decide) h
  have hrun : selectRun (decimal 1 ++ '-' :: decimal pageCount) pageCount =
      .ok ⟨1, leading Token.width pageCount⟩ := by
    rw [selectRun_decimal_dash (by decide) h (hone.trans_le h)
      (Text.leading_le (by decide) pageCount), hone]
  have hjoin : selectPages (Text.join ',' [decimal 1 ++ '-' :: decimal pageCount]) pageCount =
      .ok ([Run.mk 1 (leading Token.width pageCount)].flatMap Run.pages) := by
    apply selectPages_join
    · simp [comma_not_mem_decimal]
    · exact .cons hrun .nil
  apply resolve_of_selectPages
  · simp [wholeText]
  · rw [toList_wholeText, hjoin]
    simp [Run.pages, wholePages, hpos]

theorem size_mk_wholePages (text : String) (pageCount : Nat) :
    Resolved.size ⟨text, wholePages pageCount⟩ = pageCount := List.length_range'

theorem size_whole (pageCount : Nat) : (Resolved.whole pageCount).size = pageCount :=
  size_mk_wholePages _ _

theorem resolve_wholeText_eq_whole_iff (pageCount : Nat) :
    resolve (some (wholeText pageCount)) pageCount = .whole pageCount ↔ pageCount ≤ 9999 := by
  rcases Nat.eq_zero_or_pos pageCount with rfl | hpos
  · exact ⟨fun _ => Nat.zero_le _, fun _ => by decide⟩
  · have hlt : leading Token.width pageCount < 10 ^ 4 := Text.leading_lt _ _
    rw [resolve_wholeText hpos]
    constructor
    · intro heq
      have hsize := congrArg Resolved.size heq
      rw [size_mk_wholePages, size_whole] at hsize
      omega
    · intro hshort
      rw [leading_width_eq_self hshort]
      rfl

theorem size_resolve_wholeText_lt {pageCount : Nat} (h : 10000 ≤ pageCount) :
    (resolve (some (wholeText pageCount)) pageCount).size < (Resolved.whole pageCount).size := by
  have hlt : leading Token.width pageCount < 10 ^ 4 := Text.leading_lt _ _
  rw [resolve_wholeText (by omega), size_mk_wholePages, size_whole]
  omega

/-- A range that is shown and applied again to its document is the same range exactly if its
expression was accepted or the document has at most four digits of pages. Otherwise only the first
four digits count, and pages are lost. -/
theorem resolve_applied (expression : Option String) (pageCount : Nat) :
    (resolve (some (resolve expression pageCount).applied) pageCount =
        resolve expression pageCount ↔ Accepted expression pageCount ∨ pageCount ≤ 9999) ∧
    (¬ Accepted expression pageCount → 10000 ≤ pageCount →
      resolve (some (resolve expression pageCount).applied) pageCount =
        ⟨wholeText pageCount, wholePages (leading Token.width pageCount)⟩ ∧
      (resolve (some (resolve expression pageCount).applied) pageCount).size <
        (resolve expression pageCount).size) := by
  rcases resolve_cases expression pageCount with ⟨text, pages, he, ht, hs, hr⟩ | ⟨hn, hr⟩
  · have ha : Accepted expression pageCount := ⟨text, pages, he, ht, hs⟩
    have hagain := resolve_of_selectPages ht hs
    rw [hr]
    exact ⟨⟨fun _ => .inl ha, fun _ => hagain⟩, fun hna => absurd ha hna⟩
  · have hna : ¬ Accepted expression pageCount := by
      rintro ⟨text, pages, he, ht, hs⟩
      exact hn text pages he ht hs
    have happlied : (Resolved.whole pageCount).applied = wholeText pageCount := rfl
    rw [hr, happlied, resolve_wholeText_eq_whole_iff]
    refine ⟨by simp [hna], fun _ hlong => ?_⟩
    exact ⟨resolve_wholeText (by omega), size_resolve_wholeText_lt hlong⟩

/-- An expression that is not accepted, with a document that needs a fifth digit. -/
theorem resolve_applied_five_digits :
    ¬ Accepted (some "x") 12345 ∧ 10000 ≤ 12345 ∧
      resolve (some (resolve (some "x") 12345).applied) 12345 = ⟨"1-12345", wholePages 1234⟩ := by
  have hna : ¬ Accepted (some "x") 12345 := by
    rintro ⟨text, pages, he, _, hs⟩
    cases he
    have hx : selectPages "x".toList 12345 = .error (.notNumeric "x" "0") := by decide
    rw [hx] at hs
    cases hs
  have hlead : leading Token.width 12345 = 1234 := by decide
  refine ⟨hna, by decide, ?_⟩
  rw [((resolve_applied (some "x") 12345).2 hna (by decide)).1, hlead]
  rfl

end PrintJob.Range
