import PrintJob.Proofs.Range.Grammar
import PrintJob.Text.Pieces

/-! # The outcomes of a segment

The bounds of a segment in closed form: the chunks between its dashes are laid over one another.
What is read as a segment follows from the two bounds alone. The closed forms do not invoke the
reader: they say themselves what a blank is, how much of a chunk counts, which number digits spell
and which pages lie between two others. -/

namespace PrintJob.Range

/-! ## Chunks laid over a text -/

/-- A chunk laid over the start of a text. Of the chunk the first four characters count, and what
they do not reach of the text stays. -/
def Token.overlay (text chunk : List Char) : List Char :=
  chunk.take 4 ++ text.drop (min 4 chunk.length)

theorem Token.text_foldl_push_rewind (token : Token) (chunk : List Char) :
    (chunk.foldl push token.rewind).text = overlay token.text chunk := by
  simp [foldl_push, text, overlay, rewind, position, width]

/-- A segment without its spaces, tabs, line feeds, form feeds and carriage returns. -/
def unspaced (segment : List Char) : List Char :=
  segment.filter fun c => c ∉ [' ', '\t', '\n', '\x0c', '\x0d']

theorem visible_eq_unspaced (segment : List Char) : visible segment = unspaced segment := by
  apply List.filter_congr
  intro c _
  rw [Bool.eq_iff_iff]
  simp [Text.isAsciiBlank, and_assoc]

/-- The first bound of a segment: the first four characters before the first dash. -/
def firstBound (segment : List Char) : List Char :=
  ((Text.pieces '-' (unspaced segment)).headD []).take 4

/-- The second bound of a segment: the chunks after the first dash laid over one another, and zero
without a dash. -/
def lastBound (segment : List Char) : List Char :=
  match (Text.pieces '-' (unspaced segment)).tail with
  | [] => ['0']
  | chunks => chunks.foldl Token.overlay []

/-! ## Bounds in closed form -/

/-- Blanks leave no trace in the bounds. -/
theorem Bounds.foldl_feed_visible (segment : List Char) (bounds : Bounds) :
    (visible segment).foldl feed bounds = segment.foldl feed bounds := by
  induction segment generalizing bounds with
  | nil => rfl
  | cons c rest ih =>
      by_cases hb : Text.isAsciiBlank c = true
      · have hskip : bounds.feed c = bounds := by simp [feed, hb]
        have hvisible : visible (c :: rest) = visible rest := by simp [visible, hb]
        rw [hvisible, ih, List.foldl_cons, hskip]
      · have hvisible : visible (c :: rest) = c :: visible rest := by simp [visible, hb]
        rw [hvisible, List.foldl_cons, ih, List.foldl_cons]

/-- What a segment is cut into: texts without dashes and blanks. -/
structure IsChunk (chunk : List Char) : Prop where
  no_dash : '-' ∉ chunk
  visible_eq : visible chunk = chunk

theorem isChunk_of_mem_pieces {segment chunk : List Char}
    (h : chunk ∈ Text.pieces '-' (visible segment)) : IsChunk chunk := by
  have hmem : ∀ c ∈ chunk, c ∈ (visible segment).filter fun c => c ≠ '-' := by
    intro c hc
    rw [← Text.flatten_pieces]
    exact List.mem_flatten.mpr ⟨chunk, h, hc⟩
  constructor
  · intro hd
    simpa using (List.mem_filter.mp (hmem '-' hd)).2
  · apply List.filter_eq_self.mpr
    intro c hc
    exact (List.mem_filter.mp (List.mem_filter.mp (hmem c hc)).1).2

/-- Chunks after a dash go to the second bound, each of them laid over what is there. -/
theorem Bounds.foldl_feed_join {chunks : List (List Char)} (hn : chunks ≠ [])
    (h : ∀ chunk ∈ chunks, IsChunk chunk) (first last : Token) :
    let bounds := (Text.join '-' chunks).foldl feed ⟨first, last.rewind, true⟩
    bounds.firstText = first.text ∧ bounds.lastText = chunks.foldl Token.overlay last.text := by
  induction chunks generalizing first last with
  | nil => exact absurd rfl hn
  | cons chunk rest ih =>
      have hchunk := h chunk (by simp)
      have hlaid := Token.text_foldl_push_rewind last chunk
      have hfed : chunk.foldl feed ⟨first, last.rewind, true⟩ =
          ⟨first, chunk.foldl Token.push last.rewind, true⟩ := by
        rw [foldl_feed hchunk.no_dash, hchunk.visible_eq]
        rfl
      cases rest with
      | nil =>
          rw [Text.join, hfed]
          exact ⟨rfl, hlaid⟩
      | cons next more =>
          have htail := ih (by simp) (fun piece hp => h piece (by simp [hp])) first.rewind
            (chunk.foldl Token.push last.rewind)
          rw [hlaid] at htail
          rw [Text.join_cons_cons, List.foldl_append, hfed]
          exact htail

/-- The bounds of a segment are the two closed forms. -/
theorem bounds_eq (segment : List Char) :
    (Bounds.ofSegment segment).firstText = firstBound segment ∧
      (Bounds.ofSegment segment).lastText = lastBound segment := by
  have hjoin := Text.join_pieces '-' (visible segment)
  have hchunks : ∀ chunk ∈ Text.pieces '-' (visible segment), IsChunk chunk :=
    fun _ => isChunk_of_mem_pieces
  unfold firstBound lastBound
  rw [Bounds.ofSegment, ← Bounds.foldl_feed_visible, ← visible_eq_unspaced]
  cases hp : Text.pieces '-' (visible segment) with
  | nil => exact absurd hp (Text.pieces_ne_nil _ _)
  | cons first rest =>
      rw [hp] at hjoin hchunks
      have hfirst := hchunks first (by simp)
      have hfed : first.foldl Bounds.feed .empty =
          ⟨first.foldl Token.push .empty, .empty, false⟩ := by
        rw [Bounds.foldl_feed hfirst.no_dash, hfirst.visible_eq]
        rfl
      have htaken := Token.text_foldl_push_empty first
      cases rest with
      | nil =>
          rw [← hjoin, Text.join, hfed]
          exact ⟨htaken, rfl⟩
      | cons next more =>
          have htail := Bounds.foldl_feed_join (by simp)
            (fun chunk hc => hchunks chunk (List.mem_cons_of_mem _ hc))
            (first.foldl Token.push .empty).rewind .empty
          rw [Token.text_rewind, htaken] at htail
          rw [← hjoin, Text.join_cons_cons, List.foldl_append, hfed]
          exact htail

/-- The second chunk leaves the end of the first one standing. -/
example : firstBound "1-25-4".toList = ['1'] ∧ lastBound "1-25-4".toList = ['4', '5'] := by decide

/-! ## Numbers at the start -/

/-- The number that the digits at the start of a text spell in base ten, after an optional plus
sign, and zero without a digit. -/
def startNumber : List Char → Nat
  | '+' :: rest => Nat.ofDigitChars 10 (rest.takeWhile Char.isDigit) 0
  | s => Nat.ofDigitChars 10 (s.takeWhile Char.isDigit) 0

theorem initialInteger_eq_startNumber {s : List Char} (h : '-' ∉ s) :
    initialInteger s = startNumber s := by
  unfold startNumber
  simp only [← Text.digitsValue_eq_ofDigitChars]
  split
  · rfl
  · rename_i hplus
    have hsplit : Literal.splitSign s = (false, s) := by
      unfold Literal.splitSign
      split
      · simp at h
      · exact absurd rfl (hplus _)
      · rfl
    simp [initialInteger, hsplit, Text.splitDigits]

theorem dash_not_mem_take {chunk : List Char} (h : '-' ∉ chunk) : '-' ∉ chunk.take 4 :=
  fun hm => h (List.mem_of_mem_take hm)

theorem dash_not_mem_overlay {chunks : List (List Char)} (h : ∀ chunk ∈ chunks, '-' ∉ chunk)
    {text : List Char} (ht : '-' ∉ text) : '-' ∉ chunks.foldl Token.overlay text := by
  induction chunks generalizing text with
  | nil => exact ht
  | cons chunk rest ih =>
      apply ih fun piece hp => h piece (by simp [hp])
      intro hm
      rcases List.mem_append.mp hm with hm | hm
      · exact dash_not_mem_take (h chunk (by simp)) hm
      · exact ht (List.mem_of_mem_drop hm)

/-- No dash gets into a bound. -/
theorem dash_not_mem_bounds (segment : List Char) :
    '-' ∉ firstBound segment ∧ '-' ∉ lastBound segment := by
  have hchunks : ∀ chunk ∈ Text.pieces '-' (visible segment), '-' ∉ chunk :=
    fun _ hc => (isChunk_of_mem_pieces hc).no_dash
  unfold firstBound lastBound
  rw [← visible_eq_unspaced]
  cases hp : Text.pieces '-' (visible segment) with
  | nil => exact absurd hp (Text.pieces_ne_nil _ _)
  | cons first rest =>
      rw [hp] at hchunks
      refine ⟨dash_not_mem_take (hchunks first (by simp)), ?_⟩
      cases rest with
      | nil => simp
      | cons next more =>
          exact dash_not_mem_overlay (fun chunk hc => hchunks chunk (List.mem_cons_of_mem _ hc))
            (List.not_mem_nil)

/-! ## Outcomes -/

/-- The bounds that an error reports as numbers. -/
def SegmentError.bounds : SegmentError → List Int
  | notNumeric _ _ => []
  | notPositive first last => [first, last]
  | outOfBounds first last _ => [first, last]

/-- Both bounds of a segment are literals. -/
def IsNumeric (segment : List Char) : Prop :=
  SpellsLiteral (firstBound segment) ∧ SpellsLiteral (lastBound segment)

theorem isNumeric_iff {segment : List Char} :
    IsNumeric segment ↔
      isLiteral (firstBound segment) = true ∧ isLiteral (lastBound segment) = true := by
  rw [isLiteral_iff, isLiteral_iff, IsNumeric]

instance (segment : List Char) : Decidable (IsNumeric segment) :=
  decidable_of_iff _ isNumeric_iff.symm

/-- The page that a segment starts with. -/
def startPage (segment : List Char) : Nat := startNumber (firstBound segment)

/-- The page that a segment ends with: zero as the second bound repeats the first page. -/
def stopPage (segment : List Char) : Nat :=
  if startNumber (lastBound segment) = 0 then startPage segment
  else startNumber (lastBound segment)

/-- The pages from one to another, counted upwards or downwards. -/
def pagesFromTo (start stop : Nat) : List Nat :=
  if start ≤ stop then (List.range (stop + 1 - start)).map fun i => start + i
  else (List.range (start + 1 - stop)).map fun i => start - i

theorem Run.pages_eq_pagesFromTo (run : Run) : run.pages = pagesFromTo run.first run.last := by
  unfold pages pagesFromTo
  split
  · rw [List.range'_eq_map_range]
  · rename_i h
    -- A place in the reversed run is counted from the end of the one that goes upwards.
    apply List.ext_getElem
    · simp
    · intro i hi hi'
      simp only [List.length_reverse, List.length_range'] at hi
      simp only [List.getElem_reverse, List.getElem_range', List.getElem_map, List.getElem_range,
        List.length_range']
      omega

theorem startPage_eq_zero_of_stopPage (segment : List Char) :
    stopPage segment = 0 → startPage segment = 0 := by
  unfold stopPage
  split <;> omega

/-- What reading a segment takes from its bounds. -/
theorem initialInteger_bounds (segment : List Char) :
    initialInteger (Bounds.ofSegment segment).firstText = startPage segment ∧
      (if initialInteger (Bounds.ofSegment segment).lastText = 0 then
        initialInteger (Bounds.ofSegment segment).firstText
      else initialInteger (Bounds.ofSegment segment).lastText) = stopPage segment := by
  obtain ⟨hf, hl⟩ := bounds_eq segment
  obtain ⟨hdf, hdl⟩ := dash_not_mem_bounds segment
  rw [hf, hl, initialInteger_eq_startNumber hdf, initialInteger_eq_startNumber hdl]
  refine ⟨rfl, ?_⟩
  unfold stopPage startPage
  split <;> split <;> omega

theorem selectRun_of_not_isNumeric {segment : List Char} (h : ¬ IsNumeric segment)
    (pageCount : Nat) :
    selectRun segment pageCount =
      .error (.notNumeric (String.ofList (firstBound segment))
        (String.ofList (lastBound segment))) := by
  rw [isNumeric_iff, Classical.not_and_iff_not_or_not] at h
  obtain ⟨hf, hl⟩ := bounds_eq segment
  unfold selectRun
  dsimp only
  rw [hf, hl]
  exact if_pos (by simpa using h)

theorem selectRun_of_isNumeric {segment : List Char} (h : IsNumeric segment) (pageCount : Nat) :
    selectRun segment pageCount =
      if startPage segment = 0 then .error (.notPositive (startPage segment) (stopPage segment))
      else if pageCount < startPage segment ∨ pageCount < stopPage segment then
        .error (.outOfBounds (startPage segment) (stopPage segment) pageCount)
      else .ok ⟨startPage segment, stopPage segment⟩ := by
  obtain ⟨hfl, hll⟩ := isNumeric_iff.mp h
  obtain ⟨hf, hl⟩ := bounds_eq segment
  obtain ⟨hstart, hstop⟩ := initialInteger_bounds segment
  have hzero := startPage_eq_zero_of_stopPage segment
  unfold selectRun
  dsimp only
  rw [hstop, hstart, hf, hl, if_neg (by simp [hfl, hll])]
  by_cases hp : startPage segment = 0
  · rw [if_pos (by omega), if_pos hp]
  · rw [if_neg (by omega), if_neg hp]
    simp only [Int.ofNat_lt, Int.toNat_natCast]

/-- The outcome of reading a segment is decided by its two bounds: it is an error if one of them is
no literal, if the first one spells no page, or if the document does not have the pages; otherwise
the pages from the first one to the second one are appended. An error leaves the list as it was, and
no bound that it reports is negative. -/
theorem appendSegment_outcomes (segment : List Char) (pageCount : Nat) (pages : List Nat) :
    let start := startPage segment
    let stop := stopPage segment
    let outcome := appendSegment segment pageCount pages
    (outcome = (.error (.notNumeric (String.ofList (firstBound segment))
        (String.ofList (lastBound segment))), pages) ↔ ¬ IsNumeric segment) ∧
    (outcome = (.error (.notPositive start stop), pages) ↔ IsNumeric segment ∧ start = 0) ∧
    (outcome = (.error (.outOfBounds start stop pageCount), pages) ↔
      IsNumeric segment ∧ start ≠ 0 ∧ (pageCount < start ∨ pageCount < stop)) ∧
    (outcome = (.ok (), pages ++ pagesFromTo start stop) ↔
      IsNumeric segment ∧ start ≠ 0 ∧ start ≤ pageCount ∧ stop ≤ pageCount) ∧
    ∀ error, outcome.1 = .error error →
      outcome.2 = pages ∧ ∀ bound ∈ error.bounds, 0 ≤ bound := by
  dsimp only
  rw [appendSegment]
  by_cases hn : IsNumeric segment
  · rw [selectRun_of_isNumeric hn]
    by_cases hp : startPage segment = 0
    · simp [hn, hp, SegmentError.bounds]
    · by_cases hb : pageCount < startPage segment ∨ pageCount < stopPage segment
      · simp [hn, hp, hb, SegmentError.bounds]
        omega
      · simp [hn, hp, hb, SegmentError.bounds, Run.pages_eq_pagesFromTo]
        omega
  · rw [selectRun_of_not_isNumeric hn]
    simp [hn, SegmentError.bounds]

/-- A run downwards, with blanks of every kind and a last chunk that leaves the end of the one
before it standing; a first bound that is cut behind its fourth character; and one segment for each
error. -/
theorem appendSegment_outcomes_five_segments :
    appendSegment "17 -\t25\n-\x0c1\x0d".toList 20 [4] = (.ok (), [4, 17, 16, 15]) ∧
    appendSegment "00021-+3.".toList 5 [] = (.ok (), [2, 3]) ∧
    appendSegment "1-x".toList 5 [4] = (.error (.notNumeric "1" "x"), [4]) ∧
    appendSegment "0-3".toList 5 [4] = (.error (.notPositive 0 3), [4]) ∧
    appendSegment "4-6".toList 5 [4] = (.error (.outOfBounds 4 6 5), [4]) := by
  have hdown := (appendSegment_outcomes "17 -\t25\n-\x0c1\x0d".toList 20 [4]).2.2.2.1.mpr
    (by decide)
  have hcut := (appendSegment_outcomes "00021-+3.".toList 5 []).2.2.2.1.mpr (by decide)
  have hword := (appendSegment_outcomes "1-x".toList 5 [4]).1.mpr (by decide)
  have hzero := (appendSegment_outcomes "0-3".toList 5 [4]).2.1.mpr (by decide)
  have hbeyond := (appendSegment_outcomes "4-6".toList 5 [4]).2.2.1.mpr (by decide)
  exact ⟨hdown, hcut, hword, hzero, hbeyond⟩

end PrintJob.Range
