import PrintJob.Proofs.Reason.Decoding

/-! # Ascending tables

The rows of an ascending table answer to single bits, each to a higher one than the row before it.
Such a table need not have a row for every bit. A set bit without a row is given the symbol of the
next set bit above it that has one, wherever the bound is, so one symbol for each set bit, its own,
is found only where every set bit has a row. -/

namespace PrintJob

/-- The masks of a table are single bits, and they ascend. -/
structure Ascending (table : List ReasonRow) : Prop where
  single : ∀ row ∈ table, ∃ index < 64, row.mask = StatusWord.bit index
  increasing : table.Pairwise fun row later => row.mask < later.mask

/-- The symbol that a table has for a bit. -/
def rowSymbol? (table : List ReasonRow) (index : Nat) : Option String :=
  (table.find? fun row => row.mask == StatusWord.bit index).map ReasonRow.symbol

namespace StatusWord

/-- The lowest set bit from an index on that has a row. -/
def nextWithRow? (word : StatusWord) (table : List ReasonRow) (index : Nat) : Option Nat :=
  (List.range 64).find? fun other =>
    decide (index ≤ other) && word.getLsbD other && (rowSymbol? table other).isSome

/-- The symbol of the lowest set bit from an index on that has a row. -/
def nextSymbol? (word : StatusWord) (table : List ReasonRow) (index : Nat) : Option String :=
  (word.nextWithRow? table index).bind (rowSymbol? table)

end StatusWord

/-! ## Rows -/

theorem StatusWord.bit_lt_bit_iff {low high : Nat} (hl : low < 64) (hh : high < 64) :
    bit low < bit high ↔ low < high := by
  have hlow : 2 ^ low < 2 ^ 64 := Nat.pow_lt_pow_right (by decide) hl
  have hhigh : 2 ^ high < 2 ^ 64 := Nat.pow_lt_pow_right (by decide) hh
  rw [BitVec.lt_def, bit, bit, BitVec.toNat_twoPow, BitVec.toNat_twoPow, Nat.mod_eq_of_lt hlow,
    Nat.mod_eq_of_lt hhigh]
  exact Nat.pow_lt_pow_iff_right (by decide)

theorem isSome_rowSymbol?_iff {table : List ReasonRow} {index : Nat} :
    (rowSymbol? table index).isSome = true ↔ ∃ row ∈ table, row.mask = StatusWord.bit index := by
  simp [rowSymbol?]

theorem rowSymbol?_eq_none_iff {table : List ReasonRow} {index : Nat} :
    rowSymbol? table index = none ↔ ∀ row ∈ table, row.mask ≠ StatusWord.bit index := by
  simp [rowSymbol?]

namespace Ascending

variable {table : List ReasonRow}

/-- No two rows answer to the same bit. -/
theorem eq_of_mask_eq (h : Ascending table) {row other : ReasonRow} (hr : row ∈ table)
    (ho : other ∈ table) (hm : row.mask = other.mask) : row = other := by
  have hn : (table.map ReasonRow.mask).Nodup := by
    apply List.pairwise_map.mpr
    apply h.increasing.imp
    intro row later hlt he
    exact BitVec.ne_of_lt hlt he
  exact List.inj_on_of_nodup_map hn hr ho hm

theorem rowSymbol?_eq (h : Ascending table) {row : ReasonRow} {index : Nat} (hr : row ∈ table)
    (hm : row.mask = StatusWord.bit index) : rowSymbol? table index = some row.symbol := by
  obtain ⟨found, hf⟩ := Option.isSome_iff_exists.mp (isSome_rowSymbol?_iff.mpr ⟨row, hr, hm⟩)
  obtain ⟨other, ho, rfl⟩ := Option.map_eq_some_iff.mp hf
  have hom : other.mask = StatusWord.bit index := by simpa using List.find?_some ho
  rw [hf, h.eq_of_mask_eq hr (List.mem_of_find?_eq_some ho) (hm.trans hom.symm)]

/-- A row for a lower bit stands before a row. -/
theorem mem_before_of_lt (h : Ascending table) {before after : List ReasonRow}
    {row other : ReasonRow} (hsplit : table = before ++ row :: after) (ho : other ∈ table)
    (hlt : other.mask < row.mask) : other ∈ before := by
  have hp := h.increasing
  rw [hsplit, List.pairwise_append, List.pairwise_cons] at hp
  rw [hsplit, List.mem_append, List.mem_cons] at ho
  rcases ho with hb | rfl | ha
  · exact hb
  · exact absurd hlt (BitVec.lt_irrefl _)
  · exact absurd (BitVec.lt_trans hlt (hp.2.1.1 other ha)) (BitVec.lt_irrefl _)

theorem ofReasons {reasons : List Reason} {start : Nat} (h : start + reasons.length ≤ 64) :
    Ascending (ReasonRow.ofReasons start reasons) := by
  refine ⟨?_, ?_⟩
  · intro row hr
    obtain ⟨index, _, hi, hm⟩ := ReasonRow.exists_bit_of_mem_ofReasons hr
    exact ⟨index, by omega, hm⟩
  · induction reasons generalizing start with
    | nil => exact .nil
    | cons reason rest ih =>
        rw [List.length_cons] at h
        apply List.Pairwise.cons _ (ih (by omega))
        intro later hl
        obtain ⟨index, hs, hi, hm⟩ := ReasonRow.exists_bit_of_mem_ofReasons hl
        rw [hm]
        exact (StatusWord.bit_lt_bit_iff (by omega) (by omega)).mpr hs

/-- The tables of both families ascend. -/
theorem family_table (family : ReasonFamily) : Ascending family.table := by
  apply ofReasons
  cases family <;> decide

end Ascending

/-! ## The next bit with a row -/

namespace StatusWord

theorem nextWithRow?_eq_some_iff {word : StatusWord} {table : List ReasonRow} {index high : Nat} :
    word.nextWithRow? table index = some high ↔
      (index ≤ high ∧ word.getLsbD high = true ∧ (rowSymbol? table high).isSome = true) ∧
      ∀ low < high, index ≤ low → word.getLsbD low = true → rowSymbol? table low = none := by
  rw [nextWithRow?, List.find?_range_eq_some]
  constructor
  · rintro ⟨hp, _, hlow⟩
    simp only [Bool.and_eq_true, decide_eq_true_eq] at hp
    refine ⟨⟨hp.1.1, hp.1.2, hp.2⟩, ?_⟩
    intro low hl hi hb
    simpa [hi, hb] using hlow low hl
  · rintro ⟨⟨hi, hb, hs⟩, hlow⟩
    refine ⟨by simp [hi, hb, hs], List.mem_range.mpr (BitVec.lt_of_getLsbD hb), ?_⟩
    intro low hl
    by_cases hil : index ≤ low
    · cases hbl : word.getLsbD low with
      | false => simp
      | true => simp [hlow low hl hil hbl]
    · simp [hil]

theorem nextWithRow?_eq_none_iff {word : StatusWord} {table : List ReasonRow} {index : Nat} :
    word.nextWithRow? table index = none ↔
      ∀ high, index ≤ high → word.getLsbD high = true → rowSymbol? table high = none := by
  rw [nextWithRow?, List.find?_eq_none]
  constructor
  · intro h high hi hb
    simpa [hi, hb] using h high (List.mem_range.mpr (BitVec.lt_of_getLsbD hb))
  · intro h high _ hp
    simp only [Bool.and_eq_true, decide_eq_true_eq] at hp
    simp [h high hp.1.1 hp.1.2] at hp

/-- Nothing is found from an index on if no set bit from there on has a row. -/
theorem nextSymbol?_eq_none_iff {word : StatusWord} {table : List ReasonRow} {index : Nat} :
    word.nextSymbol? table index = none ↔
      ∀ high, index ≤ high → word.getLsbD high = true → rowSymbol? table high = none := by
  rw [← nextWithRow?_eq_none_iff, nextSymbol?]
  cases hn : word.nextWithRow? table index with
  | none => simp
  | some high =>
      obtain ⟨symbol, hs⟩ := Option.isSome_iff_exists.mp (nextWithRow?_eq_some_iff.mp hn).1.2.2
      simp [hs]

/-- A set bit with a row is the next one itself. -/
theorem nextSymbol?_of_row {word : StatusWord} {table : List ReasonRow} {index : Nat}
    (hb : word.getLsbD index = true) (hs : (rowSymbol? table index).isSome = true) :
    word.nextSymbol? table index = rowSymbol? table index := by
  have hn : word.nextWithRow? table index = some index := by
    apply nextWithRow?_eq_some_iff.mpr
    refine ⟨⟨Nat.le_refl _, hb, hs⟩, ?_⟩
    intro low hl hi
    omega
  rw [nextSymbol?, hn]
  rfl

/-- The first row of an ascending table that meets the bits from an index on is that of the next
bit with a row. -/
theorem exists_nextWithRow?_of_find? {table : List ReasonRow} (h : Ascending table)
    {word : StatusWord} {index : Nat} {row : ReasonRow}
    (hf : table.find? (fun row => word.fromBit index &&& row.mask != 0) = some row) :
    ∃ high, row.mask = bit high ∧ word.nextWithRow? table index = some high := by
  have hr := List.mem_of_find?_eq_some hf
  obtain ⟨high, hh, hmask⟩ := h.single row hr
  obtain ⟨hmeets, before, after, hsplit, hbefore⟩ := List.find?_eq_some_iff_append.mp hf
  rw [hmask, fromBit_and_bit_bne_zero _ _ hh, Bool.and_eq_true, decide_eq_true_eq] at hmeets
  refine ⟨high, hmask, nextWithRow?_eq_some_iff.mpr ⟨⟨hmeets.2, hmeets.1, ?_⟩, ?_⟩⟩
  · exact isSome_rowSymbol?_iff.mpr ⟨row, hr, hmask⟩
  · intro low hl hi hb
    apply rowSymbol?_eq_none_iff.mpr
    intro other ho hlow
    -- The row for a lower set bit would stand before this one and be met first.
    have hlt : other.mask < row.mask := by
      rw [hlow, hmask]
      exact (bit_lt_bit_iff (by omega) hh).mpr hl
    have hno := hbefore other (h.mem_before_of_lt hsplit ho hlt)
    rw [hlow, fromBit_and_bit_bne_zero _ _ (by omega)] at hno
    simp [hb, hi] at hno

theorem symbolAt?_of_ascending {table : List ReasonRow} (h : Ascending table) (word : StatusWord)
    (index : Nat) : word.symbolAt? table index = word.nextSymbol? table index := by
  cases hf : table.find? fun row => word.fromBit index &&& row.mask != 0 with
  | none =>
      have hn : word.nextSymbol? table index = none := by
        apply nextSymbol?_eq_none_iff.mpr
        intro high hi hb
        apply rowSymbol?_eq_none_iff.mpr
        intro row hr hmask
        have hmeets := List.find?_eq_none.mp hf row hr
        rw [hmask, fromBit_and_bit_bne_zero _ _ (BitVec.lt_of_getLsbD hb)] at hmeets
        simp [hb, hi] at hmeets
      rw [symbolAt?, hf, hn]
      rfl
  | some row =>
      obtain ⟨high, hmask, hn⟩ := exists_nextWithRow?_of_find? h hf
      have hs := h.rowSymbol?_eq (List.mem_of_find?_eq_some hf) hmask
      rw [symbolAt?, hf, nextSymbol?, hn, Option.bind_some, hs]
      rfl

/-! ## Decoding by an ascending table -/

/-- The bits below the next bound are one more if it is set. -/
theorem setBits_succ_of_set {word : StatusWord} {index : Nat} (h : word.getLsbD index = true) :
    word.setBits (index + 1) = word.setBits index ++ [index] := by
  have hi := BitVec.lt_of_getLsbD h
  have hs : min (index + 1) 64 = index + 1 := by omega
  have hm : min index 64 = index := by omega
  rw [setBits, setBits, hs, hm, List.range_succ, List.filter_append, List.filter_singleton, h]
  rfl

theorem countBelow_mono (word : StatusWord) {low high : Nat} (h : low ≤ high) :
    word.countBelow low ≤ word.countBelow high := by
  rw [← length_setBits, ← length_setBits]
  apply List.Sublist.length_le
  apply List.Sublist.filter
  apply List.range_sublist.mpr
  omega

/-- A set bit adds nothing to what was found below it if nothing is found for it. -/
theorem decode_succ_eq_iff {word : StatusWord} {index size : Nat} (hb : word.getLsbD index = true)
    (hs : word.countBelow (index + 1) ≤ size) (table : List ReasonRow) :
    decode word (index + 1) table size = decode word index table size ↔
      word.symbolAt? table index = none := by
  have hle : word.countBelow index ≤ size :=
    Nat.le_trans (word.countBelow_mono (Nat.le_succ index)) hs
  rw [Symbols.ext_iff, toList_decode_of_countBelow_le hs, toList_decode_of_countBelow_le hle,
    setBits_succ_of_set hb, List.filterMap_append, List.append_right_eq_self,
    List.filterMap_eq_nil_iff]
  simp

/-- By an ascending table a set bit below the bound is given the symbol of the lowest set bit from
there on that has a row, which may lie beyond the bound. So if they all have rows, each of them
gives its own symbol, and one without a row adds nothing exactly if no set bit above it has one. -/
theorem decode_of_ascending {table : List ReasonRow} (h : Ascending table) (word : StatusWord)
    {bound size : Nat} (hs : word.countBelow bound ≤ size) :
    (decode word bound table size).toList =
        (word.setBits bound).filterMap (word.nextSymbol? table) ∧
      ((∀ index ∈ word.setBits bound, (rowSymbol? table index).isSome = true) →
        (decode word bound table size).toList.map some =
          (word.setBits bound).map (rowSymbol? table)) ∧
      ∀ index ∈ word.setBits bound, rowSymbol? table index = none →
        (decode word (index + 1) table size = decode word index table size ↔
          ∀ high > index, word.getLsbD high = true → rowSymbol? table high = none) := by
  refine ⟨?_, ?_, ?_⟩
  · rw [toList_decode_of_countBelow_le hs]
    apply List.filterMap_congr
    intro index _
    exact symbolAt?_of_ascending h word index
  · intro hrows
    rw [toList_decode_of_countBelow_le hs]
    apply map_some_filterMap_symbolAt? _ hrows
    intro index hi
    rw [symbolAt?_of_ascending h, nextSymbol?_of_row (mem_setBits.mp hi).2 (hrows index hi)]
  · intro index hi hrow
    obtain ⟨hlt, hb⟩ := mem_setBits.mp hi
    rw [decode_succ_eq_iff hb (Nat.le_trans (word.countBelow_mono hlt) hs),
      symbolAt?_of_ascending h, nextSymbol?_eq_none_iff]
    constructor
    · intro hnone high hgt
      exact hnone high (Nat.le_of_lt hgt)
    · intro hnone high hle
      rcases Nat.lt_or_eq_of_le hle with hgt | rfl
      · exact hnone high hgt
      · intro _
        exact hrow

/-- Bits without a row below the one row and between the two, then every set bit with a row, then a
bit without a row above both. -/
theorem decode_of_ascending_two_rows :
    (decode 0x6D 4 [⟨bit 2, "A"⟩, ⟨bit 5, "B"⟩] 3).toList = ["A", "A", "B"] ∧
      (decode 0x24 6 [⟨bit 2, "A"⟩, ⟨bit 5, "B"⟩] 2).toList.map some = [some "A", some "B"] ∧
      decode 0x6D 7 [⟨bit 2, "A"⟩, ⟨bit 5, "B"⟩] 5 =
        decode 0x6D 6 [⟨bit 2, "A"⟩, ⟨bit 5, "B"⟩] 5 := by
  have h : Ascending [⟨bit 2, "A"⟩, ⟨bit 5, "B"⟩] := ⟨by decide, by decide⟩
  refine ⟨?_, ?_, ?_⟩
  · rw [(decode_of_ascending h 0x6D (by decide)).1]
    decide
  · rw [(decode_of_ascending h 0x24 (by decide)).2.1 (by decide)]
    decide
  · have hs : countBelow 0x6D 7 ≤ 5 := by decide
    apply ((decode_of_ascending h 0x6D hs).2.2 6 (by decide) (by decide)).mpr
    have hunset : ∀ high < 64, high > 6 → (0x6D : StatusWord).getLsbD high = false := by decide
    intro high hgt hb
    rw [hunset high (BitVec.lt_of_getLsbD hb) hgt] at hb
    cases hb

end StatusWord

end PrintJob
