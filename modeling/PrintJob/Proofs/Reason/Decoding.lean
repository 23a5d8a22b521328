import PrintJob.Proofs.Words
import PrintJob.Reason.Decode
import PrintJob.Text.Pieces
import Mathlib.Algebra.Ring.Nat
import Mathlib.Data.List.Nodup

/-! # Decoded status words

Decoding goes through the set bits below the bound, and what it finds for a bit depends on the bits
from there on. By the table of a family it finds the symbol of every set bit, and the symbols
together tell which bits were set. -/

namespace PrintJob

/-! ## Words -/

namespace StatusWord

theorem getLsbD_bit (index other : Nat) :
    (bit index).getLsbD other = (decide (index < 64) && decide (index = other)) := by
  simp [bit]

/-- A window is computed without wrapping around, also for the bounds from 64 on. -/
theorem toNat_window (bound : Nat) : (window bound).toNat = 2 ^ min bound 64 - 1 := by
  unfold window
  split
  · rename_i hb
    have hlt : 2 ^ bound < 2 ^ 64 := Nat.pow_lt_pow_right (by decide) hb
    have hpos : 0 < 2 ^ bound := Nat.two_pow_pos bound
    have hone : (1 : BitVec 64).toNat = 1 := rfl
    have hmin : min bound 64 = bound := by omega
    rw [bit, BitVec.toNat_sub, BitVec.toNat_twoPow, Nat.mod_eq_of_lt hlt, hone, hmin]
    omega
  · rename_i hb
    have hmin : min bound 64 = 64 := by omega
    rw [BitVec.toNat_allOnes, hmin]

theorem getLsbD_window {index : Nat} (bound : Nat) (h : index < 64) :
    (window bound).getLsbD index = decide (index < bound) := by
  rw [BitVec.getLsbD, toNat_window, Nat.testBit_two_pow_sub_one, decide_eq_decide]
  omega

/-- The indices of the set bits below a bound, from the lowest on. -/
def setBits (word : StatusWord) (bound : Nat) : List Nat :=
  (List.range (min bound 64)).filter word.getLsbD

/-- The bits of a word from an index on. -/
def fromBit (word : StatusWord) (index : Nat) : StatusWord := word &&& ~~~window index

theorem getLsbD_fromBit (word : StatusWord) (start : Nat) {index : Nat} (h : index < 64) :
    (word.fromBit start).getLsbD index = (word.getLsbD index && decide (start ≤ index)) := by
  rw [fromBit, BitVec.getLsbD_and, BitVec.getLsbD_not, getLsbD_window _ h]
  simp [h, ← decide_not]

theorem fromBit_zero (word : StatusWord) : word.fromBit 0 = word := by
  apply BitVec.eq_of_getLsbD_eq
  intro index h
  simp [getLsbD_fromBit _ _ h]

theorem fromBit_succ (word : StatusWord) {index : Nat} (h : index < 64) :
    word.fromBit (index + 1) =
      if word.getLsbD index then word.fromBit index &&& ~~~bit index else word.fromBit index := by
  apply BitVec.eq_of_getLsbD_eq
  intro other ho
  have hd : decide (index + 1 ≤ other) = (decide (index ≤ other) && !decide (index = other)) := by
    rw [← decide_not, ← Bool.decide_and, decide_eq_decide]
    omega
  split
  · simp only [BitVec.getLsbD_and, BitVec.getLsbD_not, getLsbD_bit, getLsbD_fromBit _ _ ho, hd, h,
      ho, decide_true, Bool.true_and, Bool.and_assoc]
  · rename_i hu
    rw [getLsbD_fromBit _ _ ho, getLsbD_fromBit _ _ ho, hd]
    by_cases he : index = other
    · rw [← he, Bool.eq_false_iff.mpr hu, Bool.false_and, Bool.false_and]
    · simp only [he, decide_false, Bool.not_false, Bool.and_true]

theorem countP_range_min (p : Nat → Bool) (bound size : Nat) :
    (List.range size).countP (fun index => p index && decide (index < bound)) =
      (List.range (min bound size)).countP p := by
  induction size with
  | zero => simp
  | succ size ih =>
      rw [List.range_succ, List.countP_append, ih]
      by_cases h : size < bound
      · have hm : min bound (size + 1) = min bound size + 1 := by omega
        have hs : min bound size = size := by omega
        rw [hm, List.range_succ, List.countP_append, hs]
        simp [h]
      · have hm : min bound (size + 1) = min bound size := by omega
        rw [hm]
        simp [h]

theorem mem_setBits {word : StatusWord} {bound index : Nat} :
    index ∈ word.setBits bound ↔ index < bound ∧ word.getLsbD index = true := by
  rw [setBits, List.mem_filter, List.mem_range]
  constructor
  · rintro ⟨hi, hb⟩
    exact ⟨by omega, hb⟩
  · rintro ⟨hi, hb⟩
    have hw := BitVec.lt_of_getLsbD hb
    exact ⟨by omega, hb⟩

theorem nodup_setBits (word : StatusWord) (bound : Nat) : (word.setBits bound).Nodup :=
  List.nodup_range.filter _

/-- The set bits below a bound tell each bit below it. -/
theorem setBits_eq_iff {word other : StatusWord} {bound : Nat} :
    word.setBits bound = other.setBits bound ↔
      ∀ index < bound, word.getLsbD index = other.getLsbD index := by
  constructor
  · intro h index hi
    have hm := congrArg (index ∈ ·) h
    simpa [mem_setBits, hi] using hm
  · intro h
    apply List.filter_congr
    intro index hi
    rw [List.mem_range] at hi
    exact h index (by omega)

theorem length_setBits (word : StatusWord) (bound : Nat) :
    (word.setBits bound).length = word.countBelow bound := by
  have hw : (List.range 64).countP (word &&& window bound).getLsbD =
      (List.range 64).countP (fun index => word.getLsbD index && decide (index < bound)) := by
    apply List.countP_congr
    intro index hi
    rw [BitVec.getLsbD_and, getLsbD_window _ (List.mem_range.mp hi)]
  rw [countBelow, popCount, hw, countP_range_min, setBits, List.countP_eq_length_filter]

theorem and_bit_bne_zero (word : StatusWord) {index : Nat} (h : index < 64) :
    (word &&& bit index != 0) = word.getLsbD index :=
  and_twoPow_bne_zero word h

theorem fromBit_and_bit_bne_zero (word : StatusWord) (index : Nat) {other : Nat}
    (h : other < 64) :
    (word.fromBit index &&& bit other != 0) = (word.getLsbD other && decide (index ≤ other)) := by
  rw [and_bit_bne_zero _ h, getLsbD_fromBit _ _ h]

end StatusWord

/-! ## What decoding finds -/

attribute [ext] Symbols

/-- Symbols are added in order as long as there is room for them. -/
theorem Symbols.toList_foldl_pushUpTo (size : Nat) (symbols : Symbols) (found : List String) :
    (found.foldl (pushUpTo size) symbols).toList =
      symbols.toList ++ found.take (size - symbols.size) := by
  induction found generalizing symbols with
  | nil => simp
  | cons symbol rest ih =>
      rw [List.foldl_cons, ih, pushUpTo]
      split
      · rename_i h
        obtain ⟨room, hr⟩ : ∃ room, size - symbols.size = room + 1 :=
          ⟨size - symbols.size - 1, by omega⟩
        have hs : size - Symbols.size ⟨symbols.toList ++ [symbol]⟩ = room := by
          simp only [Symbols.size, List.length_append, List.length_singleton] at hr ⊢
          omega
        rw [hs, hr, List.take_succ_cons, List.append_assoc, List.singleton_append]
      · rename_i h
        have hz : size - symbols.size = 0 := by omega
        simp [hz]

/-- Symbols that are not empty and contain no bar are told apart by their joined text. -/
theorem Symbols.joined_injOn {symbols others : Symbols}
    (hs : ∀ symbol ∈ symbols.toList, symbol.toList ≠ [] ∧ '|' ∉ symbol.toList)
    (ho : ∀ symbol ∈ others.toList, symbol.toList ≠ [] ∧ '|' ∉ symbol.toList)
    (h : symbols.joined = others.joined) : symbols = others := by
  have hinj : Function.Injective String.toList := fun _ _ => String.toList_injective
  apply Symbols.ext
  apply List.map_injective_iff.mpr hinj
  apply @Text.join_injective '|'
  · simpa using hs
  · simpa using ho
  · have hl := congrArg String.toList h
    rw [joined, joined, String.toList_intercalate, String.toList_intercalate] at hl
    rw [Text.join_eq_intercalate, Text.join_eq_intercalate]
    exact hl

namespace StatusWord

/-- The symbol that a table gives for a bit: that of the first row that meets the bits from there
on. -/
def symbolAt? (word : StatusWord) (table : List ReasonRow) (index : Nat) : Option String :=
  (table.find? fun row => word.fromBit index &&& row.mask != 0).map ReasonRow.symbol

theorem decodeBits_range' (word : StatusWord) (table : List ReasonRow) (size start count : Nat)
    (h : start + count ≤ 64) (symbols : Symbols) :
    decodeBits word table size (List.range' start count) (word.fromBit start) symbols =
      (((List.range' start count).filter word.getLsbD).filterMap (word.symbolAt? table)).foldl
        (Symbols.pushUpTo size) symbols := by
  -- When a bit is decoded the bits from there on are pending, whatever was found for those below.
  induction count generalizing start symbols with
  | zero => rfl
  | succ count ih =>
      have hstart : start < 64 := by omega
      have hn := fromBit_succ word hstart
      rw [List.range'_succ, decodeBits]
      cases hb : word.getLsbD start with
      | false =>
          simp only [hb, Bool.false_eq_true, if_false] at hn ⊢
          rw [← hn, ih (start + 1) (by omega), List.filter_cons_of_neg (by simp [hb])]
      | true =>
          simp only [hb, if_true] at hn ⊢
          rw [← hn, ih (start + 1) (by omega), List.filter_cons_of_pos hb]
          cases hf : table.find? fun row => word.fromBit start &&& row.mask != 0 with
          | none => rw [List.filterMap_cons_none (by rw [symbolAt?, hf]; rfl)]
          | some row =>
              rw [List.filterMap_cons_some (by rw [symbolAt?, hf]; rfl),
                List.foldl_cons]

/-- Decoding keeps the first of the symbols that it finds for the set bits below the bound. -/
theorem toList_decode (word : StatusWord) (bound : Nat) (table : List ReasonRow) (size : Nat) :
    (decode word bound table size).toList =
      ((word.setBits bound).filterMap (word.symbolAt? table)).take size := by
  have h := decodeBits_range' word table size 0 (min bound 64) (by omega) .empty
  rw [fromBit_zero, ← List.range_eq_range'] at h
  rw [decode, h, Symbols.toList_foldl_pushUpTo]
  rfl

/-- There is room for all of them if there is room for as many symbols as there are such bits. -/
theorem toList_decode_of_countBelow_le {word : StatusWord} {bound size : Nat}
    (h : countBelow word bound ≤ size) (table : List ReasonRow) :
    (decode word bound table size).toList =
      (word.setBits bound).filterMap (word.symbolAt? table) := by
  have hlen : ((word.setBits bound).filterMap (word.symbolAt? table)).length ≤ size := by
    apply Nat.le_trans (List.length_filterMap_le _ _)
    rwa [length_setBits]
  rw [toList_decode, List.take_of_length_le hlen]

/-- If something is found for every set bit, it is one symbol for each of them. -/
theorem map_some_filterMap_symbolAt? {word : StatusWord} {bound : Nat} {table : List ReasonRow}
    {symbol? : Nat → Option String}
    (hs : ∀ index ∈ word.setBits bound, word.symbolAt? table index = symbol? index)
    (h : ∀ index ∈ word.setBits bound, (symbol? index).isSome = true) :
    ((word.setBits bound).filterMap (word.symbolAt? table)).map some =
      (word.setBits bound).map symbol? := by
  have hsome : ∀ found ∈ (word.setBits bound).map symbol?, found.isSome = true := by
    intro found hf
    obtain ⟨index, hi, rfl⟩ := List.mem_map.mp hf
    exact h index hi
  rw [List.map_filterMap_some_eq_filter_map_isSome, List.map_congr_left hs,
    List.filter_eq_self.mpr hsome]

end StatusWord

/-! ## Families -/

theorem ReasonRow.exists_bit_of_mem_ofReasons {reasons : List Reason} {start : Nat}
    {row : ReasonRow} (h : row ∈ ofReasons start reasons) :
    ∃ index, start ≤ index ∧ index < start + reasons.length ∧
      row.mask = StatusWord.bit index := by
  induction reasons generalizing start with
  | nil => cases h
  | cons reason rest ih =>
      rw [ofReasons, List.mem_cons] at h
      rcases h with rfl | h
      · exact ⟨start, Nat.le_refl _, by simp, rfl⟩
      · obtain ⟨index, hs, hi, hm⟩ := ih h
        exact ⟨index, by omega, by rw [List.length_cons]; omega, hm⟩

namespace ReasonFamily

/-- The symbol of the reason that a bit stands for. -/
def symbol? (family : ReasonFamily) (index : Nat) : Option String :=
  family.reasons[index]?.map Reason.symbol

theorem isSome_symbol?_iff (family : ReasonFamily) (index : Nat) :
    (family.symbol? index).isSome = true ↔ index < family.bound := by
  simp [symbol?, bound]

theorem symbol_wellFormed (family : ReasonFamily) :
    ∀ reason ∈ family.reasons, reason.symbol.toList ≠ [] ∧ '|' ∉ reason.symbol.toList := by
  cases family <;> decide +kernel

theorem nodup_symbols (family : ReasonFamily) : (family.reasons.map Reason.symbol).Nodup := by
  cases family <;> simp [reasons, Reason.blocked, Reason.failed]

/-- No two reasons of a family have the same symbol. -/
theorem symbol?_injective {family : ReasonFamily} {index other : Nat} (h : index < family.bound)
    (he : family.symbol? index = family.symbol? other) : index = other := by
  rw [symbol?, symbol?, ← List.getElem?_map, ← List.getElem?_map] at he
  exact (List.getElem?_inj (by simpa [bound] using h) family.nodup_symbols).mp he

/-- In a table that follows the order of the bits the lowest pending bit finds its own row. -/
theorem find?_ofReasons (word : StatusWord) (reasons : List Reason) {start index : Nat}
    (hs : start ≤ index) (hb : word.getLsbD index = true) :
    ((ReasonRow.ofReasons start reasons).find? fun row =>
        word.fromBit index &&& row.mask != 0).map ReasonRow.symbol =
      reasons[index - start]?.map Reason.symbol := by
  have hi : index < 64 := BitVec.lt_of_getLsbD hb
  induction reasons generalizing start with
  | nil => rfl
  | cons reason rest ih =>
      have hmeets : (word.fromBit index &&& StatusWord.bit start != 0) =
          (word.getLsbD start && decide (index ≤ start)) :=
        word.fromBit_and_bit_bne_zero index (by omega)
      rw [ReasonRow.ofReasons]
      rcases Nat.lt_or_eq_of_le hs with hlt | rfl
      -- A row before that of the bit answers to a bit that is no longer pending.
      · obtain ⟨gap, hg⟩ : ∃ gap, index - start = gap + 1 := ⟨index - start - 1, by omega⟩
        have hgap : index - (start + 1) = gap := by omega
        have hn : ¬ index ≤ start := by omega
        rw [List.find?_cons_of_neg (by rw [hmeets]; simp [hn]), ih hlt, hgap, hg,
          List.getElem?_cons_succ]
      · rw [List.find?_cons_of_pos (by rw [hmeets]; simp [hb]), Nat.sub_self]
        rfl

end ReasonFamily

namespace StatusWord

theorem symbolAt?_table (word : StatusWord) (family : ReasonFamily) {index : Nat}
    (h : word.getLsbD index = true) :
    word.symbolAt? family.table index = family.symbol? index :=
  ReasonFamily.find?_ofReasons word family.reasons (Nat.zero_le index) h

/-- Each set bit below the bound gives its own symbol. -/
theorem map_some_toList_decodeFamily (word : StatusWord) (family : ReasonFamily) :
    (decodeFamily word family).toList.map some =
      (word.setBits family.bound).map family.symbol? := by
  unfold decodeFamily
  dsimp only
  split
  · rename_i hz
    have hnone : word.setBits family.bound = [] :=
      List.length_eq_zero_iff.mp ((word.length_setBits _).trans hz)
    rw [hnone]
    rfl
  · rw [toList_decode_of_countBelow_le (Nat.le_refl _)]
    apply map_some_filterMap_symbolAt?
    · intro index hi
      exact word.symbolAt?_table family (mem_setBits.mp hi).2
    · intro index hi
      exact (family.isSome_symbol?_iff index).mpr (mem_setBits.mp hi).1

theorem size_decodeFamily (word : StatusWord) (family : ReasonFamily) :
    (decodeFamily word family).size = countBelow word family.bound := by
  have h := congrArg List.length (map_some_toList_decodeFamily word family)
  rw [List.length_map, List.length_map, length_setBits] at h
  exact h

theorem mem_toList_decodeFamily {word : StatusWord} {family : ReasonFamily} {symbol : String} :
    symbol ∈ (decodeFamily word family).toList ↔
      ∃ index < family.bound, word.getLsbD index = true ∧ family.symbol? index = some symbol := by
  have h : symbol ∈ (decodeFamily word family).toList ↔
      some symbol ∈ (decodeFamily word family).toList.map some := by simp
  rw [h, map_some_toList_decodeFamily, List.mem_map]
  simp only [mem_setBits, and_assoc]

theorem nodup_decodeFamily (word : StatusWord) (family : ReasonFamily) :
    (decodeFamily word family).toList.Nodup := by
  apply List.Nodup.of_map some
  rw [map_some_toList_decodeFamily]
  apply (nodup_setBits word _).map_on
  intro index hi other _ he
  exact ReasonFamily.symbol?_injective (mem_setBits.mp hi).1 he

/-- The symbol of a bit is found exactly if the bit is set. -/
theorem symbol_mem_decodeFamily_iff (word : StatusWord) {family : ReasonFamily} {index : Nat}
    {symbol : String} (hs : family.symbol? index = some symbol) :
    symbol ∈ (decodeFamily word family).toList ↔ word.getLsbD index = true := by
  have hi : index < family.bound := (family.isSome_symbol?_iff index).mp (by rw [hs]; rfl)
  rw [mem_toList_decodeFamily]
  constructor
  · rintro ⟨other, ho, hb, hs'⟩
    rwa [← ReasonFamily.symbol?_injective ho (hs'.trans hs.symm)]
  · intro hb
    exact ⟨index, hi, hb, hs⟩

/-- The symbols tell the bits below the bound, and no others. -/
theorem decodeFamily_eq_iff {word other : StatusWord} {family : ReasonFamily} :
    decodeFamily word family = decodeFamily other family ↔
      ∀ index < family.bound, word.getLsbD index = other.getLsbD index := by
  constructor
  · intro h index hi
    obtain ⟨symbol, hs⟩ := Option.isSome_iff_exists.mp ((family.isSome_symbol?_iff index).mpr hi)
    rw [Bool.eq_iff_iff, ← symbol_mem_decodeFamily_iff word hs,
      ← symbol_mem_decodeFamily_iff other hs, h]
  · intro h
    apply Symbols.ext
    apply List.map_injective_iff.mpr fun _ _ => Option.some.inj
    rw [map_some_toList_decodeFamily, map_some_toList_decodeFamily, setBits_eq_iff.mpr h]

theorem symbol_wellFormed_of_mem {word : StatusWord} {family : ReasonFamily} {symbol : String}
    (h : symbol ∈ (decodeFamily word family).toList) :
    symbol.toList ≠ [] ∧ '|' ∉ symbol.toList := by
  obtain ⟨index, _, _, hs⟩ := mem_toList_decodeFamily.mp h
  obtain ⟨reason, hr, rfl⟩ := Option.map_eq_some_iff.mp hs
  exact family.symbol_wellFormed reason (List.mem_of_getElem? hr)

/-- The joined text tells the symbols, since none of them is empty or contains a bar. -/
theorem joined_decodeFamily_eq_iff {word other : StatusWord} {family : ReasonFamily} :
    (decodeFamily word family).joined = (decodeFamily other family).joined ↔
      decodeFamily word family = decodeFamily other family := by
  constructor
  · exact Symbols.joined_injOn (fun _ => symbol_wellFormed_of_mem)
      fun _ => symbol_wellFormed_of_mem
  · intro h
    rw [h]

/-- Decoding reads a word faithfully. The symbols are those of the set bits below the bound, from
the lowest on and each once, there are as many of them as such bits, and a word and its symbols,
joined or not, tell each other up to the bits from the bound on. -/
theorem decodeFamily_faithful (word : StatusWord) (family : ReasonFamily) :
    (decodeFamily word family).toList.map some =
        (word.setBits family.bound).map family.symbol? ∧
      (decodeFamily word family).toList.Nodup ∧
      (decodeFamily word family).size = countBelow word family.bound ∧
      (∀ symbol, (decodeFamily word family).contains symbol = true ↔
        ∃ index < family.bound,
          word.getLsbD index = true ∧ family.symbol? index = some symbol) ∧
      ∀ other,
        (decodeFamily word family = decodeFamily other family ↔
          ∀ index < family.bound, word.getLsbD index = other.getLsbD index) ∧
        ((decodeFamily word family).joined = (decodeFamily other family).joined ↔
          ∀ index < family.bound, word.getLsbD index = other.getLsbD index) := by
  refine ⟨map_some_toList_decodeFamily word family, nodup_decodeFamily word family,
    size_decodeFamily word family, ?_, ?_⟩
  · intro symbol
    rw [Symbols.contains, List.contains_iff_mem]
    exact mem_toList_decodeFamily
  · intro other
    exact ⟨decodeFamily_eq_iff, joined_decodeFamily_eq_iff.trans decodeFamily_eq_iff⟩

/-- Two reasons, which a bit from the bound on leaves as they are and a bit below it does not. -/
theorem decodeFamily_faithful_two_reasons :
    (decodeFamily 0x48 .blocked).toList = ["input-media-supply-empty", "jam"] ∧
      (decodeFamily 0x48 .blocked).contains "jam" = true ∧
      (decodeFamily 0x48 .blocked).joined = (decodeFamily 0x4000000000048 .blocked).joined ∧
      (decodeFamily 0x48 .blocked).joined ≠ (decodeFamily 0x40 .blocked).joined := by
  obtain ⟨hl, _, _, hc, hj⟩ := decodeFamily_faithful 0x48 .blocked
  refine ⟨?_, (hc "jam").mpr ⟨6, by decide⟩, (hj 0x4000000000048).2.mpr (by decide), ?_⟩
  · apply List.map_injective_iff.mpr fun _ _ => Option.some.inj
    rw [hl]
    decide
  · intro h
    have hb := (hj 0x40).2.mp h 3 (by decide)
    exact absurd hb (by decide)

end StatusWord

end PrintJob
