import PrintJob.Proofs.Reason.Decoding

/-! # The walk over the bits

Decoding keeps a word of pending bits from one step to the next. What it finds can be told without
that word: for each set bit below the bound, the first row that meets the bits from there on. The
steps that find anything are those of the set bits below the bound, so that with room for as many
symbols as there are such bits none is lost. -/

namespace PrintJob.StatusWord

/-! ## Without pending bits -/

theorem fromBit_eq_shift (word : StatusWord) (index : Nat) :
    word.fromBit index = word >>> index <<< index := by
  apply BitVec.eq_of_getLsbD_eq
  intro other ho
  rw [getLsbD_fromBit _ _ ho, BitVec.getLsbD_shiftLeft, BitVec.getLsbD_ushiftRight]
  by_cases h : other < index
  · have hn : ¬ index ≤ other := by omega
    simp [h, hn]
  · have hle : index ≤ other := by omega
    have hadd : index + (other - index) = other := by omega
    simp [h, hle, hadd, ho]

/-- Decoding goes through the set bits below the bound from the lowest on, takes for each of them
the symbol of the first row that meets the word with all lower bits cleared, if there is one, and
keeps the first of these symbols. -/
theorem decode_bit_by_bit (word : StatusWord) (bound : Nat) (table : List ReasonRow) (size : Nat) :
    (decode word bound table size).toList =
      (((List.range (min bound 64)).filter word.getLsbD).filterMap fun index =>
        (table.find? fun row => (word >>> index <<< index) &&& row.mask != 0).map
          ReasonRow.symbol).take size := by
  rw [toList_decode, setBits]
  congr 1
  apply List.filterMap_congr
  intro index _
  rw [symbolAt?, fromBit_eq_shift]

/-! ## Bits that are passed over -/

/-- A bit is passed over if its step never changes anything, by any table, at any point of the
walk. -/
def Skips (word : StatusWord) (index : Nat) : Prop :=
  ∀ (table : List ReasonRow) (size : Nat) (rest : List Nat) (pending : StatusWord)
    (symbols : Symbols),
    decodeBits word table size (index :: rest) pending symbols =
      decodeBits word table size rest pending symbols

theorem decodeBits_answering {word : StatusWord} {index : Nat} (h : word.getLsbD index = true) :
    decodeBits word [⟨BitVec.allOnes 64, "found"⟩] 1 [index] (BitVec.allOnes 64) .empty =
      ⟨["found"]⟩ := by
  rw [decodeBits, if_pos h]
  rfl

theorem skips_iff {word : StatusWord} {index : Nat} :
    word.Skips index ↔ word.getLsbD index = false := by
  constructor
  · intro hs
    apply Bool.eq_false_iff.mpr
    intro hb
    -- A table with a row that answers to every bit shows that the step of a set bit is taken.
    have hnone := hs [⟨BitVec.allOnes 64, "found"⟩] 1 [] (BitVec.allOnes 64) .empty
    rw [decodeBits_answering hb, decodeBits] at hnone
    exact absurd hnone (by decide)
  · intro hb table size rest pending symbols
    rw [decodeBits, hb]
    rfl

instance (word : StatusWord) (index : Nat) : Decidable (word.Skips index) :=
  decidable_of_iff (word.getLsbD index = false) skips_iff.symm

/-! ## Counting -/

theorem countBelow_eq_length_filter (word : StatusWord) (bound : Nat) :
    word.countBelow bound =
      ((List.range (min bound 64)).filter fun index => ¬ word.Skips index).length := by
  rw [← length_setBits, setBits]
  congr 1
  apply List.filter_congr
  intro index _
  simp [skips_iff]

theorem size_decode_le_countBelow (word : StatusWord) (bound : Nat) (table : List ReasonRow)
    (size : Nat) : (decode word bound table size).size ≤ word.countBelow bound := by
  rw [Symbols.size, toList_decode, ← length_setBits]
  exact Nat.le_trans (List.length_take_le' _ _) (List.length_filterMap_le _ _)

/-- A row that answers to every bit gives its symbol once for each set bit below the bound. -/
theorem toList_decode_answering (word : StatusWord) (bound : Nat) (symbol : String) (size : Nat) :
    (decode word bound [⟨BitVec.allOnes 64, symbol⟩] size).toList =
      List.replicate (min size (word.countBelow bound)) symbol := by
  have hfound : ∀ index ∈ word.setBits bound,
      word.symbolAt? [⟨BitVec.allOnes 64, symbol⟩] index = some symbol := by
    intro index hm
    have hb : word.getLsbD index = true := (mem_setBits.mp hm).2
    have hi : index < 64 := BitVec.lt_of_getLsbD hb
    have hmeets : (word.fromBit index &&& BitVec.allOnes 64 != 0) = true := by
      rw [BitVec.and_allOnes, bne_iff_ne]
      intro hz
      have hpending := getLsbD_fromBit word index hi
      rw [hz, hb] at hpending
      simp at hpending
    simp only [symbolAt?, List.find?_cons_of_pos, hmeets, Option.map_some]
  rw [toList_decode, List.filterMap_congr hfound, List.filterMap_eq_map', List.map_const',
    List.take_replicate, length_setBits]

/-- The count of set bits below a bound is that of the bits that are not passed over, for every
bound, and the window for it does not wrap around. Room for more symbols than that changes nothing,
and there are never more of them; a row that answers to every bit gives as many. -/
theorem countBelow_leaves_room (word : StatusWord) (bound : Nat) :
    (window bound).toNat = 2 ^ min bound 64 - 1 ∧
      word.countBelow bound =
        ((List.range (min bound 64)).filter fun index => ¬ word.Skips index).length ∧
      (∀ table : List ReasonRow,
        (∀ size, word.countBelow bound ≤ size →
          decode word bound table size = decode word bound table (word.countBelow bound)) ∧
        ∀ size, (decode word bound table size).size ≤ word.countBelow bound) ∧
      ∀ symbol size,
        (decode word bound [⟨BitVec.allOnes 64, symbol⟩] size).toList =
          List.replicate (min size (word.countBelow bound)) symbol := by
  refine ⟨toNat_window bound, countBelow_eq_length_filter word bound, ?_,
    toList_decode_answering word bound⟩
  intro table
  refine ⟨?_, size_decode_le_countBelow word bound table⟩
  intro size h
  apply Symbols.ext
  rw [toList_decode_of_countBelow_le h, toList_decode_of_countBelow_le (Nat.le_refl _)]

/-- A bound past the end of the word with more room than the word has bits, and three bits with the
highest of them from the bound on. -/
theorem countBelow_leaves_room_past_word :
    countBelow (BitVec.allOnes 64) 80 = 64 ∧
      decode (BitVec.allOnes 64) 80 (ReasonFamily.table .blocked) 70 =
        decode (BitVec.allOnes 64) 80 (ReasonFamily.table .blocked) 64 ∧
      (decode 0x148 8 [⟨BitVec.allOnes 64, "busy"⟩] 5).toList = ["busy", "busy"] := by
  have hcount : countBelow (BitVec.allOnes 64) 80 = 64 := by decide
  have hroom := ((countBelow_leaves_room (BitVec.allOnes 64) 80).2.2.1
    (ReasonFamily.table .blocked)).1 70 (by decide)
  rw [hcount] at hroom
  exact ⟨hcount, hroom, (countBelow_leaves_room 0x148 8).2.2.2 "busy" 5⟩

end PrintJob.StatusWord
