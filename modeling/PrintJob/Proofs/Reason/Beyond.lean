import PrintJob.Proofs.Reason.Decoding
import Mathlib.Data.List.Find

/-! # Bits beyond the bound

Only bits below the bound are decoded, but a row answers to any bit that is still pending, and those
beyond the bound are pending to the end. So a table whose rows answer to such bits may find another
symbol for a bit below the bound. Which tables do not is told by pairs of bits. -/

namespace PrintJob

/-! ## Bits that a row answers to -/

namespace StatusWord

theorem getLsbD_and_window (word : StatusWord) (bound index : Nat) :
    (word &&& window bound).getLsbD index = (word.getLsbD index && decide (index < bound)) := by
  rw [BitVec.getLsbD_and]
  by_cases h : index < 64
  · rw [getLsbD_window bound h]
  · rw [BitVec.getLsbD_of_ge word index (by omega)]
    rfl

theorem setBits_and_window (word : StatusWord) (bound : Nat) :
    (word &&& window bound).setBits bound = word.setBits bound := by
  apply setBits_eq_iff.mpr
  intro index hi
  rw [getLsbD_and_window, decide_eq_true hi, Bool.and_true]

theorem setBits_bit {low bound : Nat} (hl : low < bound) (h : low < 64) :
    (bit low).setBits bound = [low] := by
  apply List.perm_singleton.mp
  apply (List.perm_ext_iff_of_nodup (nodup_setBits _ _) (List.nodup_singleton low)).mpr
  intro index
  rw [mem_setBits, getLsbD_bit, List.mem_singleton]
  simp only [h, decide_true, Bool.true_and, decide_eq_true_eq]
  omega

/-- Of two bits on both sides of the bound the window leaves the lower one. -/
theorem two_bits_and_window {low high bound : Nat} (hl : low < bound) (hb : bound ≤ high) :
    (bit low ||| bit high) &&& window bound = bit low := by
  apply BitVec.eq_of_getLsbD_eq
  intro index _
  rw [getLsbD_and_window, BitVec.getLsbD_or, getLsbD_bit, getLsbD_bit, Bool.eq_iff_iff]
  simp only [Bool.and_eq_true, Bool.or_eq_true_iff, decide_eq_true_eq]
  omega

theorem bit_and_bne_zero (mask : StatusWord) {index : Nat} (h : index < 64) :
    (bit index &&& mask != 0) = mask.getLsbD index := by
  rw [BitVec.and_comm, and_bit_bne_zero mask h]

/-- Nothing is cut off below an index from which all set bits are on. -/
theorem fromBit_eq_self {word : StatusWord} {start : Nat}
    (h : ∀ index, word.getLsbD index = true → start ≤ index) : word.fromBit start = word := by
  apply BitVec.eq_of_getLsbD_eq
  intro index hi
  rw [getLsbD_fromBit _ _ hi]
  cases hw : word.getLsbD index with
  | false => rfl
  | true => rw [decide_eq_true (h index hw)]; rfl

/-! ## What a table finds for pending bits -/

/-- The symbol of the first row that answers to a pending bit. -/
def symbolIn? (pending : StatusWord) (table : List ReasonRow) : Option String :=
  (table.find? fun row => pending &&& row.mask != 0).map ReasonRow.symbol

theorem symbolAt?_eq_symbolIn? (word : StatusWord) (table : List ReasonRow) (index : Nat) :
    word.symbolAt? table index = (word.fromBit index).symbolIn? table := rfl

theorem symbolIn?_cons (pending : StatusWord) (row : ReasonRow) (rest : List ReasonRow) :
    pending.symbolIn? (row :: rest) =
      if pending &&& row.mask != 0 then some row.symbol else pending.symbolIn? rest := by
  rw [symbolIn?, List.find?_cons]
  cases pending &&& row.mask != 0 <;> rfl

theorem symbolIn?_bit_cons {index : Nat} (h : index < 64) (row : ReasonRow)
    (rest : List ReasonRow) :
    (bit index).symbolIn? (row :: rest) =
      if row.mask.getLsbD index then some row.symbol else (bit index).symbolIn? rest := by
  rw [symbolIn?_cons, bit_and_bne_zero _ h]

theorem symbolIn?_two_bits_cons {low high : Nat} (hl : low < 64) (hh : high < 64)
    (row : ReasonRow) (rest : List ReasonRow) :
    (bit low ||| bit high).symbolIn? (row :: rest) =
      if row.mask.getLsbD low || row.mask.getLsbD high then some row.symbol
      else (bit low ||| bit high).symbolIn? rest := by
  rw [symbolIn?_cons, or_and_bne_zero, bit_and_bne_zero _ hl, bit_and_bne_zero _ hh]

/-- Where every pending bit alone finds the same symbol, the bits together find it too. -/
theorem symbolIn?_eq_some_of_bits {pending : StatusWord} {table : List ReasonRow} {symbol : String}
    (hp : ∃ index, pending.getLsbD index = true)
    (h : ∀ index, pending.getLsbD index = true → (bit index).symbolIn? table = some symbol) :
    pending.symbolIn? table = some symbol := by
  induction table with
  | nil =>
      obtain ⟨index, hi⟩ := hp
      exact h index hi
  | cons row rest ih =>
      rw [symbolIn?_cons]
      cases hm : pending &&& row.mask != 0 with
      | true =>
          obtain ⟨index, hi, hr⟩ := (and_bne_zero_iff _ _).mp hm
          have hs := h index hi
          rwa [symbolIn?_bit_cons (BitVec.lt_of_getLsbD hi), hr] at hs
      | false =>
          apply ih
          intro index hi
          have hs := h index hi
          rwa [symbolIn?_bit_cons (BitVec.lt_of_getLsbD hi), getLsbD_eq_false_of_and hm hi] at hs

/-- Bits that change nothing beside any single one of some pending bits change nothing beside all
of them. -/
theorem symbolIn?_or {near far : StatusWord} {table : List ReasonRow}
    (hn : ∃ low, near.getLsbD low = true)
    (h : ∀ low, near.getLsbD low = true → ∀ high, far.getLsbD high = true →
      (bit low ||| bit high).symbolIn? table = (bit low).symbolIn? table) :
    (near ||| far).symbolIn? table = near.symbolIn? table := by
  induction table with
  | nil => rfl
  | cons row rest ih =>
      rw [symbolIn?_cons, symbolIn?_cons, or_and_bne_zero]
      cases hnear : near &&& row.mask != 0 with
      | true => rfl
      | false =>
          -- No near bit finds the row, so what a near bit finds alone is further down.
          have hpair : ∀ low, near.getLsbD low = true → ∀ high, far.getLsbD high = true →
              (if row.mask.getLsbD high then some row.symbol
                else (bit low ||| bit high).symbolIn? rest) = (bit low).symbolIn? rest := by
            intro low hl high hh
            have hlow := BitVec.lt_of_getLsbD hl
            have hlh := h low hl high hh
            rwa [symbolIn?_two_bits_cons hlow (BitVec.lt_of_getLsbD hh), symbolIn?_bit_cons hlow,
              getLsbD_eq_false_of_and hnear hl, Bool.false_or] at hlh
          cases hfar : far &&& row.mask != 0 with
          | true =>
              obtain ⟨high, hh, hr⟩ := (and_bne_zero_iff _ _).mp hfar
              have hfound : near.symbolIn? rest = some row.symbol := by
                apply symbolIn?_eq_some_of_bits hn
                intro low hl
                rw [← hpair low hl high hh, if_pos hr]
              exact hfound.symm
          | false =>
              apply ih
              intro low hl high hh
              rw [← hpair low hl high hh, getLsbD_eq_false_of_and hfar hh]
              rfl

end StatusWord

/-! ## Tables that ignore bits beyond the bound -/

/-- No bit from the bound on changes what a table finds for a bit below it. -/
def IgnoresBeyond (table : List ReasonRow) (bound : Nat) : Prop :=
  ∀ low < bound, ∀ high < 64, bound ≤ high →
    (StatusWord.bit low ||| StatusWord.bit high).symbolIn? table =
      (StatusWord.bit low).symbolIn? table

instance (table : List ReasonRow) (bound : Nat) : Decidable (IgnoresBeyond table bound) :=
  inferInstanceAs (Decidable (∀ low < bound, ∀ high < 64, bound ≤ high →
    (StatusWord.bit low ||| StatusWord.bit high).symbolIn? table =
      (StatusWord.bit low).symbolIn? table))

/-- A table without rows for the bits from the bound on ignores them. -/
theorem ignoresBeyond_of_masks {table : List ReasonRow} {bound : Nat}
    (h : ∀ row ∈ table, ∀ index, row.mask.getLsbD index = true → index < bound) :
    IgnoresBeyond table bound := by
  intro low hl high hh hb
  rw [StatusWord.symbolIn?, StatusWord.symbolIn?, List.find?_congr fun row hr => ?_]
  have hhigh : row.mask.getLsbD high = false := by
    apply Bool.eq_false_iff.mpr
    intro hm
    have hlt := h row hr high hm
    omega
  rw [or_and_bne_zero, StatusWord.bit_and_bne_zero _ hh, hhigh, Bool.or_false]

/-- The rows of this table are all below the sixth bit, and not all below the fourth. -/
example :
    IgnoresBeyond [⟨StatusWord.bit 2, "A"⟩, ⟨StatusWord.bit 5, "B"⟩] 6 ∧
      ¬ IgnoresBeyond [⟨StatusWord.bit 2, "A"⟩, ⟨StatusWord.bit 5, "B"⟩] 4 := by decide

/-- The rows of a family answer to bits below its bound only. -/
theorem ReasonFamily.ignoresBeyond_table (family : ReasonFamily) :
    IgnoresBeyond family.table family.bound := by
  apply ignoresBeyond_of_masks
  intro row hr index hm
  obtain ⟨own, _, ho, hmask⟩ := ReasonRow.exists_bit_of_mem_ofReasons hr
  rw [hmask, StatusWord.getLsbD_bit] at hm
  simp only [Bool.and_eq_true, decide_eq_true_eq] at hm
  rw [bound]
  omega

/-! ## Decoding -/

namespace StatusWord

/-- The bits from an index on are those below the bound and those beyond it. -/
theorem fromBit_eq_or (word : StatusWord) {index bound : Nat} (h : index < bound) :
    word.fromBit index = (word &&& window bound).fromBit index ||| word.fromBit bound := by
  apply BitVec.eq_of_getLsbD_eq
  intro other ho
  rw [BitVec.getLsbD_or, getLsbD_fromBit _ _ ho, getLsbD_fromBit _ _ ho, getLsbD_fromBit _ _ ho,
    getLsbD_and_window, Bool.and_assoc, ← Bool.and_or_distrib_left]
  congr 1
  rw [Bool.eq_iff_iff]
  simp only [Bool.or_eq_true_iff, Bool.and_eq_true_iff, decide_eq_true_eq]
  omega

/-- A table that ignores the bits beyond the bound finds the same symbol whether or not they are
pending. -/
theorem symbolAt?_and_window {table : List ReasonRow} {bound : Nat} (h : IgnoresBeyond table bound)
    {word : StatusWord} {index : Nat} (hi : index < bound) (hb : word.getLsbD index = true) :
    (word &&& window bound).symbolAt? table index = word.symbolAt? table index := by
  have hlt := BitVec.lt_of_getLsbD hb
  rw [symbolAt?_eq_symbolIn?, symbolAt?_eq_symbolIn?, word.fromBit_eq_or hi]
  refine (symbolIn?_or ⟨index, ?_⟩ ?_).symm
  · rw [getLsbD_fromBit _ _ hlt, getLsbD_and_window]
    simp [hb, hi]
  · intro low hl high hh
    have hlow := BitVec.lt_of_getLsbD hl
    have hhigh := BitVec.lt_of_getLsbD hh
    rw [getLsbD_fromBit _ _ hlow, getLsbD_and_window] at hl
    rw [getLsbD_fromBit _ _ hhigh] at hh
    simp only [Bool.and_eq_true, decide_eq_true_eq] at hl hh
    exact h low hl.1.2 high hhigh hh.2

/-- The only set bit below the bound is decoded to what is found for it. -/
theorem head?_decode_of_setBits {word : StatusWord} {bound low : Nat}
    (h : word.setBits bound = [low]) (table : List ReasonRow) :
    (decode word bound table 1).toList.head? = word.symbolAt? table low := by
  rw [toList_decode, h]
  cases hs : word.symbolAt? table low <;> simp [hs]

/-- Decoding a bit below the bound together with one beyond it shows what the table finds for the
two. -/
theorem symbolIn?_eq_of_decode {table : List ReasonRow} {bound low high : Nat} (hl : low < bound)
    (hh : high < 64) (hb : bound ≤ high)
    (h : decode ((bit low ||| bit high) &&& window bound) bound table 1 =
      decode (bit low ||| bit high) bound table 1) :
    (bit low ||| bit high).symbolIn? table = (bit low).symbolIn? table := by
  have hlow : low < 64 := by omega
  have hcut := two_bits_and_window hl hb
  have hone : (bit low).setBits bound = [low] := setBits_bit hl hlow
  have hboth : (bit low ||| bit high).setBits bound = [low] := by
    rw [← setBits_and_window, hcut, hone]
  have hfrom : (bit low).fromBit low = bit low := by
    apply fromBit_eq_self
    simp only [getLsbD_bit, Bool.and_eq_true, decide_eq_true_eq]
    omega
  have hfromBoth : (bit low ||| bit high).fromBit low = bit low ||| bit high := by
    apply fromBit_eq_self
    simp only [BitVec.getLsbD_or, getLsbD_bit, Bool.or_eq_true_iff, Bool.and_eq_true,
      decide_eq_true_eq]
    omega
  calc (bit low ||| bit high).symbolIn? table
      = (decode (bit low ||| bit high) bound table 1).toList.head? := by
        rw [head?_decode_of_setBits hboth, symbolAt?_eq_symbolIn?, hfromBoth]
    _ = (decode (bit low) bound table 1).toList.head? := by rw [← h, hcut]
    _ = (bit low).symbolIn? table := by
        rw [head?_decode_of_setBits hone, symbolAt?_eq_symbolIn?, hfrom]

/-- A table ignores the bits beyond the bound in every word, whatever the size, if it ignores each
of them beside each single bit below the bound, and only then. The tables of the two families
do. -/
theorem decode_and_window_iff (bound : Nat) (table : List ReasonRow) :
    ((∀ (word : StatusWord) (size : Nat),
      decode (word &&& window bound) bound table size = decode word bound table size) ↔
        IgnoresBeyond table bound) ∧
    ∀ family : ReasonFamily, IgnoresBeyond family.table family.bound := by
  refine ⟨⟨?_, ?_⟩, ReasonFamily.ignoresBeyond_table⟩
  · intro h low hl high hh hb
    exact symbolIn?_eq_of_decode hl hh hb (h (bit low ||| bit high) 1)
  · intro h word size
    apply Symbols.ext
    rw [toList_decode, toList_decode, setBits_and_window]
    congr 1
    apply List.filterMap_congr
    intro index hi
    obtain ⟨hlt, hb⟩ := mem_setBits.mp hi
    exact symbolAt?_and_window h hlt hb

/-- A bit below the bound that no row answers to is given the symbol of a bit beyond the bound. -/
theorem not_forall_decode_and_window :
    ¬ ∀ (word : StatusWord) (bound : Nat) (table : List ReasonRow) (size : Nat),
      decode (word &&& window bound) bound table size = decode word bound table size := by
  intro h
  have hcut : decode (0x21 &&& window 4) 4 [⟨bit 2, "A"⟩, ⟨bit 5, "B"⟩] 1 = ⟨[]⟩ := by decide
  have hfull : decode 0x21 4 [⟨bit 2, "A"⟩, ⟨bit 5, "B"⟩] 1 = ⟨["B"]⟩ := by decide
  have heq := h 0x21 4 [⟨bit 2, "A"⟩, ⟨bit 5, "B"⟩] 1
  rw [hcut, hfull] at heq
  exact absurd heq (by decide)

end StatusWord

end PrintJob
