import PrintJob.Number.Binary
import Mathlib.Algebra.Order.Ring.Nat

/-! # Exact conversions

A value of a format is rounded to its own rank. A wider format has all values of a narrower one, so
that a number survives the way to the wider format and back. -/

namespace PrintJob.Number

theorem twoTo_eq (n : Nat) : twoTo n = 2 ^ n := rfl

theorem twoTo_pos (n : Nat) : 0 < twoTo n := Nat.two_pow_pos n

theorem roundQuotient_mul (q : Nat) {den : Nat} (h : 0 < den) :
    roundQuotient (q * den) den = q := by
  have hr : q * den % den = 0 := Nat.mul_mod_left q den
  simp [roundQuotient, hr, Nat.mul_div_left q h, h]

namespace Format

variable {f g : Format}

/-- A rank is taken apart into a significand and the binary places that follow it. Only without such
places can the significand lack its leading bit. -/
structure Splits (f : Format) (rank places significand : Nat) : Prop where
  rank_eq : rank = places * 2 ^ f.fraction + significand
  lt : significand < 2 ^ (f.fraction + 1)
  le : places ≠ 0 → 2 ^ f.fraction ≤ significand

theorem exists_splits (f : Format) (rank : Nat) :
    ∃ places significand, f.Splits rank places significand := by
  have hpow : 2 ^ (f.fraction + 1) = 2 ^ f.fraction + 2 ^ f.fraction := Nat.two_pow_succ _
  by_cases h : rank < 2 ^ f.fraction
  · exact ⟨0, rank, by simp, by omega, by simp⟩
  · have hmod := Nat.mod_lt rank (Nat.two_pow_pos f.fraction)
    have hdiv := Nat.div_add_mod rank (2 ^ f.fraction)
    have hone : 1 ≤ rank / 2 ^ f.fraction :=
      (Nat.one_le_div_iff (Nat.two_pow_pos _)).mpr (by omega)
    obtain ⟨places, hp⟩ : ∃ places, rank / 2 ^ f.fraction = places + 1 :=
      ⟨rank / 2 ^ f.fraction - 1, by omega⟩
    rw [hp, Nat.mul_comm, Nat.succ_mul] at hdiv
    exact ⟨places, 2 ^ f.fraction + rank % 2 ^ f.fraction, by omega, by omega, by omega⟩

theorem units_of_lt {rank : Nat} (h : rank < 2 ^ f.fraction) : f.units rank = rank := if_pos h

theorem units_of_le {rank : Nat} (h : 2 ^ f.fraction ≤ rank) :
    f.units rank =
      (2 ^ f.fraction + rank % 2 ^ f.fraction) * 2 ^ (rank / 2 ^ f.fraction - 1) :=
  if_neg (Nat.not_lt.mpr h)

/-- The value of a rank is its significand moved by its places. -/
theorem Splits.units_eq {rank places significand : Nat} (h : f.Splits rank places significand) :
    f.units rank = significand * 2 ^ places := by
  obtain ⟨rfl, hlt, hle⟩ := h
  have hpow : 2 ^ (f.fraction + 1) = 2 ^ f.fraction + 2 ^ f.fraction := Nat.two_pow_succ _
  by_cases hs : 2 ^ f.fraction ≤ significand
  · obtain ⟨low, rfl⟩ : ∃ low, significand = 2 ^ f.fraction + low :=
      ⟨_, (Nat.add_sub_of_le hs).symm⟩
    have hrank : places * 2 ^ f.fraction + (2 ^ f.fraction + low) =
        low + (places + 1) * 2 ^ f.fraction := by
      rw [Nat.succ_mul]
      omega
    rw [units_of_le (by omega), hrank, Nat.add_mul_mod_self_right,
      Nat.add_mul_div_right _ _ (Nat.two_pow_pos _), Nat.mod_eq_of_lt (by omega),
      Nat.div_eq_of_lt (by omega)]
    simp
  · have hz : places = 0 := by
      by_contra hp
      exact hs (hle hp)
    subst hz
    rw [units_of_lt (by omega)]
    simp

/-- The logarithm of a value counts its places. -/
theorem Splits.places_eq {rank places significand : Nat} (h : f.Splits rank places significand) :
    (significand * 2 ^ places).log2 - f.fraction = places := by
  by_cases hp : places = 0
  · subst hp
    rw [Nat.pow_zero, Nat.mul_one]
    by_cases hs : significand = 0
    · simp [hs]
    · have hlog := (Nat.log2_lt hs).mpr h.lt
      omega
  · have hs : 0 < significand := Nat.lt_of_lt_of_le (Nat.two_pow_pos _) (h.le hp)
    have hlog : (significand * 2 ^ places).log2 = f.fraction + places := by
      rw [Nat.log2_eq_iff (Nat.mul_pos hs (Nat.two_pow_pos _)).ne']
      constructor
      · rw [Nat.pow_add]
        exact Nat.mul_le_mul_right _ (h.le hp)
      · rw [Nat.add_right_comm, Nat.pow_add]
        exact Nat.mul_lt_mul_of_pos_right h.lt (Nat.two_pow_pos _)
    omega

/-- The value of a rank, given as any quotient, is rounded to that rank. -/
theorem round_units (f : Format) (rank : Nat) {den : Nat} (h : 0 < den) :
    f.round (f.units rank * den) den = min f.infinity rank := by
  obtain ⟨places, significand, hs⟩ := f.exists_splits rank
  have hden : 0 < den * 2 ^ places := Nat.mul_pos h (Nat.two_pow_pos _)
  have hnum : significand * 2 ^ places * den = significand * (den * 2 ^ places) := by
    rw [Nat.mul_assoc, Nat.mul_comm (2 ^ places)]
  unfold round
  simp only [twoTo_eq]
  rw [hs.units_eq, Nat.mul_div_left _ h, hs.places_eq, hnum, roundQuotient_mul _ hden, ← hs.rank_eq]

/-- A format has every value with a significand that fits. -/
theorem exists_splits_of_value (f : Format) {m : Nat} (hm : m < 2 ^ (f.fraction + 1)) (k : Nat) :
    ∃ rank places significand, f.Splits rank places significand ∧
      significand * 2 ^ places = m * 2 ^ k := by
  induction k with
  | zero => exact ⟨m, 0, m, ⟨by simp, hm, by simp⟩, rfl⟩
  | succ k ih =>
      obtain ⟨rank, places, significand, hs, hv⟩ := ih
      have hpow : 2 ^ (f.fraction + 1) = 2 ^ f.fraction + 2 ^ f.fraction := Nat.two_pow_succ _
      rw [Nat.pow_succ, ← Nat.mul_assoc, ← hv]
      -- A significand without its leading bit has room for one more bit.
      by_cases hroom : significand < 2 ^ f.fraction
      · have hz : places = 0 := by
          by_contra hp
          have hb := hs.le hp
          omega
        subst hz
        exact ⟨significand * 2, 0, significand * 2, ⟨by simp, by omega, by simp⟩, by simp⟩
      · refine ⟨_, places + 1, significand, ⟨rfl, hs.lt, fun _ => by omega⟩, ?_⟩
        rw [Nat.pow_succ, Nat.mul_assoc]

/-- A value below the overflow has a finite rank. -/
theorem Splits.lt_infinity {rank places significand : Nat} (h : f.Splits rank places significand)
    (ht : 2 ≤ f.top) (hv : significand * 2 ^ places < 2 ^ (f.fraction + f.top - 1)) :
    rank < f.infinity := by
  have hplaces : places + 2 ≤ f.top := by
    by_cases hp : places = 0
    · omega
    · have hle : 2 ^ (f.fraction + places) ≤ significand * 2 ^ places := by
        rw [Nat.pow_add]
        exact Nat.mul_le_mul_right _ (h.le hp)
      have hlt := (Nat.pow_lt_pow_iff_right (by decide : 1 < 2)).mp (Nat.lt_of_le_of_lt hle hv)
      omega
  have hpow : 2 ^ (f.fraction + 1) = 2 * 2 ^ f.fraction := by rw [Nat.pow_succ, Nat.mul_comm]
  calc rank = places * 2 ^ f.fraction + significand := h.rank_eq
    _ < places * 2 ^ f.fraction + 2 * 2 ^ f.fraction := by
        have hlt := h.lt
        omega
    _ = (places + 2) * 2 ^ f.fraction := (Nat.add_mul _ _ _).symm
    _ ≤ f.top * 2 ^ f.fraction := Nat.mul_le_mul_right _ hplaces

/-- A finite value is below the overflow. -/
theorem units_lt {rank : Nat} (ht : 2 ≤ f.top) (h : rank < f.infinity) :
    f.units rank < 2 ^ (f.fraction + f.top - 1) := by
  obtain ⟨places, significand, hs⟩ := f.exists_splits rank
  have hplaces : places + 2 ≤ f.top := by
    by_cases hp : places = 0
    · omega
    · have hle := hs.le hp
      have hlt : (places + 1) * 2 ^ f.fraction < f.top * 2 ^ f.fraction := by
        calc (places + 1) * 2 ^ f.fraction = places * 2 ^ f.fraction + 2 ^ f.fraction :=
              Nat.succ_mul _ _
          _ ≤ rank := by rw [hs.rank_eq]; omega
          _ < f.top * 2 ^ f.fraction := h
      have hp := Nat.lt_of_mul_lt_mul_right hlt
      omega
  rw [hs.units_eq]
  calc significand * 2 ^ places < 2 ^ (f.fraction + 1) * 2 ^ places :=
        Nat.mul_lt_mul_of_pos_right hs.lt (Nat.two_pow_pos _)
    _ = 2 ^ (f.fraction + 1 + places) := (Nat.pow_add _ _ _).symm
    _ ≤ 2 ^ (f.fraction + f.top - 1) := Nat.pow_le_pow_right (by decide) (by omega)

/-- A format reaches as far as another one in all directions. -/
structure Widens (g f : Format) : Prop where
  fraction_le : f.fraction ≤ g.fraction
  depth_le : f.depth ≤ g.depth
  top_le : f.fraction + f.top + (g.depth - f.depth) ≤ g.fraction + g.top
  two_le_top : 2 ≤ f.top ∧ 2 ≤ g.top

theorem Widens.exists_rank (h : g.Widens f) {rank : Nat} (hr : rank < f.infinity) :
    ∃ wide, wide < g.infinity ∧ g.units wide = f.units rank * 2 ^ (g.depth - f.depth) := by
  obtain ⟨places, significand, hs⟩ := f.exists_splits rank
  have hfraction := h.fraction_le
  have htop := h.top_le
  obtain ⟨htf, htg⟩ := h.two_le_top
  have hm : significand < 2 ^ (g.fraction + 1) :=
    Nat.lt_of_lt_of_le hs.lt (Nat.pow_le_pow_right (by decide) (by omega))
  obtain ⟨wide, places', significand', hs', hv⟩ :=
    g.exists_splits_of_value hm (places + (g.depth - f.depth))
  have hvalue : significand' * 2 ^ places' = f.units rank * 2 ^ (g.depth - f.depth) := by
    rw [hv, hs.units_eq, Nat.pow_add, Nat.mul_assoc]
  refine ⟨wide, hs'.lt_infinity htg ?_, hs'.units_eq.trans hvalue⟩
  rw [hvalue]
  calc f.units rank * 2 ^ (g.depth - f.depth)
      < 2 ^ (f.fraction + f.top - 1) * 2 ^ (g.depth - f.depth) :=
        Nat.mul_lt_mul_of_pos_right (units_lt htf hr) (Nat.two_pow_pos _)
    _ = 2 ^ (f.fraction + f.top - 1 + (g.depth - f.depth)) := (Nat.pow_add _ _ _).symm
    _ ≤ 2 ^ (g.fraction + g.top - 1) := Nat.pow_le_pow_right (by decide) (by omega)

theorem double_widens_single : Format.double.Widens .single :=
  ⟨by decide, by decide, by decide, by decide⟩

end Format

namespace Binary

variable {f g : Format}

theorem isInfinite_eq_false_iff {x : Binary f} : x.isInfinite = false ↔ x.rank < f.infinity := by
  have hle := x.rank_le
  simp only [isInfinite, beq_eq_false_iff_ne]
  omega

/-- A number that is converted to a wider format has the same value there. -/
theorem convert_wide (h : g.Widens f) {x : Binary f} (hx : x.isInfinite = false) :
    (x.convert g).negative = x.negative ∧ (x.convert g).isInfinite = false ∧
      (x.convert g).units = x.units * 2 ^ (g.depth - f.depth) := by
  obtain ⟨wide, hlt, hunits⟩ := h.exists_rank (isInfinite_eq_false_iff.mp hx)
  have hnum : x.units * twoTo g.depth = g.units wide * twoTo f.depth := by
    rw [hunits, units, twoTo_eq, twoTo_eq, Nat.mul_assoc, ← Nat.pow_add,
      Nat.sub_add_cancel h.depth_le]
  have hrank : (x.convert g).rank = wide := by
    simp only [convert, hx, Bool.false_eq_true, if_false, ofQuotient]
    rw [hnum, Format.round_units _ _ (twoTo_pos _), Nat.min_eq_right hlt.le]
  refine ⟨by simp [convert, hx, ofQuotient], ?_, ?_⟩
  · rw [isInfinite_eq_false_iff, hrank]
    exact hlt
  · rw [units, hrank, hunits, units]

/-- A number is the same after a conversion to a wider format and back. -/
theorem convert_convert (h : g.Widens f) {x : Binary f} (hx : x.isInfinite = false) :
    (x.convert g).convert f = x := by
  obtain ⟨hnegative, hfinite, hunits⟩ := convert_wide h hx
  have hnum : (x.convert g).units * twoTo f.depth = x.units * twoTo g.depth := by
    rw [hunits, twoTo_eq, twoTo_eq, Nat.mul_assoc, ← Nat.pow_add, Nat.sub_add_cancel h.depth_le]
  have hrank : ((x.convert g).convert f).rank = x.rank := by
    rw [convert, hfinite]
    simp only [Bool.false_eq_true, if_false, ofQuotient]
    rw [hnum, units, Format.round_units _ _ (twoTo_pos _), Nat.min_eq_right x.rank_le]
  have hsign : ((x.convert g).convert f).negative = x.negative := by
    rw [convert, hfinite]
    exact hnegative
  cases x
  cases hback : (convert f _)
  simp_all

end Binary

end PrintJob.Number
