import Mathlib.Tactic.ByContra

/-! # Bits that words share

Whether two words have a set bit in common, for words of any width. -/

namespace PrintJob

variable {width : Nat}

theorem and_bne_zero_iff (word mask : BitVec width) :
    (word &&& mask != 0) = true ↔
      ∃ index, word.getLsbD index = true ∧ mask.getLsbD index = true := by
  rw [bne_iff_ne]
  constructor
  · intro h
    by_contra hn
    apply h
    apply BitVec.eq_of_getLsbD_eq
    intro index _
    by_cases hw : word.getLsbD index = true
    · have hm : mask.getLsbD index = false := by
        apply Bool.eq_false_iff.mpr
        exact fun hm => hn ⟨index, hw, hm⟩
      simp [hm]
    · simp [hw]
  · rintro ⟨index, hw, hm⟩ hz
    have hb := congrArg (fun bits : BitVec width => bits.getLsbD index) hz
    simp [hw, hm] at hb

theorem getLsbD_eq_false_of_and {word mask : BitVec width} (h : (word &&& mask != 0) = false)
    {index : Nat} (hw : word.getLsbD index = true) : mask.getLsbD index = false := by
  apply Bool.eq_false_iff.mpr
  intro hm
  rw [(and_bne_zero_iff word mask).mpr ⟨index, hw, hm⟩] at h
  cases h

theorem or_and_bne_zero (near far mask : BitVec width) :
    ((near ||| far) &&& mask != 0) = (near &&& mask != 0 || far &&& mask != 0) := by
  rw [Bool.eq_iff_iff, Bool.or_eq_true_iff]
  simp only [and_bne_zero_iff, BitVec.getLsbD_or, Bool.or_eq_true_iff]
  constructor
  · rintro ⟨index, hn | hf, hm⟩
    · exact .inl ⟨index, hn, hm⟩
    · exact .inr ⟨index, hf, hm⟩
  · rintro (⟨index, hn, hm⟩ | ⟨index, hf, hm⟩)
    · exact ⟨index, .inl hn, hm⟩
    · exact ⟨index, .inr hf, hm⟩

/-- A word shares the one bit of another word if it has that bit. -/
theorem and_twoPow_bne_zero (word : BitVec width) {index : Nat} (h : index < width) :
    (word &&& BitVec.twoPow width index != 0) = word.getLsbD index := by
  rw [Bool.eq_iff_iff, and_bne_zero_iff]
  constructor
  · rintro ⟨other, hw, hp⟩
    rw [BitVec.getLsbD_twoPow, Bool.and_eq_true, decide_eq_true_eq, decide_eq_true_eq] at hp
    rwa [hp.2]
  · intro hw
    exact ⟨index, hw, by simp [h]⟩

end PrintJob
