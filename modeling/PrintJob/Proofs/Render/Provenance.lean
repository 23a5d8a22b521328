import PrintJob.Proofs.Render.Choices

/-! # Where the bits of derived flags come from

Every bit of a derived word was in its base, or belongs to the orientation or the scaling that
counts, or to the centring of the alignment. An alignment puts its own centring in the place of any
other, and nothing else is ever taken away. -/

namespace PrintJob.Render.Flags

variable {base : Flags} {request : Request} {alignment : Alignment} {index : Fin 32}

theorem has_derive_of_has (hb : base.has index = true) (hc : centring.has index = false) :
    (derive base request alignment).has index = true := by
  rw [has_derive hc, hb, Bool.true_or, Bool.true_or]

theorem has_of_has_derive (h : (derive base request alignment).has index = true) :
    base.has index = true ∨ request.orientationFlags.has index = true ∨
      request.scalingFlags.has index = true ∨ alignment.centringFlags.has index = true := by
  rw [derive_eq] at h
  dsimp only at h
  split at h
  · simp only [has_insert, Bool.or_eq_true] at h
    rcases h with (hbase | horientation) | hscaling
    · exact .inl hbase
    · exact .inr (.inl horientation)
    · exact .inr (.inr (.inl hscaling))
  · simp only [has_insert, has_remove, Bool.or_eq_true, Bool.and_eq_true] at h
    rcases h with ⟨(hbase | horientation) | hscaling, _⟩ | hcentring
    · exact .inl hbase
    · exact .inr (.inl horientation)
    · exact .inr (.inr (.inl hscaling))
    · exact .inr (.inr (.inr hcentring))

theorem has_derive_centring (ha : alignment.bits ≠ 0) (hc : centring.has index = true) :
    (derive base request alignment).has index = alignment.centringFlags.has index := by
  rw [derive_eq]
  dsimp only
  rw [if_neg ha]
  simp [hc]

theorem contains_orientationBit (flags : Flags) :
    flags.contains orientationBit = flags.has 5 := by
  apply contains_eq_has
  decide

theorem derive_of_contains_both (h : alignment.contains .both = true) :
    (derive base request alignment).contains orientationBit = false := by
  obtain ⟨hhorizontal, hvertical⟩ : alignment.bits.getLsbD 0 = true ∧
      alignment.bits.getLsbD 1 = true := by
    simpa [alignment.contains_both] using h
  have ha : alignment.bits ≠ 0 := by
    intro hz
    simp [hz] at hhorizontal
  rw [contains_orientationBit, has_derive_centring ha (by decide), Alignment.centringFlags,
    hhorizontal, hvertical]
  cases alignment.bits.getLsbD 2 <;> decide

/-- Deriving again with the same wishes changes nothing. Every bit of the base stays, centring apart,
and every bit is one of the base, of the orientation or the scaling that counts, or of the alignment.
The centring is that of the alignment unless it is zero, whatever the base and the request, and
centring on both axes leaves none on the orientation. -/
theorem derive_accounts_for_bits (base : Flags) (request : Request) (alignment : Alignment) :
    derive (derive base request alignment) request alignment = derive base request alignment ∧
      (∀ index, base.has index = true → centring.has index = false →
        (derive base request alignment).has index = true) ∧
      (∀ index, (derive base request alignment).has index = true →
        base.has index = true ∨ request.orientationFlags.has index = true ∨
          request.scalingFlags.has index = true ∨ alignment.centringFlags.has index = true) ∧
      (alignment.bits ≠ 0 → ∀ index, centring.has index = true →
        (derive base request alignment).has index = alignment.centringFlags.has index ∧
          ∀ (others : Flags) (wishes : Request),
            (derive others wishes alignment).has index =
              (derive base request alignment).has index) ∧
      (alignment.contains .both = true →
        (derive base request alignment).contains orientationBit = false) := by
  refine ⟨derive_derive base request alignment, ?_, ?_, ?_, derive_of_contains_both⟩
  · intro index hb hc
    exact has_derive_of_has hb hc
  · intro index h
    exact has_of_has_derive h
  · intro ha index hc
    refine ⟨has_derive_centring ha hc, ?_⟩
    intro others wishes
    rw [has_derive_centring ha hc, has_derive_centring ha hc]

/-- Centring on both axes and on the orientation takes the place of what a base with an unknown bit
and a request to fit the page bring along. -/
theorem derive_accounts_for_bits_all_axes :
    derive (derive ⟨0x80000020⟩ { fitToPage := true } ⟨7⟩) { fitToPage := true } ⟨7⟩ =
        derive ⟨0x80000020⟩ { fitToPage := true } ⟨7⟩ ∧
      (derive ⟨0x80000020⟩ { fitToPage := true } ⟨7⟩).has 31 = true ∧
      ({ fitToPage := true } : Request).scalingFlags.has 7 = true ∧
      (derive empty {} ⟨7⟩).has 3 = (derive ⟨0x80000020⟩ { fitToPage := true } ⟨7⟩).has 3 ∧
      (derive ⟨0x80000020⟩ { fitToPage := true } ⟨7⟩).contains orientationBit = false := by
  obtain ⟨hagain, hkept, hfrom, hcentring, hboth⟩ :=
    derive_accounts_for_bits ⟨0x80000020⟩ { fitToPage := true } ⟨7⟩
  refine ⟨hagain, hkept 31 (by decide) (by decide), ?_,
    (hcentring (by decide) 3 (by decide)).2 empty {}, hboth (by decide)⟩
  rcases hfrom 7 (by decide) with hbase | horientation | hscaling | halignment
  · exact absurd hbase (by decide)
  · exact absurd horientation (by decide)
  · exact hscaling
  · exact absurd halignment (by decide)

end PrintJob.Render.Flags
