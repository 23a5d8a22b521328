import PrintJob.Render.Flags

/-! # Derived flags

What was asked for adds bits to a word, and an alignment puts centring bits of its own in the place
of those of the word. So a derivation on top of its own result finds every bit in place. -/

namespace PrintJob.Render.Flags

/-! ## Bits -/

/-- The word has the bit with an index. -/
def has (flags : Flags) (index : Fin 32) : Bool := flags.bits[index]

theorem eq_of_has_eq {flags others : Flags} (h : ∀ index, flags.has index = others.has index) :
    flags = others := by
  have hb : flags.bits = others.bits := BitVec.eq_of_getElem_eq fun i hi => h ⟨i, hi⟩
  cases flags
  cases others
  exact congrArg Flags.mk hb

variable (flags others : Flags) (index : Fin 32)

@[simp] theorem has_empty : empty.has index = false := by simp [has, empty]

@[simp] theorem has_union :
    (flags.union others).has index = (flags.has index || others.has index) := by
  simp [has, union]

@[simp] theorem has_insert :
    (flags.insert others).has index = (flags.has index || others.has index) := by
  simp [has, insert]

@[simp] theorem has_remove :
    (flags.remove others).has index = (flags.has index && !others.has index) := by
  simp [has, remove]

@[simp] theorem has_insertIf (condition : Bool) :
    (insertIf condition flags others).has index =
      (flags.has index || (condition && others.has index)) := by
  cases condition <;> simp [insertIf]

/-! ## The steps of a derivation -/

/-- The orientation that was asked for adds the bits that it gives the empty word. -/
theorem orient_eq_insert (request : Request) :
    orient request flags = flags.insert (orient request empty) := by
  apply eq_of_has_eq
  intro index
  unfold orient
  repeat' split
  all_goals simp

theorem scale_eq_insert (request : Request) :
    scale request flags = flags.insert (scale request empty) := by
  apply eq_of_has_eq
  intro index
  unfold scale
  repeat' split
  all_goals simp [Bool.or_assoc]

/-- The alignment zero keeps the centring, and any other one replaces all of it. -/
theorem align_eq (alignment : Alignment) :
    align alignment flags =
      if alignment.bits = 0 then flags
      else (flags.remove centring).insert (align alignment empty) := by
  unfold align
  split
  · rfl
  · apply eq_of_has_eq
    intro index
    dsimp only
    split
    · simp only [has_insert, has_remove, has_insertIf, has_empty, centring, has_union]
      cases flags.has index <;> cases horizontalBit.has index <;>
        cases verticalBit.has index <;> cases orientationBit.has index <;> simp
    · simp [Bool.or_assoc]

/-- Flags derived from a word that was derived the same way are the same flags. -/
theorem derive_derive (base : Flags) (request : Request) (alignment : Alignment) :
    derive (derive base request alignment) request alignment = derive base request alignment := by
  unfold derive
  rw [orient_eq_insert, scale_eq_insert, orient_eq_insert base, scale_eq_insert (base.insert _),
    align_eq, align_eq]
  generalize orient request empty = oriented
  generalize scale request empty = scaled
  generalize align alignment empty = aligned
  apply eq_of_has_eq
  intro index
  split
  · simp only [has_insert]
    cases base.has index <;> cases oriented.has index <;> cases scaled.has index <;> rfl
  · simp only [has_insert, has_remove]
    cases base.has index <;> cases oriented.has index <;> cases scaled.has index <;>
        cases aligned.has index <;> cases centring.has index <;> rfl

end PrintJob.Render.Flags
