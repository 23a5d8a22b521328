import PrintJob.Proofs.Render.Derivation
import PrintJob.Proofs.Words

/-! # Choices over repeated derivations

A request chooses at most one orientation and at most one scaling. A derivation adds the bits of its
choices and takes none away, so that a word that was derived several times has the bits of every
choice made on the way. -/

namespace PrintJob.Render

inductive Orientation where
  | portrait
  | landscape
  | rotation
  deriving DecidableEq, Repr

inductive Scaling where
  | filling
  | fitting
  deriving DecidableEq, Repr

namespace Request

/-- The orientation that counts of those asked for. -/
def orientation? (request : Request) : Option Orientation :=
  if request.portrait then some .portrait
  else if request.landscape then some .landscape
  else if request.autoRotate then some .rotation
  else none

/-- The scaling that counts of those asked for. -/
def scaling? (request : Request) : Option Scaling :=
  if request.fillPage then some .filling
  else if request.fitToPage then some .fitting
  else none

end Request

namespace Orientation

def bit : Orientation → Flags
  | portrait => .portraitBit
  | landscape => .landscapeBit
  | rotation => .rotationBit

/-- Where the bit is in a word. -/
def index : Orientation → Fin 32
  | portrait => 0
  | landscape => 1
  | rotation => 2

theorem has_bit (orientation : Orientation) (index : Fin 32) :
    orientation.bit.has index = decide (index = orientation.index) := by
  cases orientation <;> revert index <;> decide

end Orientation

namespace Scaling

def bit : Scaling → Flags
  | filling => .fillBit
  | fitting => .fitBit

def index : Scaling → Fin 32
  | filling => 6
  | fitting => 7

theorem has_bit (scaling : Scaling) (index : Fin 32) :
    scaling.bit.has index = decide (index = scaling.index) := by
  cases scaling <;> revert index <;> decide

end Scaling

/-! ## What a request and an alignment add -/

namespace Request

/-- The flags of the orientation that counts. -/
def orientationFlags (request : Request) : Flags :=
  match request.orientation? with
  | none => .empty
  | some orientation => orientation.bit

/-- The flags of the scaling that counts. The document's own scaling goes with fitting only. -/
def scalingFlags (request : Request) : Flags :=
  match request.scaling? with
  | none => .empty
  | some .filling => .filling
  | some .fitting => Flags.insertIf request.documentScaling .fitting .ownScalingBit

end Request

namespace Alignment

/-- The centring of an alignment: on each axis that is asked for, and on the orientation if that is
asked for and the axes are not both. -/
def centringFlags (alignment : Alignment) : Flags :=
  let horizontal := alignment.bits.getLsbD 0
  let vertical := alignment.bits.getLsbD 1
  let onAxes := Flags.insertIf vertical (Flags.insertIf horizontal .empty .horizontalBit) .verticalBit
  Flags.insertIf (alignment.bits.getLsbD 2 && !(horizontal && vertical)) onAxes .orientationBit

theorem contains_both (alignment : Alignment) :
    alignment.contains both = (alignment.bits.getLsbD 0 && alignment.bits.getLsbD 1) := by
  have hand : alignment.bits &&& both.bits =
      (if alignment.bits.getLsbD 0 then 1#32 else 0#32) |||
        (if alignment.bits.getLsbD 1 then 2#32 else 0#32) := by
    calc alignment.bits &&& both.bits
        = (alignment.bits &&& BitVec.twoPow 32 0) ||| (alignment.bits &&& BitVec.twoPow 32 1) :=
          BitVec.and_or_distrib_left
      _ = (if alignment.bits.getLsbD 0 then 1#32 else 0#32) |||
          (if alignment.bits.getLsbD 1 then 2#32 else 0#32) := by
        rw [BitVec.and_twoPow, BitVec.and_twoPow]
        rfl
  rw [contains, hand]
  cases alignment.bits.getLsbD 0 <;> cases alignment.bits.getLsbD 1 <;> rfl

end Alignment

namespace Flags

variable {base flags others : Flags} {request : Request} {alignment : Alignment} {index : Fin 32}

/-! ## Bits of a choice -/

theorem contains_iff :
    flags.contains others = true ↔ ∀ index, others.has index = true → flags.has index = true := by
  have heq : flags.contains others = true ↔ flags.bits &&& others.bits = others.bits := by
    simp [contains]
  rw [heq]
  constructor
  · intro h index ho
    have hb := congrArg (fun word : BitVec 32 => word[index]) h
    simp only [has, Fin.getElem_fin, BitVec.getElem_and] at hb ho ⊢
    rw [ho, Bool.and_true] at hb
    exact hb
  · intro h
    apply BitVec.eq_of_getElem_eq
    intro i hi
    have hb := h ⟨i, hi⟩
    simp only [has, Fin.getElem_fin] at hb
    rw [BitVec.getElem_and]
    cases ho : others.bits[i] with
    | false => simp
    | true => rw [hb ho, Bool.and_self]

/-- A word that consists of one bit is contained where that bit is set. -/
theorem contains_eq_has (h : ∀ other, others.has other = decide (other = index)) :
    flags.contains others = flags.has index := by
  rw [Bool.eq_iff_iff, contains_iff]
  simp [h]

theorem contains_orientation (flags : Flags) (orientation : Orientation) :
    flags.contains orientation.bit = flags.has orientation.index :=
  contains_eq_has orientation.has_bit

theorem contains_scaling (flags : Flags) (scaling : Scaling) :
    flags.contains scaling.bit = flags.has scaling.index :=
  contains_eq_has scaling.has_bit

/-! ## One derivation -/

theorem orient_empty (request : Request) : orient request empty = request.orientationFlags := by
  unfold orient Request.orientationFlags Request.orientation?
  cases request.portrait <;> cases request.landscape <;> cases request.autoRotate <;> rfl

theorem scale_empty (request : Request) : scale request empty = request.scalingFlags := by
  unfold scale Request.scalingFlags Request.scaling?
  cases request.fillPage <;> cases request.fitToPage <;> cases request.documentScaling <;> rfl

theorem align_empty (alignment : Alignment) : align alignment empty = alignment.centringFlags := by
  have hhorizontal : alignment.meets .horizontal = alignment.bits.getLsbD 0 :=
    and_twoPow_bne_zero alignment.bits (by decide : 0 < 32)
  have hvertical : alignment.meets .vertical = alignment.bits.getLsbD 1 :=
    and_twoPow_bne_zero alignment.bits (by decide : 1 < 32)
  have horientation : alignment.meets .onOrientation = alignment.bits.getLsbD 2 :=
    and_twoPow_bne_zero alignment.bits (by decide : 2 < 32)
  unfold align Alignment.centringFlags
  split
  · rename_i hzero
    simp [hzero, insertIf]
  · rw [alignment.contains_both, hhorizontal, hvertical, horientation]
    dsimp only
    cases alignment.bits.getLsbD 0 <;> cases alignment.bits.getLsbD 1 <;>
      cases alignment.bits.getLsbD 2 <;> rfl

/-- A derivation in closed form: it adds what the request chooses, and an alignment other than zero
puts its own centring in the place of that of the word. -/
theorem derive_eq (base : Flags) (request : Request) (alignment : Alignment) :
    derive base request alignment =
      let flags := (base.insert request.orientationFlags).insert request.scalingFlags
      if alignment.bits = 0 then flags
      else (flags.remove centring).insert alignment.centringFlags := by
  rw [derive, align_eq, scale_eq_insert, orient_eq_insert, orient_empty, scale_empty, align_empty]

/-- An alignment adds bits for centring only. -/
theorem has_centringFlags (alignment : Alignment) (h : centring.has index = false) :
    alignment.centringFlags.has index = false := by
  simp only [centring, has_union, Bool.or_eq_false_iff] at h
  simp [Alignment.centringFlags, h]

theorem has_derive (h : centring.has index = false) :
    (derive base request alignment).has index =
      (base.has index || request.orientationFlags.has index ||
        request.scalingFlags.has index) := by
  rw [derive_eq]
  dsimp only
  split
  · simp
  · simp [h, has_centringFlags alignment h]

/-- A derivation adds the bit of what a request chooses, and takes no bit of a choice away. -/
structure Adds {κ : Type} [DecidableEq κ] (bit : κ → Flags) (choice? : Request → Option κ) :
    Prop where
  empty (choice : κ) : empty.contains (bit choice) = false
  derive (base : Flags) (request : Request) (alignment : Alignment) (choice : κ) :
    (derive base request alignment).contains (bit choice) =
      (base.contains (bit choice) || decide (choice? request = some choice))

theorem adds_orientation : Adds Orientation.bit Request.orientation? := by
  constructor
  · intro orientation
    rw [contains_orientation, has_empty]
  · intro base request alignment orientation
    have hcentring : centring.has orientation.index = false := by cases orientation <;> decide
    have hscaling : request.scalingFlags.has orientation.index = false := by
      rw [Request.scalingFlags]
      cases request.scaling? with
      | none => exact has_empty _
      | some chosen =>
          cases chosen <;> cases request.documentScaling <;> cases orientation <;> decide
    have horientation : request.orientationFlags.has orientation.index =
        decide (request.orientation? = some orientation) := by
      rw [Request.orientationFlags]
      cases request.orientation? with
      | none => simp
      | some chosen => cases chosen <;> cases orientation <;> decide
    rw [contains_orientation, contains_orientation, has_derive hcentring, horientation, hscaling,
      Bool.or_false]

theorem adds_scaling : Adds Scaling.bit Request.scaling? := by
  constructor
  · intro scaling
    rw [contains_scaling, has_empty]
  · intro base request alignment scaling
    have hcentring : centring.has scaling.index = false := by cases scaling <;> decide
    have horientation : request.orientationFlags.has scaling.index = false := by
      rw [Request.orientationFlags]
      cases request.orientation? with
      | none => exact has_empty _
      | some chosen => cases chosen <;> cases scaling <;> decide
    have hscaling : request.scalingFlags.has scaling.index =
        decide (request.scaling? = some scaling) := by
      rw [Request.scalingFlags]
      cases request.scaling? with
      | none => simp
      | some chosen =>
          cases chosen <;> cases request.documentScaling <;> cases scaling <;> decide
    rw [contains_scaling, contains_scaling, has_derive hcentring, horientation, hscaling,
      Bool.or_false]

/-! ## Many derivations -/

/-- Derives flags several times, each time on top of the word that came out before. -/
def deriveAll (base : Flags) (steps : List (Request × Alignment)) : Flags :=
  steps.foldl (fun flags step => derive flags step.1 step.2) base

section

variable {κ : Type}

/-- What the requests choose, in their order. -/
def choices (choice? : Request → Option κ) (steps : List (Request × Alignment)) : List κ :=
  steps.filterMap (choice? ·.1)

variable [DecidableEq κ] {bit : κ → Flags} {choice? : Request → Option κ}

/-- The word has the bits of its base and those of all the choices. -/
theorem Adds.contains_deriveAll (h : Adds bit choice?) (base : Flags)
    (steps : List (Request × Alignment)) (choice : κ) :
    (deriveAll base steps).contains (bit choice) = true ↔
      base.contains (bit choice) = true ∨ choice ∈ choices choice? steps := by
  induction steps generalizing base with
  | nil => simp [deriveAll, choices]
  | cons step rest ih =>
      have hrun : deriveAll base (step :: rest) = deriveAll (Flags.derive base step.1 step.2) rest :=
        rfl
      rw [hrun, ih, h.derive, Bool.or_eq_true, decide_eq_true_eq, or_assoc]
      cases hc : choice? step.1 with
      | none => simp [choices, hc]
      | some chosen => simp [choices, hc, @eq_comm _ chosen]

/-- At most one value has a property. -/
def AtMostOne {α : Type} (p : α → Prop) : Prop := ∀ a b, p a → p b → a = b

theorem Adds.atMostOne_iff (h : Adds bit choice?) (steps : List (Request × Alignment)) :
    AtMostOne (fun choice => (deriveAll .empty steps).contains (bit choice) = true) ↔
      AtMostOne (· ∈ choices choice? steps) := by
  simp only [h.contains_deriveAll, h.empty, Bool.false_eq_true, false_or]

end

/-! ## Exclusive words -/

/-- A word with at most one orientation and at most one scaling. -/
structure IsExclusive (flags : Flags) : Prop where
  orientation : AtMostOne fun orientation : Orientation => flags.contains orientation.bit = true
  scaling : AtMostOne fun scaling : Scaling => flags.contains scaling.bit = true

/-- Flags derived from the empty word are exclusive exactly if no two of the requests choose
different orientations or different scalings. -/
theorem isExclusive_deriveAll_iff (steps : List (Request × Alignment)) :
    IsExclusive (deriveAll empty steps) ↔
      AtMostOne (· ∈ choices Request.orientation? steps) ∧
        AtMostOne (· ∈ choices Request.scaling? steps) := by
  rw [← adds_orientation.atMostOne_iff, ← adds_scaling.atMostOne_iff]
  constructor
  · rintro ⟨horientation, hscaling⟩
    exact ⟨horientation, hscaling⟩
  · rintro ⟨horientation, hscaling⟩
    exact ⟨horientation, hscaling⟩

/-- A page that was derived in landscape has both orientations when portrait is asked for next. -/
theorem not_forall_isExclusive_deriveAll : ¬∀ steps, IsExclusive (deriveAll empty steps) := by
  intro h
  have hboth := (h [({ landscape := true }, .unset), ({ portrait := true }, .unset)]).orientation
  exact absurd (hboth .portrait .landscape (by decide) (by decide)) (by decide)

end Flags

end PrintJob.Render
