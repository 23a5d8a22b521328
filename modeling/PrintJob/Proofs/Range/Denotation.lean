import PrintJob.Proofs.Range.Outcomes
import PrintJob.Proofs.Range.Selection
import Mathlib.Data.Rat.Floor
import Mathlib.Tactic.Positivity

/-! # What bounds denote

A literal denotes a rational number, or none if it is a word. The page that is read from a bound is
the integer part of that number as long as no exponent moves the point. -/

namespace PrintJob.Range

open Text (digitsValue splitDigits)

/-! ## Denotation -/

/-- The number that a magnitude denotes, if it is finite. -/
def Magnitude.value? : Magnitude → Option ℚ
  | .finite whole fraction exponent =>
    some (digitsValue (whole ++ fraction) * 10 ^ (exponent - fraction.length))
  | .infinite | .undefined => none

/-- The number that a literal denotes, if it is finite. -/
def Literal.value? (literal : Literal) : Option ℚ :=
  literal.magnitude.value?.map fun value => if literal.negative then -value else value

/-- A number without what follows its point. -/
def integerPart (value : ℚ) : ℤ := if value < 0 then ⌈value⌉ else ⌊value⌋

/-- A text spells a number, and what is read from it is the integer part of that number. -/
def ReadAsSpelled (s : List Char) : Prop :=
  ∃ (literal : Literal) (value : ℚ), literal.Spells s ∧ literal.value? = some value ∧
    initialInteger s = integerPart value

/-- The literal is a number, and none of the words. -/
def Literal.IsNumber (literal : Literal) : Prop :=
  ∃ whole fraction exponent, literal.magnitude = .finite whole fraction exponent

/-- The literal has an exponent that changes its value. -/
def Literal.IsScaled (literal : Literal) : Prop :=
  ∃ whole fraction exponent, literal.magnitude = .finite whole fraction exponent ∧
    exponent ≠ 0 ∧ digitsValue (whole ++ fraction) ≠ 0

/-! ## What is read from a literal -/

/-- The digits before the point are read from a number. -/
theorem initialInteger_of_spells {negative : Bool} {whole fraction s : List Char} {exponent : Int}
    (h : Literal.Spells ⟨negative, .finite whole fraction exponent⟩ s) :
    initialInteger s = if negative then -(digitsValue whole : Int) else digitsValue whole := by
  cases h with
  | @mk _ _ sign rest hs hm =>
      have hdigits : (splitDigits rest).1 = whole := by
        cases hm with
        | whole _ hd he => rw [Text.splitDigits_append_of_head hd he.head_not_digit]
        | pointed _ hd => rw [Text.splitDigits_append_of_head hd (by simp)]
      simp [initialInteger, Literal.splitSign_of_spells hs hm, hdigits]

/-- Nothing is read from a word. -/
theorem initialInteger_of_not_isNumber {literal : Literal} {s : List Char}
    (h : literal.Spells s) (hn : ¬ literal.IsNumber) : initialInteger s = 0 := by
  cases h with
  | mk hs hm =>
      obtain ⟨c, tail, rfl, hd, _, _⟩ := hm.exists_letter fun _ _ _ he => hn ⟨_, _, _, he⟩
      simp [initialInteger, Literal.splitSign_of_spells hs hm, splitDigits, hd, digitsValue]

/-! ## Values of digits -/

/-- Without an exponent the digits before the point spell the integer part. -/
theorem floor_value (whole fraction : List Char) (h : ∀ c ∈ fraction, c.isDigit = true) :
    ⌊(digitsValue (whole ++ fraction) : ℚ) * 10 ^ (0 - (fraction.length : ℤ))⌋ =
      digitsValue whole := by
  have hpos : (0 : ℚ) < 10 ^ fraction.length := by positivity
  have hlt : (digitsValue fraction : ℚ) < 10 ^ fraction.length := by
    exact_mod_cast Text.digitsValue_lt h
  have hvalue : (digitsValue (whole ++ fraction) : ℚ) * 10 ^ (0 - (fraction.length : ℤ)) =
      digitsValue whole + digitsValue fraction / 10 ^ fraction.length := by
    rw [Text.digitsValue_append, zero_sub, zpow_neg, zpow_natCast, ← div_eq_mul_inv]
    push_cast
    rw [add_div, mul_div_cancel_right₀ _ hpos.ne']
  have hfraction : (digitsValue fraction : ℚ) / 10 ^ fraction.length < 1 :=
    (div_lt_one hpos).mpr hlt
  have hnonneg : (0 : ℚ) ≤ digitsValue fraction / 10 ^ fraction.length := by positivity
  rw [hvalue, Int.floor_eq_iff]
  constructor
  · push_cast
    linarith
  · push_cast
    linarith

/-- A positive exponent moves a digit that is not zero in front of the point. -/
theorem lt_value {whole fraction : List Char} {exponent : Nat}
    (hf : fraction.length ≤ exponent) (he : exponent ≠ 0)
    (hn : digitsValue (whole ++ fraction) ≠ 0) :
    digitsValue whole < digitsValue (whole ++ fraction) * 10 ^ (exponent - fraction.length) := by
  rw [Text.digitsValue_append] at hn ⊢
  have hone : 1 ≤ 10 ^ (exponent - fraction.length) := Nat.one_le_pow _ _ (by decide)
  cases fraction with
  | nil =>
      have hten : 10 ^ 1 ≤ 10 ^ exponent := Nat.pow_le_pow_right (by decide) (by omega)
      have hz : digitsValue [] = 0 := rfl
      simp only [List.length_nil, Nat.pow_zero, Nat.mul_one, hz, Nat.add_zero, Nat.sub_zero] at hn ⊢
      calc digitsValue whole < digitsValue whole * 10 := by omega
        _ ≤ digitsValue whole * 10 ^ exponent := Nat.mul_le_mul_left _ hten
  | cons c rest =>
      have hten : 10 ^ 1 ≤ 10 ^ (c :: rest).length := Nat.pow_le_pow_right (by decide) (by simp)
      have hle : digitsValue whole * 10 ≤ digitsValue whole * 10 ^ (c :: rest).length :=
        Nat.mul_le_mul_left _ hten
      have hzero : digitsValue whole = 0 → digitsValue whole * 10 ^ (c :: rest).length = 0 := by
        intro hz
        rw [hz, Nat.zero_mul]
      calc digitsValue whole
          < digitsValue whole * 10 ^ (c :: rest).length + digitsValue (c :: rest) := by omega
        _ ≤ _ := Nat.le_mul_of_pos_right _ hone

/-! ## Bounds as literals -/

/-- An exponent without a dash is not negative, and takes two characters. -/
theorem Literal.ExponentSpells.of_dash_not_mem {exponent : Int} {s : List Char}
    (h : ExponentSpells exponent s) (hd : '-' ∉ s) (he : exponent ≠ 0) :
    0 < exponent ∧ 2 ≤ s.length := by
  cases h with
  | missing => exact absurd rfl he
  | @written mark negative sign digits _ hs hn =>
      have hlen := List.length_pos_of_ne_nil hn
      cases hs with
      | missing => exact ⟨by simp at he ⊢; omega, by simp; omega⟩
      | plus => exact ⟨by simp at he ⊢; omega, by simp⟩
      | minus => simp at hd

/-- In a bound an exponent is not negative, and leaves room for no more than one digit after the
point. -/
theorem Literal.MagnitudeSpells.exponent_eq {whole fraction s : List Char} {exponent : Int}
    (h : MagnitudeSpells (.finite whole fraction exponent) s) (hd : '-' ∉ s)
    (hl : s.length ≤ Token.width) (he : exponent ≠ 0) :
    ∃ n : Nat, exponent = n ∧ n ≠ 0 ∧ fraction.length ≤ n := by
  have hfits : 0 < exponent ∧ fraction.length ≤ 1 := by
    cases h with
    | whole _ _ hx =>
        obtain ⟨hpos, _⟩ := hx.of_dash_not_mem (fun hm => hd (by simp [hm])) he
        exact ⟨hpos, Nat.zero_le 1⟩
    | pointed _ _ _ hx =>
        obtain ⟨hpos, hlen⟩ := hx.of_dash_not_mem (fun hm => hd (by simp [hm])) he
        simp only [List.length_append, List.length_cons, Token.width] at hl
        exact ⟨hpos, by omega⟩
  exact ⟨exponent.toNat, by omega, by omega, by omega⟩

/-- In a bound the digits before the point spell the integer part of the number exactly if there is
no exponent, or nothing but zeros for it to move. -/
theorem floor_value_eq_iff {whole fraction s : List Char} {exponent : Int}
    (h : Literal.MagnitudeSpells (.finite whole fraction exponent) s) (hd : '-' ∉ s)
    (hl : s.length ≤ Token.width) :
    ⌊(digitsValue (whole ++ fraction) : ℚ) * 10 ^ (exponent - (fraction.length : ℤ))⌋ =
        digitsValue whole ↔ ¬ (exponent ≠ 0 ∧ digitsValue (whole ++ fraction) ≠ 0) := by
  by_cases he : exponent = 0
  · subst he
    have hfraction : ∀ c ∈ fraction, c.isDigit = true := by
      cases h with
      | whole => simp
      | pointed _ _ hf => exact hf
    simp only [floor_value whole fraction hfraction, ne_eq, not_true_eq_false, false_and,
      not_false_eq_true]
  · by_cases hz : digitsValue (whole ++ fraction) = 0
    · have hwhole : digitsValue whole = 0 := by
        have happend := Text.digitsValue_append whole fraction
        have hle := Nat.le_mul_of_pos_right (digitsValue whole)
          (Nat.pow_pos (by decide : 0 < 10) : 0 < 10 ^ fraction.length)
        omega
      simp [hz, hwhole]
    · obtain ⟨n, rfl, hn, hf⟩ := h.exponent_eq hd hl he
      have hlt := lt_value hf hn hz
      have hcast : (digitsValue (whole ++ fraction) : ℚ) *
          10 ^ ((n : ℤ) - (fraction.length : ℤ)) =
            ((digitsValue (whole ++ fraction) * 10 ^ (n - fraction.length) : ℕ) : ℚ) := by
        rw [← Nat.cast_sub hf, zpow_natCast]
        push_cast
        rfl
      rw [hcast, Int.floor_natCast]
      simp only [he, hz, ne_eq, not_false_eq_true, and_self, not_true_eq_false, iff_false]
      omega

/-- What is read from a bound is the integer part of the number that it denotes exactly if it is a
number and no exponent changes its value. -/
theorem readAsSpelled_iff {s : List Char} {literal : Literal} (h : literal.Spells s)
    (hd : '-' ∉ s) (hl : s.length ≤ Token.width) :
    ReadAsSpelled s ↔ literal.IsNumber ∧ ¬ literal.IsScaled := by
  have hthis : ReadAsSpelled s ↔
      ∃ value, literal.value? = some value ∧ initialInteger s = integerPart value := by
    constructor
    · rintro ⟨other, value, hs, hv, hi⟩
      obtain rfl := hs.unique h
      exact ⟨value, hv, hi⟩
    · rintro ⟨value, hv, hi⟩
      exact ⟨literal, value, h, hv, hi⟩
  rw [hthis]
  obtain ⟨negative, magnitude⟩ := literal
  have hnegative : negative = false := by
    cases h with
    | mk hs _ => cases hs <;> simp_all
  subst hnegative
  cases magnitude with
  | infinite => simp [Literal.value?, Magnitude.value?, Literal.IsNumber]
  | undefined => simp [Literal.value?, Magnitude.value?, Literal.IsNumber]
  | finite whole fraction exponent =>
      have hread : initialInteger s = digitsValue whole := initialInteger_of_spells h
      have hpart : integerPart ((digitsValue (whole ++ fraction) : ℚ) *
          10 ^ (exponent - (fraction.length : ℤ))) =
            ⌊(digitsValue (whole ++ fraction) : ℚ) * 10 ^ (exponent - (fraction.length : ℤ))⌋ :=
        if_neg (not_lt.mpr (mul_nonneg (Nat.cast_nonneg _) (zpow_nonneg (by decide) _)))
      have hfloor : ⌊(digitsValue (whole ++ fraction) : ℚ) *
          10 ^ (exponent - (fraction.length : ℤ))⌋ = digitsValue whole ↔
            ¬ (exponent ≠ 0 ∧ digitsValue (whole ++ fraction) ≠ 0) := by
        cases h with
        | mk hs hm =>
            exact floor_value_eq_iff hm (fun hmem => hd (by simp [hmem])) (by simp at hl; omega)
      rw [← hpart] at hfloor
      simpa [Literal.value?, Magnitude.value?, Literal.IsNumber, Literal.IsScaled, hread,
        eq_comm] using hfloor

/-- A segment is accepted with bounds that spell one literal each and no other, the first of them a
number. A bound is read as the integer part of the number that it spells exactly if it is no word
and no exponent changes its value; a word as the second bound is read as zero, which repeats the
first one. -/
theorem read_as_spelled_of_accepted {segment : List Char} {pageCount : Nat} {pages : List Nat}
    (h : (appendSegment segment pageCount pages).1 = .ok ()) :
    let bounds := Bounds.ofSegment segment
    ∃ first last : Literal,
      (∀ literal : Literal, literal.Spells bounds.firstText ↔ literal = first) ∧
      (∀ literal : Literal, literal.Spells bounds.lastText ↔ literal = last) ∧
      first.IsNumber ∧
      (ReadAsSpelled bounds.firstText ↔ ¬ first.IsScaled) ∧
      (ReadAsSpelled bounds.lastText ↔ last.IsNumber ∧ ¬ last.IsScaled) ∧
      (¬ last.IsNumber → initialInteger bounds.lastText = 0) := by
  have hrun : ∃ run, selectRun segment pageCount = .ok run := by
    unfold appendSegment at h
    cases hs : selectRun segment pageCount with
    | error e => simp [hs] at h
    | ok run => exact ⟨run, rfl⟩
  obtain ⟨run, hrun⟩ := hrun
  obtain ⟨⟨hf, hl⟩, ⟨hpos, _⟩, _⟩ := (selectRun_eq_ok_iff segment pageCount run).mp hrun
  obtain ⟨first, hfirst⟩ := isLiteral_iff.mp hf
  obtain ⟨last, hlast⟩ := isLiteral_iff.mp hl
  have hfits := Bounds.fits_ofSegment segment
  obtain ⟨hdf, hdl⟩ := dash_not_mem_bounds segment
  rw [← (bounds_eq segment).1] at hdf
  rw [← (bounds_eq segment).2] at hdl
  have hnumber : first.IsNumber := by
    by_contra hn
    have hz := initialInteger_of_not_isNumber hfirst hn
    omega
  refine ⟨first, last, hfirst.spells_iff_eq, hlast.spells_iff_eq, hnumber, ?_, ?_,
    initialInteger_of_not_isNumber hlast⟩
  · rw [readAsSpelled_iff hfirst hdf hfits.length_firstText_le]
    simp [hnumber]
  · exact readAsSpelled_iff hlast hdl hfits.length_lastText_le

/-- An exponent in the first bound and a word as the second one are both accepted. -/
theorem read_as_spelled_of_accepted_exponent :
    (appendSegment "1e1-inf".toList 20 []).1 = .ok () ∧
      ∃ first last : Literal,
        (∀ literal : Literal, literal.Spells ['1', 'e', '1'] ↔ literal = first) ∧
        (∀ literal : Literal, literal.Spells ['i', 'n', 'f'] ↔ literal = last) ∧
        first.IsNumber ∧ (ReadAsSpelled ['1', 'e', '1'] ↔ ¬ first.IsScaled) ∧
        (ReadAsSpelled ['i', 'n', 'f'] ↔ last.IsNumber ∧ ¬ last.IsScaled) ∧
        (¬ last.IsNumber → initialInteger ['i', 'n', 'f'] = 0) := by
  have haccepted : (appendSegment "1e1-inf".toList 20 []).1 = .ok () := by decide
  exact ⟨haccepted, read_as_spelled_of_accepted haccepted⟩

/-- The bound of the segment `1e1` denotes ten and is read as one. -/
theorem not_forall_readAsSpelled :
    ¬ ∀ (segment : List Char) (pageCount : Nat) (pages : List Nat),
      (appendSegment segment pageCount pages).1 = .ok () →
        ReadAsSpelled (Bounds.ofSegment segment).firstText ∧
          ReadAsSpelled (Bounds.ofSegment segment).lastText := by
  intro h
  have hfirst := (h ['1', 'e', '1'] 20 [] (by decide)).1
  have htext : (Bounds.ofSegment ['1', 'e', '1']).firstText = ['1', 'e', '1'] := by decide
  have hspells : Literal.Spells ⟨false, .finite ['1'] [] 1⟩ ['1', 'e', '1'] :=
    Literal.read?_eq_some_iff.mp (by decide)
  rw [htext, readAsSpelled_iff hspells (by decide) (by decide)] at hfirst
  exact hfirst.2 ⟨['1'], [], 1, rfl, by decide, by decide⟩

end PrintJob.Range
