import PrintJob.Proofs.Text.Decimal
import PrintJob.Range.Segment
import Mathlib.Algebra.Ring.Int.Defs
import Mathlib.Data.List.TakeWhile

/-! # Bounds of a segment

What characters leave in the token of a bound, and the number that the token is read as. A token
keeps the first four digits of a number, and no token is read as more than 9999. -/

namespace PrintJob.Range

open Text (decimal digitsValue splitDigits leading)

/-! ## Tokens -/

namespace Token

/-- Characters are written behind the position as far as they fit, and every one that fits takes
the place of one that remained from before. -/
theorem foldl_push (token : Token) (chunk : List Char) :
    chunk.foldl push token =
      ⟨token.written ++ chunk.take (width - token.position),
        token.remaining.drop (min (width - token.position) chunk.length)⟩ := by
  unfold position
  induction chunk generalizing token with
  | nil => simp
  | cons c rest ih =>
      rw [List.foldl_cons, push]
      by_cases h : token.written.length < width
      · obtain ⟨room, hr⟩ : ∃ room, width - token.written.length = room + 1 :=
          ⟨width - token.written.length - 1, by omega⟩
        have hp : width - (token.written ++ [c]).length = room := by
          rw [List.length_append, List.length_singleton]
          omega
        rw [if_pos h, ih, hp, hr, List.take_succ_cons, List.length_cons, Nat.add_min_add_right,
          List.drop_drop, List.append_assoc, List.singleton_append, Nat.add_comm 1]
      · have hz : width - token.written.length = 0 := by omega
        rw [if_neg h, ih, hz]
        simp

/-- A fresh token keeps the first characters. -/
theorem text_foldl_push_empty (chunk : List Char) :
    (chunk.foldl push empty).text = chunk.take width := by
  simp [foldl_push, text, empty, position]

/-- Neither the text of a token nor what is written of it is too long for the token. -/
structure Fits (token : Token) : Prop where
  written_le : token.written.length ≤ width
  text_le : token.text.length ≤ width

theorem fits_empty : Fits empty := ⟨Nat.zero_le _, Nat.zero_le _⟩

theorem Fits.rewind {token : Token} (h : token.Fits) : token.rewind.Fits :=
  ⟨Nat.zero_le _, h.text_le⟩

theorem Fits.push {token : Token} (h : token.Fits) (c : Char) : (token.push c).Fits := by
  have ht := h.text_le
  unfold Token.push
  split
  · rename_i hw
    constructor
    · rw [List.length_append, List.length_singleton]
      omega
    · simp only [text, List.length_append, List.length_drop, List.length_singleton] at ht ⊢
      omega
  · exact h

end Token

/-! ## Reading a segment -/

/-- The characters of a segment that count. -/
def visible (segment : List Char) : List Char := segment.filter fun c => !Text.isAsciiBlank c

namespace Bounds

/-- Characters without a dash all go to one of the bounds. -/
theorem foldl_feed {chunk : List Char} (h : '-' ∉ chunk) (bounds : Bounds) :
    chunk.foldl feed bounds =
      if bounds.dashed then { bounds with last := (visible chunk).foldl Token.push bounds.last }
      else { bounds with first := (visible chunk).foldl Token.push bounds.first } := by
  induction chunk generalizing bounds with
  | nil => simp [visible]
  | cons c rest ih =>
      obtain ⟨hc, hr⟩ : '-' ≠ c ∧ '-' ∉ rest := by simpa using h
      rw [List.foldl_cons, ih hr, feed]
      by_cases hb : Text.isAsciiBlank c = true
      · simp [hb, visible]
      · cases bounds.dashed <;> simp [hb, Ne.symm hc, visible]

theorem ofSegment_of_not_mem {segment : List Char} (h : '-' ∉ segment) :
    ofSegment segment = ⟨(visible segment).foldl Token.push .empty, .empty, false⟩ := by
  rw [ofSegment, foldl_feed h]
  rfl

theorem ofSegment_append_dash {first last : List Char} (hf : '-' ∉ first) (hl : '-' ∉ last) :
    ofSegment (first ++ '-' :: last) =
      ⟨((visible first).foldl Token.push .empty).rewind,
        (visible last).foldl Token.push .empty, true⟩ := by
  have hs := ofSegment_of_not_mem hf
  rw [ofSegment] at hs ⊢
  rw [List.foldl_append, hs, List.foldl_cons, foldl_feed hl]
  rfl

/-- Both tokens of the bounds fit. -/
structure Fits (bounds : Bounds) : Prop where
  first : bounds.first.Fits
  last : bounds.last.Fits

theorem Fits.feed {bounds : Bounds} (h : bounds.Fits) (c : Char) : (bounds.feed c).Fits := by
  unfold Bounds.feed
  split
  · exact h
  · split
    · exact ⟨h.first.rewind, h.last.rewind⟩
    · split
      · exact ⟨h.first, h.last.push c⟩
      · exact ⟨h.first.push c, h.last⟩

theorem Fits.foldl_feed {bounds : Bounds} (h : bounds.Fits) (segment : List Char) :
    (segment.foldl Bounds.feed bounds).Fits := by
  induction segment generalizing bounds with
  | nil => exact h
  | cons c rest ih => exact ih (h.feed c)

theorem fits_ofSegment (segment : List Char) : (ofSegment segment).Fits :=
  Fits.foldl_feed ⟨Token.fits_empty, Token.fits_empty⟩ segment

theorem Fits.length_firstText_le {bounds : Bounds} (h : bounds.Fits) :
    bounds.firstText.length ≤ Token.width := h.first.text_le

theorem Fits.length_lastText_le {bounds : Bounds} (h : bounds.Fits) :
    bounds.lastText.length ≤ Token.width := by
  unfold lastText
  split
  · exact h.last.text_le
  · decide

end Bounds

/-! ## Reading a bound -/

theorem splitSign_of_isDigit {c : Char} (h : c.isDigit = true) (rest : List Char) :
    Literal.splitSign (c :: rest) = (false, c :: rest) := by
  unfold Literal.splitSign
  split
  · simp_all
  · simp_all
  · rfl

theorem splitDigits_of_isDigit {digits : List Char} (h : ∀ c ∈ digits, c.isDigit = true) :
    splitDigits digits = (digits, []) := by
  rw [splitDigits, List.takeWhile_eq_self_iff.mpr h, List.dropWhile_eq_nil_iff.mpr h]

theorem isAsciiBlank_of_isDigit {c : Char} (h : c.isDigit = true) :
    Text.isAsciiBlank c = false := by
  apply Bool.eq_false_iff.mpr
  intro hb
  simp only [Text.isAsciiBlank, Bool.or_eq_true, beq_iff_eq] at hb
  rcases hb with (((rfl | rfl) | rfl) | rfl) | rfl <;> cases h

/-- Digits are a literal for the number that they spell. -/
theorem isLiteral_of_isDigit {digits : List Char} (hn : digits ≠ [])
    (h : ∀ c ∈ digits, c.isDigit = true) : isLiteral digits = true := by
  cases digits with
  | nil => exact absurd rfl hn
  | cons c rest =>
      have hc := h c (by simp)
      simp [isLiteral, isAsciiBlank_of_isDigit hc, Literal.read?, splitSign_of_isDigit hc,
        Literal.readFinite?, splitDigits_of_isDigit h, Literal.splitFraction,
        Literal.readExponent?]

theorem initialInteger_of_isDigit {digits : List Char} (h : ∀ c ∈ digits, c.isDigit = true) :
    initialInteger digits = digitsValue digits := by
  cases digits with
  | nil => rfl
  | cons c rest =>
      simp [initialInteger, splitSign_of_isDigit (h c (by simp)), splitDigits_of_isDigit h]

/-- The number at the start of a text has no more places than the text. -/
theorem initialInteger_lt (s : List Char) : initialInteger s < 10 ^ s.length := by
  have hs : (Literal.splitSign s).2.length ≤ s.length := by
    unfold Literal.splitSign
    split <;> simp
  have hv : digitsValue (splitDigits (Literal.splitSign s).2).1 < 10 ^ s.length := by
    calc digitsValue (splitDigits (Literal.splitSign s).2).1
        < 10 ^ (splitDigits (Literal.splitSign s).2).1.length :=
          Text.digitsValue_lt fun c hc => List.all_eq_true.mp List.all_takeWhile c hc
      _ ≤ 10 ^ s.length := Nat.pow_le_pow_right (by decide)
          ((List.takeWhile_sublist _).length_le.trans hs)
  have hz : (digitsValue (splitDigits (Literal.splitSign s).2).1 : Int) < 10 ^ s.length := by
    exact_mod_cast hv
  unfold initialInteger
  dsimp only
  split <;> omega

/-- No bound is read as a number of five digits. -/
theorem initialInteger_le {s : List Char} (h : s.length ≤ Token.width) :
    initialInteger s ≤ 9999 := by
  have hp : (10 : Int) ^ s.length ≤ 10 ^ 4 := by
    exact_mod_cast Nat.pow_le_pow_right (by decide : 0 < 10) h
  have hi := initialInteger_lt s
  omega

end PrintJob.Range
