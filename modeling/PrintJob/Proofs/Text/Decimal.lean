import PrintJob.Text.Numeral
import Mathlib.Algebra.Ring.Nat

/-! # Decimal numerals

The digits of a number spell that number, and their first digits spell a smaller one. -/

namespace PrintJob.Text

/-! ## The value of digits -/

theorem digitsValue_eq_ofDigitChars (digits : List Char) :
    digitsValue digits = Nat.ofDigitChars 10 digits 0 := by
  simp only [digitsValue, digitValue, Nat.ofDigitChars_eq_foldl, Nat.mul_comm]

theorem digitsValue_append (xs ys : List Char) :
    digitsValue (xs ++ ys) = digitsValue xs * 10 ^ ys.length + digitsValue ys := by
  simp only [digitsValue_eq_ofDigitChars]
  rw [Nat.ofDigitChars_append, Nat.ofDigitChars_eq_ofDigitChars_zero, Nat.mul_comm]

theorem digitsValue_singleton_lt {c : Char} (h : c.isDigit = true) : digitsValue [c] < 10 := by
  have hc : c.toNat ≤ 57 := by
    simp only [Char.isDigit, Bool.and_eq_true, decide_eq_true_eq, UInt32.le_iff_toNat_le] at h
    exact h.2
  have hz : '0'.toNat = 48 := rfl
  simp only [digitsValue, digitValue, List.foldl_cons, List.foldl_nil]
  omega

/-- A number takes at least as many digits as it has. -/
theorem digitsValue_lt {digits : List Char} (h : ∀ c ∈ digits, c.isDigit = true) :
    digitsValue digits < 10 ^ digits.length := by
  induction digits with
  | nil => decide
  | cons c rest ih =>
      have hc := digitsValue_singleton_lt (h c (by simp))
      have hr := ih fun d hd => h d (by simp [hd])
      rw [← List.singleton_append, digitsValue_append]
      calc digitsValue [c] * 10 ^ rest.length + digitsValue rest
          < (digitsValue [c] + 1) * 10 ^ rest.length := by rw [Nat.succ_mul]; omega
        _ ≤ 10 * 10 ^ rest.length := Nat.mul_le_mul_right _ hc
        _ = 10 ^ ([c] ++ rest).length := by simp [Nat.pow_succ, Nat.mul_comm]

/-- Digits are split from a text that goes on without one. -/
theorem splitDigits_append_of_head {digits rest : List Char}
    (hd : ∀ c ∈ digits, c.isDigit = true) (hr : ∀ c ∈ rest.head?, c.isDigit = false) :
    splitDigits (digits ++ rest) = (digits, rest) := by
  rw [splitDigits, List.takeWhile_append_of_pos hd, List.dropWhile_append_of_pos hd]
  cases rest with
  | nil => simp
  | cons c tail => simp [hr c (by simp)]

/-! ## The digits of a number -/

theorem decimal_ne_nil (n : Nat) : decimal n ≠ [] := Nat.toDigits_ne_nil

theorem isDigit_of_mem_decimal {n : Nat} {c : Char} (h : c ∈ decimal n) : c.isDigit = true :=
  Nat.isDigit_of_mem_toDigits (by decide) (by decide) h

theorem length_decimal_le_iff {n count : Nat} (h : 0 < count) :
    (decimal n).length ≤ count ↔ n < 10 ^ count :=
  Nat.length_toDigits_le_iff (by decide) h

@[simp] theorem digitsValue_decimal (n : Nat) : digitsValue (decimal n) = n := by
  rw [digitsValue_eq_ofDigitChars, decimal, Nat.ofDigitChars_ten_toDigits]

/-! ## The first digits of a number -/

/-- The number that the first digits of a number spell. -/
def leading (count n : Nat) : Nat := digitsValue ((decimal n).take count)

theorem leading_eq_self {count n : Nat} (h : n < 10 ^ count) (hc : 0 < count) :
    leading count n = n := by
  have hl := (length_decimal_le_iff hc).mpr h
  rw [leading, List.take_of_length_le hl, digitsValue_decimal]

theorem leading_lt (count n : Nat) : leading count n < 10 ^ count := by
  have hd : ∀ c ∈ (decimal n).take count, c.isDigit = true := fun c hc =>
    isDigit_of_mem_decimal (List.mem_of_mem_take hc)
  calc leading count n < 10 ^ ((decimal n).take count).length := digitsValue_lt hd
    _ ≤ 10 ^ count := Nat.pow_le_pow_right (by decide) (List.length_take_le _ _)

theorem leading_le {count : Nat} (hc : 0 < count) (n : Nat) : leading count n ≤ n := by
  rcases Nat.lt_or_ge n (10 ^ count) with h | h
  · exact Nat.le_of_eq (leading_eq_self h hc)
  · exact Nat.le_trans (Nat.le_of_lt (leading_lt count n)) h

/-- A number does not start with a zero, so that its first digits spell more than nothing. -/
theorem leading_pos {count n : Nat} (hc : 0 < count) (hn : 0 < n) : 0 < leading count n := by
  rcases Nat.lt_or_ge n (10 ^ count) with h | h
  · rwa [leading_eq_self h hc]
  · apply Nat.pos_of_ne_zero
    intro hz
    have hd : ∀ c ∈ (decimal n).drop count, c.isDigit = true := fun c hm =>
      isDigit_of_mem_decimal (List.mem_of_mem_drop hm)
    -- Without the first digits the others would spell the number, in fewer places than it has.
    have hv : n = digitsValue ((decimal n).drop count) := by
      have hs := digitsValue_append ((decimal n).take count) ((decimal n).drop count)
      rwa [List.take_append_drop, digitsValue_decimal, ← leading, hz, Nat.zero_mul,
        Nat.zero_add] at hs
    have hlt := digitsValue_lt hd
    have hlen : count < (decimal n).length := by
      rw [← Nat.not_le, length_decimal_le_iff hc]
      omega
    rw [← hv, List.length_drop] at hlt
    have hle := (length_decimal_le_iff (Nat.sub_pos_of_lt hlen)).mpr hlt
    omega

end PrintJob.Text
