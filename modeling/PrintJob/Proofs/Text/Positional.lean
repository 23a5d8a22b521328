import PrintJob.Text.Numeral
import Mathlib.Algebra.Ring.Nat
import Mathlib.Data.List.Induction

/-! # Numerals in a radix

A numeral is a digit, or a numeral with one more digit behind it, with an optional plus sign in
front. What is read is what a numeral denotes, as long as that is below the bound. -/

namespace PrintJob.Text

variable {radix bound n : Nat} {s : List Char} {c : Char}

/-! ## Digits -/

/-- A character that stands for a value, as a digit of either case. -/
def IsDigit (radix : Nat) (c : Char) (value : Nat) : Prop :=
  value < radix ∧ (c = value.digitChar ∨ c = value.digitChar.toUpper)

theorem toNat_lt_of_digitIn? {value : Nat} (h : digitIn? radix c = some value) : c.toNat < 128 := by
  have hle {last : Char} (hc : c ≤ last) : c.toNat ≤ last.toNat := hc
  simp only [digitIn?, Option.filter_eq_some_iff] at h
  obtain ⟨h, _⟩ := h
  split at h
  · rename_i hc
    exact Nat.lt_of_le_of_lt (hle hc.2) (by decide)
  · split at h
    · rename_i hc
      exact Nat.lt_of_le_of_lt (hle hc.2) (by decide)
    · split at h
      · rename_i hc
        exact Nat.lt_of_le_of_lt (hle hc.2) (by decide)
      · cases h

theorem digitIn?_eq_some_iff {value : Nat} (hr : radix ≤ 16) :
    digitIn? radix c = some value ↔ IsDigit radix c value := by
  -- Digits are among the first characters, which are few enough to be tried one after the other.
  have hfirst : ∀ code < 128, ∀ value < 16,
      (digitIn? 16 (Char.ofNat code) = some value ↔
        (Char.ofNat code = value.digitChar ∨ Char.ofNat code = value.digitChar.toUpper)) := by
    decide +kernel
  have hsmall : ∀ value < 16,
      value.digitChar.toNat < 128 ∧ value.digitChar.toUpper.toNat < 128 := by decide
  have hread : digitIn? radix c = some value ↔ value < radix ∧ digitIn? 16 c = some value := by
    simp only [digitIn?, Option.filter_eq_some_iff, decide_eq_true_eq]
    constructor
    · rintro ⟨hc, hv⟩
      exact ⟨hv, hc, by omega⟩
    · rintro ⟨hv, hc, _⟩
      exact ⟨hc, hv⟩
  rw [hread, IsDigit, and_congr_right_iff]
  intro hv
  have hv' : value < 16 := by omega
  by_cases hc : c.toNat < 128
  · simpa only [Char.ofNat_toNat] using hfirst c.toNat hc value hv'
  · constructor
    · intro h
      exact absurd (toNat_lt_of_digitIn? h) hc
    · rintro (rfl | rfl)
      · exact absurd (hsmall value hv').1 hc
      · exact absurd (hsmall value hv').2 hc

/-! ## Digits that denote a number -/

/-- Digits that denote a number, the highest one first. -/
inductive Denotes (radix : Nat) : List Char → Nat → Prop
  | single {c : Char} {value : Nat} : IsDigit radix c value → Denotes radix [c] value
  | append {s : List Char} {n : Nat} {c : Char} {value : Nat} : Denotes radix s n →
      IsDigit radix c value → Denotes radix (s ++ [c]) (n * radix + value)

namespace Denotes

theorem ne_nil (h : Denotes radix s n) : s ≠ [] := by
  cases h <;> simp

theorem isDigit_of_mem (h : Denotes radix s n) : ∀ c ∈ s, ∃ value, IsDigit radix c value := by
  induction h with
  | single hc => simpa using ⟨_, hc⟩
  | append _ hc ih =>
      intro c hm
      rcases List.mem_append.mp hm with hm | hm
      · exact ih c hm
      · exact ⟨_, List.mem_singleton.mp hm ▸ hc⟩

/-- A leading zero changes nothing. -/
theorem zero_cons (h : Denotes radix s n) : Denotes radix ('0' :: s) n := by
  induction h with
  | @single c value hc =>
      have hz : IsDigit radix '0' 0 := ⟨Nat.lt_of_le_of_lt (Nat.zero_le _) hc.1, .inl rfl⟩
      have h := append (single hz) hc
      rwa [Nat.zero_mul, Nat.zero_add] at h
  | append _ hc ih => exact append ih hc

theorem zeros_append (h : Denotes radix s n) (zeros : Nat) :
    Denotes radix (List.replicate zeros '0' ++ s) n := by
  induction zeros with
  | zero => exact h
  | succ zeros ih => exact ih.zero_cons

/-- The digits of a number denote it in either case. -/
theorem map_toDigits (hr : 1 < radix) {recase : Char → Char}
    (hcase : ∀ value : Nat, recase value.digitChar = value.digitChar ∨
      recase value.digitChar = value.digitChar.toUpper) (n : Nat) :
    Denotes radix ((Nat.toDigits radix n).map recase) n := by
  induction n using Nat.strongRecOn with
  | ind n ih =>
      rw [Nat.toDigits_eq_if hr]
      split
      · rename_i hn
        exact single ⟨hn, hcase n⟩
      · have hn : n / radix < n := Nat.div_lt_self (by omega) hr
        have hd := append (ih _ hn) ⟨Nat.mod_lt n (by omega), hcase (n % radix)⟩
        rwa [Nat.div_add_mod', ← List.map_singleton, ← List.map_append] at hd

theorem toDigits (hr : 1 < radix) (n : Nat) : Denotes radix (Nat.toDigits radix n) n := by
  simpa using map_toDigits hr (fun value => .inl (id_eq value.digitChar)) n

theorem toUpper_toDigits (hr : 1 < radix) (n : Nat) :
    Denotes radix ((Nat.toDigits radix n).map Char.toUpper) n :=
  map_toDigits hr (fun _ => .inr rfl) n

end Denotes

/-! ## Reading digits -/

theorem appendDigits_append (value : Nat) (s t : List Char) :
    appendDigits radix bound value (s ++ t) =
      appendDigits radix bound value s >>= fun next => appendDigits radix bound next t := by
  induction s generalizing value with
  | nil => rfl
  | cons c rest ih =>
      simp only [List.cons_append, appendDigits]
      cases digitIn? radix c with
      | none => rfl
      | some digit =>
          dsimp only
          split
          · exact ih _
          · rfl

theorem appendDigits_singleton (hr : radix ≤ 16) {digit : Nat} (h : IsDigit radix c digit)
    (bound value : Nat) :
    appendDigits radix bound value [c] =
      if value * radix + digit < bound then .ok (value * radix + digit) else .error .tooLarge := by
  simp [appendDigits, (digitIn?_eq_some_iff hr).mpr h]

/-- The digits of a number are read as that number unless it is too large. -/
theorem Denotes.appendDigits_eq (hr : radix ≤ 16) (h : Denotes radix s n) :
    appendDigits radix bound 0 s = if n < bound then .ok n else .error .tooLarge := by
  induction h with
  | single hc =>
      have hd := appendDigits_singleton hr hc bound 0
      rwa [Nat.zero_mul, Nat.zero_add] at hd
  | @append s n c value _ hc ih =>
      -- The digits in front denote no more than all of them.
      have hle : n ≤ n * radix + value :=
        Nat.le_trans (Nat.le_mul_of_pos_right n (Nat.zero_lt_of_lt hc.1)) (Nat.le_add_right _ _)
      rw [appendDigits_append, ih]
      by_cases hn : n < bound
      · rw [if_pos hn]
        exact appendDigits_singleton hr hc bound n
      · rw [if_neg hn, if_neg (by omega)]
        rfl

theorem denotes_of_appendDigits (hr : radix ≤ 16) (hs : s ≠ [])
    (h : appendDigits radix bound 0 s = .ok n) : Denotes radix s n := by
  induction s using List.reverseRecOn generalizing n with
  | nil => exact absurd rfl hs
  | append_singleton s c ih =>
      rw [appendDigits_append] at h
      cases hread : appendDigits radix bound 0 s with
      | error error => simp [hread, bind, Except.bind] at h
      | ok value =>
          rw [hread] at h
          change appendDigits radix bound value [c] = .ok n at h
          cases hd : digitIn? radix c with
          | none => simp [appendDigits, hd] at h
          | some digit =>
              have hc := (digitIn?_eq_some_iff hr).mp hd
              rw [appendDigits_singleton hr hc] at h
              split at h
              · cases h
                cases s with
                | nil =>
                    obtain rfl : 0 = value := Except.ok.inj hread
                    simpa using Denotes.single hc
                | cons first rest => exact .append (ih (by simp) hread) hc
              · cases h

/-! ## Reading numerals -/

/-- Digits that denote a number, with or without a plus sign in front. -/
inductive Numeral (radix : Nat) : List Char → Nat → Prop
  | plain {s : List Char} {n : Nat} : Denotes radix s n → Numeral radix s n
  | signed {s : List Char} {n : Nat} : Denotes radix s n → Numeral radix ('+' :: s) n

theorem not_isDigit_plus (hr : radix ≤ 16) (value : Nat) : ¬IsDigit radix '+' value := by
  rw [← digitIn?_eq_some_iff hr]
  simp [digitIn?]

theorem readNat_signed (hs : s ≠ []) :
    readNat radix bound ('+' :: s) = appendDigits radix bound 0 s := by
  cases s with
  | nil => exact absurd rfl hs
  | cons c rest => rfl

theorem readNat_plain (hs : s ≠ []) (hp : s.head? ≠ some '+') :
    readNat radix bound s = appendDigits radix bound 0 s := by
  unfold readNat
  split
  · exact absurd rfl hs
  · simp at hp
  · simp at hp
  · rfl

theorem Denotes.readNat_eq (hr : radix ≤ 16) (h : Denotes radix s n) :
    readNat radix bound s = appendDigits radix bound 0 s := by
  apply readNat_plain h.ne_nil
  intro hp
  obtain ⟨value, hv⟩ := h.isDigit_of_mem '+' (List.mem_of_head? hp)
  exact not_isDigit_plus hr value hv

/-- A numeral is read as its number unless that is too large. -/
theorem Numeral.readNat_eq (hr : radix ≤ 16) (h : Numeral radix s n) :
    readNat radix bound s = if n < bound then .ok n else .error .tooLarge := by
  cases h with
  | plain h => rw [h.readNat_eq hr, h.appendDigits_eq hr]
  | signed h => rw [readNat_signed h.ne_nil, h.appendDigits_eq hr]

theorem numeral_of_readNat (hr : radix ≤ 16) (h : readNat radix bound s = .ok n) :
    Numeral radix s n := by
  unfold readNat at h
  split at h
  · cases h
  · cases h
  · rename_i digits hne
    exact .signed (denotes_of_appendDigits hr hne h)
  · rename_i hne _ _
    exact .plain (denotes_of_appendDigits hr hne h)

theorem readNat_eq_ok_iff (hr : radix ≤ 16) :
    readNat radix bound s = .ok n ↔ Numeral radix s n ∧ n < bound := by
  constructor
  · intro h
    have hn := numeral_of_readNat hr h
    rw [hn.readNat_eq hr] at h
    split at h
    · rename_i hlt
      exact ⟨hn, hlt⟩
    · cases h
  · rintro ⟨hn, hlt⟩
    rw [hn.readNat_eq hr, if_pos hlt]

end PrintJob.Text
