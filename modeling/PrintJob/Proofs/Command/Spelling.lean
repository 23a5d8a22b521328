import PrintJob.Command.Run
import PrintJob.Proofs.Text.Positional
import Mathlib.Data.List.TakeWhile

/-! # Spellings of a status word

A status word is spelled as a decimal numeral, or as a hexadecimal one behind a mark, and there may
be blanks around it. What is read is the number that is spelled, if that is a status word. -/

namespace PrintJob

namespace Text

/-! ## Blanks around a text -/

/-- A text with nothing but blank characters around another one. -/
def IsPadded (body text : List Char) : Prop :=
  ∃ before after, (∀ c ∈ before, isBlank c = true) ∧ (∀ c ∈ after, isBlank c = true) ∧
    text = before ++ body ++ after

theorem isPadded_trim (text : List Char) : IsPadded (trim text) text := by
  let middle := text.dropWhile isBlank
  refine ⟨text.takeWhile isBlank, (middle.reverse.takeWhile isBlank).reverse, ?_, ?_, ?_⟩
  · intro c hc
    exact List.mem_takeWhile_imp hc
  · intro c hc
    exact List.mem_takeWhile_imp (List.mem_reverse.mp hc)
  · have hmiddle : trim text ++ (middle.reverse.takeWhile isBlank).reverse = middle := by
      rw [trim, ← List.reverse_append, List.takeWhile_append_dropWhile, List.reverse_reverse]
    rw [List.append_assoc, hmiddle, List.takeWhile_append_dropWhile]

theorem dropWhile_append_visible {blanks visible : List Char}
    (hb : ∀ c ∈ blanks, isBlank c = true) (hv : ∀ c ∈ visible, isBlank c = false)
    (hn : visible ≠ []) (rest : List Char) :
    (blanks ++ (visible ++ rest)).dropWhile isBlank = visible ++ rest := by
  rw [List.dropWhile_append_of_pos hb]
  cases visible with
  | nil => exact absurd rfl hn
  | cons c more => simp [hv c (by simp)]

/-- The blanks around a text that has none are what is trimmed. -/
theorem IsPadded.trim_eq {body text : List Char} (h : IsPadded body text)
    (hv : ∀ c ∈ body, isBlank c = false) (hn : body ≠ []) : trim text = body := by
  obtain ⟨before, after, hbefore, hafter, rfl⟩ := h
  have hback : (after.reverse ++ body.reverse).dropWhile isBlank = body.reverse := by
    simpa using dropWhile_append_visible (by simpa using hafter) (by simpa using hv)
      (by simpa using hn) []
  rw [trim, List.append_assoc, dropWhile_append_visible hbefore hv hn, List.reverse_append, hback,
    List.reverse_reverse]

/-! ## Characters of a numeral -/

variable {radix n : Nat} {s : List Char} {c : Char}

theorem IsDigit.isBlank_eq_false {value : Nat} (hr : radix ≤ 16) (h : IsDigit radix c value) :
    isBlank c = false := by
  have hall : ∀ value < 16,
      isBlank value.digitChar = false ∧ isBlank value.digitChar.toUpper = false := by decide
  obtain ⟨hv, rfl | rfl⟩ := h
  · exact (hall value (by omega)).1
  · exact (hall value (by omega)).2

theorem Numeral.ne_nil (h : Numeral radix s n) : s ≠ [] := by
  cases h with
  | plain h => exact h.ne_nil
  | signed _ => exact List.cons_ne_nil _ _

theorem Numeral.mem (h : Numeral radix s n) (hc : c ∈ s) :
    c = '+' ∨ ∃ value, IsDigit radix c value := by
  cases h with
  | plain h => exact .inr (h.isDigit_of_mem c hc)
  | signed h =>
      rcases List.mem_cons.mp hc with rfl | hc
      · exact .inl rfl
      · exact .inr (h.isDigit_of_mem c hc)

theorem Numeral.visible (hr : radix ≤ 16) (h : Numeral radix s n) :
    ∀ c ∈ s, isBlank c = false := by
  intro c hc
  rcases h.mem hc with rfl | ⟨value, hv⟩
  · decide
  · exact hv.isBlank_eq_false hr

end Text

namespace Command

open Text

variable {text : String} {s : List Char} {n : Nat}

/-! ## Spellings -/

/-- The letter between the zero and the digits of a hexadecimal spelling. -/
def IsMark (c : Char) : Prop := c = 'x' ∨ c = 'X'

/-- A decimal numeral, or a hexadecimal one behind a mark. -/
inductive Spells : List Char → Nat → Prop
  | decimal {s : List Char} {n : Nat} : Numeral 10 s n → Spells s n
  | hexadecimal {mark : Char} {s : List Char} {n : Nat} : IsMark mark → Numeral 16 s n →
      Spells ('0' :: mark :: s) n

/-- A spelling of a number with blanks around it. -/
def IsWritten (text : String) (n : Nat) : Prop :=
  ∃ body, IsPadded body text.toList ∧ Spells body n

theorem Spells.ne_nil (h : Spells s n) : s ≠ [] := by
  cases h with
  | decimal h => exact h.ne_nil
  | hexadecimal _ _ => exact List.cons_ne_nil _ _

theorem Spells.visible (h : Spells s n) : ∀ c ∈ s, isBlank c = false := by
  cases h with
  | decimal h => exact h.visible (by decide)
  | hexadecimal hm h =>
      intro c hc
      simp only [List.mem_cons] at hc
      rcases hc with rfl | rfl | hc
      · decide
      · rcases hm with rfl | rfl <;> decide
      · exact h.visible (by decide) c hc

theorem isWritten_iff : IsWritten text n ↔ Spells (trim text.toList) n := by
  constructor
  · rintro ⟨body, hpadded, hspells⟩
    rwa [hpadded.trim_eq hspells.visible hspells.ne_nil]
  · intro h
    exact ⟨_, isPadded_trim _, h⟩

/-! ## Reading a spelling -/

theorem readBits_hexadecimal {mark : Char} (hm : IsMark mark)
    (ht : trim text.toList = '0' :: mark :: s) : readBits text = readNat 16 UInt64.size s := by
  rw [readBits, ht]
  rcases hm with rfl | rfl
  · rfl
  · rfl

theorem readBits_decimal (h : ∀ mark s, IsMark mark → trim text.toList ≠ '0' :: mark :: s) :
    readBits text = readNat 10 UInt64.size (trim text.toList) := by
  unfold readBits
  split
  · rename_i s hs
    exact absurd hs (h 'x' s (.inl rfl))
  · rename_i s hs
    exact absurd hs (h 'X' s (.inr rfl))
  · rfl

/-- The mark is no decimal digit. -/
theorem not_numeral_mark {mark : Char} (hm : IsMark mark) : ¬Numeral 10 ('0' :: mark :: s) n := by
  have hd : digitIn? 10 mark = none := by rcases hm with rfl | rfl <;> decide
  intro h
  rcases h.mem (c := mark) (by simp) with rfl | ⟨value, hv⟩
  · rcases hm with hm | hm <;> cases hm
  · rw [← digitIn?_eq_some_iff (by decide), hd] at hv
    cases hv

/-- A spelling is read as its number unless that is too large. -/
theorem Spells.readBits_eq (h : Spells (trim text.toList) n) :
    readBits text = if n < UInt64.size then .ok n else .error .tooLarge := by
  generalize ht : trim text.toList = body at h
  cases h with
  | decimal h =>
      rw [readBits_decimal, ht, h.readNat_eq (by decide)]
      intro mark s hm hs
      rw [← ht, hs] at h
      exact not_numeral_mark hm h
  | hexadecimal hm h => rw [readBits_hexadecimal hm ht, h.readNat_eq (by decide)]

theorem spells_of_readBits (h : readBits text = .ok n) :
    Spells (trim text.toList) n ∧ n < UInt64.size := by
  by_cases hx : ∃ mark s, IsMark mark ∧ trim text.toList = '0' :: mark :: s
  · obtain ⟨mark, s, hm, ht⟩ := hx
    rw [readBits_hexadecimal hm ht] at h
    obtain ⟨hn, hlt⟩ := (readNat_eq_ok_iff (by decide)).mp h
    rw [ht]
    exact ⟨.hexadecimal hm hn, hlt⟩
  · rw [readBits_decimal fun mark s hm ht => hx ⟨mark, s, hm, ht⟩] at h
    obtain ⟨hn, hlt⟩ := (readNat_eq_ok_iff (by decide)).mp h
    exact ⟨.decimal hn, hlt⟩

theorem readBits_eq_ok_iff : readBits text = .ok n ↔ IsWritten text n ∧ n < UInt64.size := by
  rw [isWritten_iff]
  constructor
  · exact spells_of_readBits
  · rintro ⟨hs, hn⟩
    rw [hs.readBits_eq, if_pos hn]

/-! ## Spellings of a number -/

/-- The ways to spell a number by the digits it has and a number of zeros in front of them. -/
inductive Spelling (n zeros : Nat) : List Char → Prop
  | decimal : Spelling n zeros (List.replicate zeros '0' ++ Nat.toDigits 10 n)
  | lower {mark : Char} : IsMark mark →
      Spelling n zeros ('0' :: mark :: (List.replicate zeros '0' ++ Nat.toDigits 16 n))
  | upper {mark : Char} : IsMark mark →
      Spelling n zeros
        ('0' :: mark :: (List.replicate zeros '0' ++ (Nat.toDigits 16 n).map Char.toUpper))

theorem Spelling.spells {zeros : Nat} (h : Spelling n zeros s) : Spells s n := by
  cases h with
  | decimal => exact .decimal (.plain ((Denotes.toDigits (by decide) n).zeros_append zeros))
  | lower hm =>
      exact .hexadecimal hm (.plain ((Denotes.toDigits (by decide) n).zeros_append zeros))
  | upper hm =>
      exact .hexadecimal hm (.plain ((Denotes.toUpper_toDigits (by decide) n).zeros_append zeros))

theorem Spells.isWritten (h : Spells s n) : IsWritten (String.ofList s) n :=
  ⟨s, ⟨[], [], by simp, by simp, by simp⟩, h⟩

/-- A text is read as a number exactly if that number is written there and is a status word. Any
other text is refused, and a number that is written there and is no status word is too large. Every
status word is read from each of its spellings. -/
theorem readBits_reads_spellings :
    (∀ text n, readBits text = .ok n ↔ IsWritten text n ∧ n < 2 ^ 64) ∧
    (∀ text, (∃ error, readBits text = .error error) ↔ ¬∃ n, IsWritten text n ∧ n < 2 ^ 64) ∧
    (∀ text n, IsWritten text n → 2 ^ 64 ≤ n → readBits text = .error .tooLarge) ∧
    ∀ (word : UInt64) (zeros : Nat) (s : List Char), Spelling word.toNat zeros s →
      readBits (String.ofList s) = .ok word.toNat := by
  have hok (text : String) (n : Nat) : readBits text = .ok n ↔ IsWritten text n ∧ n < 2 ^ 64 :=
    readBits_eq_ok_iff
  refine ⟨hok, ?_, ?_, ?_⟩
  · intro text
    simp only [← hok]
    cases readBits text <;> simp
  · intro text n hwritten hn
    have hlarge : ¬n < UInt64.size := Nat.not_lt.mpr hn
    rw [(isWritten_iff.mp hwritten).readBits_eq, if_neg hlarge]
  · intro word zeros s hs
    exact (hok _ _).mpr ⟨hs.spells.isWritten, word.toNat_lt⟩

/-- The first number that is no status word, and the last one that is, with zeros in front. -/
theorem readBits_reads_spellings_at_bound :
    IsWritten "18446744073709551616" (2 ^ 64) ∧
      readBits "18446744073709551616" = .error .tooLarge ∧
      Spelling 18446744073709551615 2 "0X00FFFFFFFFFFFFFFFF".toList ∧
      readBits "0X00FFFFFFFFFFFFFFFF" = .ok 18446744073709551615 := by
  obtain ⟨_, _, hlarge, hword⟩ := readBits_reads_spellings
  have hfirst : Spelling (2 ^ 64) 0 "18446744073709551616".toList := by
    have hs : "18446744073709551616".toList = List.replicate 0 '0' ++ Nat.toDigits 10 (2 ^ 64) := by
      decide +kernel
    rw [hs]
    exact .decimal
  have hlast : Spelling 18446744073709551615 2 "0X00FFFFFFFFFFFFFFFF".toList := by
    have hs : "0X00FFFFFFFFFFFFFFFF".toList = '0' :: 'X' :: (List.replicate 2 '0' ++
        (Nat.toDigits 16 18446744073709551615).map Char.toUpper) := by decide +kernel
    rw [hs]
    exact .upper (.inr rfl)
  have hwritten := hfirst.spells.isWritten
  rw [String.ofList_toList] at hwritten
  have hread := hword 18446744073709551615 2 _ hlast
  rw [String.ofList_toList] at hread
  exact ⟨hwritten, hlarge _ _ hwritten (Nat.le_refl _), hlast, hread⟩

end Command

end PrintJob
