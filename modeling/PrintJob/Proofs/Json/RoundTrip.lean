import PrintJob.Json.Printer
import PrintJob.Json.Reader
import PrintJob.Proofs.Text.Decimal
import Mathlib.Data.List.DropRight
import Mathlib.Data.List.Forall2

/-! # JSON read back

A value that is written over several lines is read back as the same value, if it has no
floating-point numbers, no integers beyond the 64-bit ranges, and nothing that denotes nothing. -/

namespace PrintJob.Json

open Text (decimal digitValue digitsValue splitDigits)

/-! ## Strings -/

/-- A piece of a literal denotes a character: itself, or a control character by its number. -/
inductive Denotes : Piece → Char → Prop where
  | char (c : Char) : Denotes (.char c) c
  | unit {c : Char} : c.toNat < 0x20 → Denotes (.unit c.toNat) c

theorem joinPieces_of_denotes {pieces : List Piece} {cs : List Char}
    (h : List.Forall₂ Denotes pieces cs) : joinPieces pieces = some cs := by
  induction h with
  | nil => rfl
  | @cons piece c more rest hd hrest ih =>
      cases hd with
      | char => simp [joinPieces, ih]
      | unit hc =>
          have hl : isLeading c.toNat = false := by simp [isLeading]; omega
          have ht : isTrailing c.toNat = false := by simp [isTrailing]; omega
          cases hrest with
          | nil => simp [joinPieces, hl, ht]
          | cons hnext _ =>
              cases hnext with
              | char => simp [joinPieces, hl, ht] at ih ⊢; simp [ih]
              | unit => simp [joinPieces, hl, ht] at ih ⊢; simp [ih]

/-- The hexadecimal number of a control character. -/
theorem hexUnit?_control :
    ∀ n < 0x20, hexUnit? '0' '0' (Nat.digitChar (n / 16)) (Nat.digitChar (n % 16)) = some n := by
  decide

theorem readPieces_letter {letter c : Char} (hu : letter ≠ 'u') (h : escaped? letter = some c)
    (s : List Char) :
    readPieces ('\\' :: letter :: s) =
      (readPieces s).map fun result => (.char c :: result.1, result.2) := by
  rw [readPieces]
  · rw [h]
    cases readPieces s <;> rfl
  · intro a b c d rest he _
    exact hu he

theorem readPieces_plain {c : Char} (hq : c ≠ '"') (hb : c ≠ '\\') (hc : ¬ c.toNat < 0x20)
    (s : List Char) :
    readPieces (c :: s) = (readPieces s).map fun result => (.char c :: result.1, result.2) := by
  rw [readPieces]
  · have hplain : (decide (c.toNat < 0x20) || c == '\\') = false := by simp [hc, hb]
    rw [if_neg (by simpa using hplain)]
    cases readPieces s <;> rfl
  · exact hq
  · intro a b c d rest he _
    exact hb he
  · intro c' rest he _
    exact hb he

/-- The spelling of a character is read as one piece that denotes it. -/
theorem readPieces_escapeChar (c : Char) (s : List Char) :
    ∃ piece, Denotes piece c ∧
      readPieces (escapeChar c ++ s) =
        (readPieces s).map fun result => (piece :: result.1, result.2) := by
  unfold escapeChar
  split
  · exact ⟨.char _, .char _, readPieces_letter (by decide) rfl s⟩
  · exact ⟨.char _, .char _, readPieces_letter (by decide) rfl s⟩
  · exact ⟨.char _, .char _, readPieces_letter (by decide) rfl s⟩
  · exact ⟨.char _, .char _, readPieces_letter (by decide) rfl s⟩
  · exact ⟨.char _, .char _, readPieces_letter (by decide) rfl s⟩
  · exact ⟨.char _, .char _, readPieces_letter (by decide) rfl s⟩
  · exact ⟨.char _, .char _, readPieces_letter (by decide) rfl s⟩
  · rename_i hq hb _ _ _ _ _
    split
    · rename_i hc
      refine ⟨.unit c.toNat, .unit hc, ?_⟩
      have hunit := hexUnit?_control c.toNat hc
      simp only [controlUnit, List.cons_append, List.nil_append, readPieces, hunit]
      cases readPieces s <;> rfl
    · rename_i hc
      exact ⟨.char c, .char c, readPieces_plain hq hb hc s⟩

/-- A literal is read up to its closing quote, as the text that was written. -/
theorem readPieces_literal (text : String) (rest : List Char) :
    ∃ pieces, readPieces (text.toList.flatMap escapeChar ++ '"' :: rest) = some (pieces, rest) ∧
      textOf? pieces = some text := by
  have hread : ∀ cs : List Char, ∃ pieces, List.Forall₂ Denotes pieces cs ∧
      readPieces (cs.flatMap escapeChar ++ '"' :: rest) = some (pieces, rest) := by
    intro cs
    induction cs with
    | nil => exact ⟨[], .nil, by simp [readPieces]⟩
    | cons c more ih =>
        obtain ⟨pieces, hd, hr⟩ := ih
        obtain ⟨piece, hp, hc⟩ := readPieces_escapeChar c (more.flatMap escapeChar ++ '"' :: rest)
        refine ⟨piece :: pieces, .cons hp hd, ?_⟩
        rw [List.flatMap_cons, List.append_assoc, hc, hr]
        rfl
  obtain ⟨pieces, hd, hr⟩ := hread text.toList
  exact ⟨pieces, hr, by simp [textOf?, joinPieces_of_denotes hd]⟩

/-! ## Numbers -/

/-- What follows a value does not go on with a number. -/
def IsDelimited (rest : List Char) : Prop :=
  ∀ c ∈ rest.head?, c.isDigit = false ∧ c ≠ '.' ∧ c ≠ 'e' ∧ c ≠ 'E'

/-- Digits that spell a number within 64 bits are gathered to the last one. -/
theorem gather_eq {significand : Nat} {digits : List Char}
    (h : significand * 10 ^ digits.length + digitsValue digits < UInt64.size) :
    gather significand digits =
      (significand * 10 ^ digits.length + digitsValue digits, []) := by
  induction digits generalizing significand with
  | nil => simp [gather, digitsValue]
  | cons c rest ih =>
      have happend := Text.digitsValue_append [c] rest
      have hone : digitsValue [c] = digitValue c := by simp [digitsValue]
      have hvalue : (significand * 10 + digitValue c) * 10 ^ rest.length + digitsValue rest =
          significand * 10 ^ (c :: rest).length + digitsValue (c :: rest) := by
        rw [List.singleton_append, hone] at happend
        rw [happend, List.length_cons, Nat.pow_succ, Nat.add_mul, Nat.mul_assoc,
          Nat.mul_comm 10, Nat.add_assoc]
      have hle : significand * 10 + digitValue c ≤
          (significand * 10 + digitValue c) * 10 ^ rest.length :=
        Nat.le_mul_of_pos_right _ (Nat.pow_pos (by decide))
      rw [← hvalue] at h
      rw [gather, if_pos (by omega), ih h, hvalue]

theorem gather_decimal {n : Nat} (h : n < UInt64.size) : gather 0 (decimal n) = (n, []) := by
  rw [gather_eq (by simpa using h)]
  simp

/-- Only the number zero starts with the digit zero. -/
theorem decimal_head (n : Nat) :
    ((decimal n).head? == some '0' && decide (1 < (decimal n).length)) = false := by
  apply Bool.eq_false_iff.mpr
  intro h
  simp only [Bool.and_eq_true, beq_iff_eq, decide_eq_true_eq] at h
  obtain ⟨hhead, hlen⟩ := h
  have hpos : 0 < n := by
    apply Nat.pos_of_ne_zero
    rintro rfl
    exact absurd hlen (by decide)
  have hlead := Text.leading_pos (by decide : 0 < 1) hpos
  obtain ⟨rest, hd⟩ := List.head?_eq_some_iff.mp hhead
  rw [Text.leading, hd] at hlead
  simp [digitsValue, digitValue] at hlead

theorem readUnsigned_decimal (negative : Bool) (n : Nat) {rest : List Char}
    (h : IsDelimited rest) :
    readUnsigned negative (decimal n ++ rest) = some (⟨negative, decimal n, [], none⟩, rest) := by
  have hsplit : splitDigits (decimal n ++ rest) = (decimal n, rest) :=
    Text.splitDigits_append_of_head (fun _ hc => Text.isDigit_of_mem_decimal hc)
      fun c hc => (h c hc).1
  have hfraction : readFraction rest = some ([], rest) := by
    unfold readFraction
    split
    · exact absurd rfl (h '.' (by simp)).2.1
    · rfl
  have hexponent : readExponent rest = some (none, rest) := by
    cases rest with
    | nil => rfl
    | cons c tail =>
        obtain ⟨_, _, he, hE⟩ := h c (by simp)
        unfold readExponent
        split <;> simp_all
  have hhead := decimal_head n
  simp [readUnsigned, hsplit, hhead, Text.decimal_ne_nil, hfraction, hexponent]

/-- An integer in the 64-bit ranges is kept exactly. -/
def InRange (i : Int) : Prop := -(UInt64.size / 2 : Nat) ≤ i ∧ i < UInt64.size

theorem toString_ofNat (n : Nat) : (toString (Int.ofNat n)).toList = decimal n := Nat.toList_repr

theorem toString_negSucc (n : Nat) :
    (toString (Int.negSucc n)).toList = '-' :: decimal (n + 1) := by
  have hrepr : toString (Int.negSucc n) = "-" ++ (n + 1).repr := rfl
  rw [hrepr, String.toList_append, Nat.toList_repr]
  rfl

theorem readNumeral_decimal (n : Nat) {rest : List Char} (h : IsDelimited rest) :
    readNumeral (decimal n ++ rest) = some (⟨false, decimal n, [], none⟩, rest) := by
  obtain ⟨c, more, hd⟩ := List.exists_cons_of_ne_nil (Text.decimal_ne_nil n)
  have hminus : c ≠ '-' := by
    rintro rfl
    exact absurd (Text.isDigit_of_mem_decimal (hd ▸ List.mem_cons_self)) (by decide)
  rw [← readUnsigned_decimal false n h, hd]
  unfold readNumeral
  split
  · simp_all
  · rfl

/-- The text of an integer is read as a numeral of the same value. -/
theorem readNumeral_toString {i : Int} (hi : InRange i) {rest : List Char} (h : IsDelimited rest) :
    ∃ numeral, readNumeral ((toString i).toList ++ rest) = some (numeral, rest) ∧
      numeral.value = .int i := by
  obtain ⟨hl, hu⟩ := hi
  cases i with
  | ofNat n =>
      refine ⟨⟨false, decimal n, [], none⟩, ?_, ?_⟩
      · rw [toString_ofNat, readNumeral_decimal n h]
      · have hn : n < UInt64.size := Int.ofNat_lt.mp hu
        simp [Numeral.value, gather_decimal hn]
  | negSucc n =>
      refine ⟨⟨true, decimal (n + 1), [], none⟩, ?_, ?_⟩
      · rw [toString_negSucc]
        exact readUnsigned_decimal true (n + 1) h
      · have hn : n + 1 ≤ UInt64.size / 2 := by omega
        have hlt : n + 1 < UInt64.size := by
          have hsize : UInt64.size / 2 < UInt64.size := by decide
          omega
        have hle : ¬ UInt64.size / 2 < n + 1 := by omega
        simp [Numeral.value, gather_decimal hlt, hle, Int.negSucc_eq]

/-! ## Blanks -/

@[simp] theorem skipSpace_skipSpace (s : List Char) : skipSpace (skipSpace s) = skipSpace s :=
  List.dropWhile_idempotent isSpace s

@[simp] theorem skipSpace_newLine (level : Nat) (s : List Char) :
    skipSpace (newLine level ++ s) = skipSpace s := by
  have hblank : ∀ c ∈ newLine level, isSpace c = true := by
    intro c hc
    simp only [newLine, List.mem_cons, List.mem_replicate] at hc
    rcases hc with rfl | ⟨_, rfl⟩ <;> rfl
  exact List.dropWhile_append_of_pos hblank

theorem skipSpace_cons {c : Char} (h : isSpace c = false) (s : List Char) :
    skipSpace (c :: s) = c :: s := by
  simp [skipSpace, h]

@[simp] theorem skipSpace_blank (s : List Char) : skipSpace (' ' :: s) = skipSpace s := rfl

theorem readItems_skipSpace (fuel : Nat) (s : List Char) :
    readItems fuel (skipSpace s) = readItems fuel s := by
  cases fuel with
  | zero => simp [readItems]
  | succ fuel => simp only [readItems, skipSpace_skipSpace]

theorem readMembers_skipSpace (fuel : Nat) (s : List Char) :
    readMembers fuel (skipSpace s) = readMembers fuel s := by
  cases fuel with
  | zero => simp [readMembers]
  | succ fuel => simp only [readMembers, skipSpace_skipSpace]

/-! ## Values -/

/-- Every part of a value is kept exactly when it is written. -/
inductive IsExact : Json → Prop where
  | null : IsExact .null
  | bool (value : Bool) : IsExact (.bool value)
  | int {value : Int} : InRange value → IsExact (.int value)
  | text (value : String) : IsExact (.text value)
  | array {items : List Json} : (∀ item ∈ items, IsExact item) → IsExact (.array items)
  | object {members : List (Option String × Json)} : (∀ member ∈ members, member.1.isSome) →
      (∀ member ∈ members, IsExact member.2) → IsExact (.object members)

theorem toString_head (i : Int) :
    ∃ c tail, (toString i).toList = c :: tail ∧ (c = '-' ∨ c.isDigit = true) := by
  cases i with
  | ofNat n =>
      obtain ⟨c, tail, hd⟩ := List.exists_cons_of_ne_nil (Text.decimal_ne_nil n)
      exact ⟨c, tail, (toString_ofNat n).trans hd,
        .inr (Text.isDigit_of_mem_decimal (hd ▸ List.mem_cons_self))⟩
  | negSucc n => exact ⟨'-', _, toString_negSucc n, .inl rfl⟩

/-- A value is written with a first character that is neither a blank nor a closing bracket. -/
theorem prettyValue_head {value : Json} (h : IsExact value) (level : Nat) :
    ∃ c tail, prettyValue level value = c :: tail ∧ isSpace c = false ∧ c ≠ ']' := by
  cases h with
  | null => exact ⟨'n', _, rfl, rfl, by decide⟩
  | bool value => cases value <;> exact ⟨_, _, rfl, rfl, by decide⟩
  | @int i _ =>
      obtain ⟨c, tail, hi, hc⟩ := toString_head i
      refine ⟨c, tail, by simpa [prettyValue, scalar] using hi, ?_, ?_⟩
      · simp only [isSpace, Bool.or_eq_false_iff, beq_eq_false_iff_ne]
        refine ⟨⟨⟨?_, ?_⟩, ?_⟩, ?_⟩ <;> rintro rfl <;> revert hc <;> decide
      · rintro rfl
        revert hc
        decide
  | text value => exact ⟨'"', _, rfl, rfl, by decide⟩
  | @array items _ => cases items <;> exact ⟨'[', _, rfl, rfl, by decide⟩
  | @object members _ _ => cases members <;> exact ⟨'\x7b', _, rfl, rfl, by decide⟩

theorem skipSpace_prettyValue {value : Json} (h : IsExact value) (level : Nat) (s : List Char) :
    skipSpace (prettyValue level value ++ s) = prettyValue level value ++ s := by
  obtain ⟨c, tail, hhead, hc, _⟩ := prettyValue_head h level
  rw [hhead, List.cons_append, skipSpace_cons hc]

/-- A value is read back at any level, up to where it ends. -/
def ReadsBack (value : Json) : Prop :=
  ∀ (level fuel : Nat) (rest : List Char), IsDelimited rest →
    (prettyValue level value).length ≤ fuel →
    readValue fuel (prettyValue level value ++ rest) = some (value, rest)

/-- A value has a text, so that there is fuel for it. -/
theorem readsBack_of_succ {value : Json} (h : IsExact value)
    (hread : ∀ (level fuel : Nat) (rest : List Char), IsDelimited rest →
      (prettyValue level value).length ≤ fuel + 1 →
      readValue (fuel + 1) (prettyValue level value ++ rest) = some (value, rest)) :
    ReadsBack value := by
  intro level fuel rest hrest hfuel
  obtain ⟨c, tail, hhead, _, _⟩ := prettyValue_head h level
  cases fuel with
  | zero => simp [hhead] at hfuel
  | succ fuel => exact hread level fuel rest hrest hfuel

theorem readsBack_int {i : Int} (hi : InRange i) : ReadsBack (.int i) := by
  refine readsBack_of_succ (.int hi) fun level fuel rest hrest _ => ?_
  obtain ⟨numeral, hread, hvalue⟩ := readNumeral_toString hi hrest
  obtain ⟨c, tail, htext, hc⟩ := toString_head i
  have hpretty : prettyValue level (.int i) = (toString i).toList := by simp [prettyValue, scalar]
  have hletter : c ≠ 'n' ∧ c ≠ 't' ∧ c ≠ 'f' ∧ c ≠ '"' ∧ c ≠ '[' ∧ c ≠ '\x7b' := by
    refine ⟨?_, ?_, ?_, ?_, ?_, ?_⟩ <;> rintro rfl <;> revert hc <;> decide
  obtain ⟨hn, ht, hf, hq, ha, ho⟩ := hletter
  rw [htext, List.cons_append] at hread
  rw [hpretty, htext, List.cons_append]
  unfold readValue
  split <;> simp_all

theorem readsBack_text (text : String) : ReadsBack (.text text) := by
  refine readsBack_of_succ (.text text) fun level fuel rest _ _ => ?_
  obtain ⟨pieces, hread, htext⟩ := readPieces_literal text rest
  simp [prettyValue, scalar, literal, readValue, hread, htext]

theorem isDelimited_nil : IsDelimited [] := by simp [IsDelimited]

theorem isDelimited_comma (s : List Char) : IsDelimited (',' :: s) := by simp [IsDelimited]

theorem isDelimited_newLine (level : Nat) (s : List Char) : IsDelimited (newLine level ++ s) := by
  simp [IsDelimited, newLine]

section

variable {value : Json} {level fuel : Nat} {tail rest : List Char}

/-- The last item of an array is read with the closing bracket on the next line. -/
theorem readItems_last (hx : IsExact value) (hr : ReadsBack value)
    (hfuel : (prettyValue level value).length ≤ fuel) (outer : Nat) (rest : List Char) :
    readItems (fuel + 1) (newLine level ++ (prettyValue level value ++
      (newLine outer ++ ']' :: rest))) = some ([value], rest) := by
  have hread := hr level fuel _ (isDelimited_newLine outer (']' :: rest)) hfuel
  simp [readItems, skipSpace_prettyValue hx, hread, skipSpace_cons, isSpace]

/-- An item before a comma is read before the other items. -/
theorem readItems_more (hx : IsExact value) (hr : ReadsBack value)
    (hfuel : (prettyValue level value).length ≤ fuel) {items : List Json}
    (hmore : readItems fuel tail = some (items, rest)) :
    readItems (fuel + 1) (newLine level ++ (prettyValue level value ++ ',' :: tail)) =
      some (value :: items, rest) := by
  have hread := hr level fuel _ (isDelimited_comma tail) hfuel
  simp [readItems, skipSpace_prettyValue hx, hread, skipSpace_cons, isSpace, hmore]

/-- The last member of an object is read with the closing brace on the next line. -/
theorem readMembers_last (key : String) (hx : IsExact value) (hr : ReadsBack value)
    (hfuel : (prettyValue level value).length ≤ fuel) (outer : Nat) (rest : List Char) :
    readMembers (fuel + 1) (newLine level ++ (keyLiteral (some key) ++ ':' :: ' ' ::
      (prettyValue level value ++ (newLine outer ++ '\x7d' :: rest)))) =
        some ([(some key, value)], rest) := by
  have hread := hr level fuel _ (isDelimited_newLine outer ('\x7d' :: rest)) hfuel
  obtain ⟨pieces, hkey, htext⟩ := readPieces_literal key
    (':' :: ' ' :: (prettyValue level value ++ (newLine outer ++ '\x7d' :: rest)))
  simp [readMembers, keyLiteral, literal, hkey, htext, skipSpace_prettyValue hx, hread,
    skipSpace_cons, isSpace]

/-- A member before a comma is read before the other members. -/
theorem readMembers_more (key : String) (hx : IsExact value) (hr : ReadsBack value)
    (hfuel : (prettyValue level value).length ≤ fuel) {members : List (Option String × Json)}
    (hmore : readMembers fuel tail = some (members, rest)) :
    readMembers (fuel + 1) (newLine level ++ (keyLiteral (some key) ++ ':' :: ' ' ::
      (prettyValue level value ++ ',' :: tail))) = some ((some key, value) :: members, rest) := by
  have hread := hr level fuel _ (isDelimited_comma tail) hfuel
  obtain ⟨pieces, hkey, htext⟩ := readPieces_literal key
    (':' :: ' ' :: (prettyValue level value ++ ',' :: tail))
  simp [readMembers, keyLiteral, literal, hkey, htext, skipSpace_prettyValue hx, hread,
    skipSpace_cons, isSpace, hmore]

end

/-- The items of an array are read back one after the other. -/
theorem readItems_prettyItems {items : List Json} (hn : items ≠ [])
    (hx : ∀ item ∈ items, IsExact item) (hr : ∀ item ∈ items, ReadsBack item)
    (level outer fuel : Nat) (hfuel : (prettyItems level items).length < fuel)
    (rest : List Char) :
    readItems fuel (prettyItems level items ++ (newLine outer ++ ']' :: rest)) =
      some (items, rest) := by
  induction items generalizing fuel with
  | nil => exact absurd rfl hn
  | cons item more ih =>
      obtain ⟨fuel, rfl⟩ := Nat.exists_eq_add_one.mpr (by omega : 0 < fuel)
      have hxi := hx item List.mem_cons_self
      have hri := hr item List.mem_cons_self
      cases more with
      | nil =>
          simp only [prettyItems, List.length_append, List.append_assoc] at hfuel ⊢
          exact readItems_last hxi hri (by omega) outer rest
      | cons next more =>
          have hitems : prettyItems level (item :: next :: more) = newLine level ++
              prettyValue level item ++ ',' :: prettyItems level (next :: more) := rfl
          simp only [hitems, List.length_append, List.length_cons, List.append_assoc,
            List.cons_append] at hfuel ⊢
          refine readItems_more hxi hri (by omega) (ih (by simp) ?_ ?_ fuel (by omega))
          · exact fun i hi => hx i (List.mem_cons_of_mem _ hi)
          · exact fun i hi => hr i (List.mem_cons_of_mem _ hi)

/-- The members of an object are read back one after the other. -/
theorem readMembers_prettyMembers {members : List (Option String × Json)} (hn : members ≠ [])
    (hk : ∀ member ∈ members, member.1.isSome) (hx : ∀ member ∈ members, IsExact member.2)
    (hr : ∀ member ∈ members, ReadsBack member.2) (level outer fuel : Nat)
    (hfuel : (prettyMembers level members).length < fuel) (rest : List Char) :
    readMembers fuel (prettyMembers level members ++ (newLine outer ++ '\x7d' :: rest)) =
      some (members, rest) := by
  induction members generalizing fuel with
  | nil => exact absurd rfl hn
  | cons member more ih =>
      obtain ⟨fuel, rfl⟩ := Nat.exists_eq_add_one.mpr (by omega : 0 < fuel)
      have hkm := hk member List.mem_cons_self
      have hxm := hx member List.mem_cons_self
      have hrm := hr member List.mem_cons_self
      obtain ⟨_ | key, value⟩ := member
      · simp at hkm
      · cases more with
        | nil =>
            simp only [prettyMembers, List.length_append, List.length_cons, List.append_assoc,
              List.cons_append] at hfuel ⊢
            exact readMembers_last key hxm hrm (by dsimp only; omega) outer rest
        | cons next more =>
            have hmembers : prettyMembers level ((some key, value) :: next :: more) =
                newLine level ++ keyLiteral (some key) ++ ':' :: ' ' ::
                  (prettyValue level value ++ ',' :: prettyMembers level (next :: more)) := rfl
            simp only [hmembers, List.length_append, List.length_cons, List.append_assoc,
              List.cons_append] at hfuel ⊢
            refine readMembers_more key hxm hrm (by dsimp only; omega)
              (ih (by simp) ?_ ?_ ?_ fuel (by omega))
            · exact fun m hm => hk m (List.mem_cons_of_mem _ hm)
            · exact fun m hm => hx m (List.mem_cons_of_mem _ hm)
            · exact fun m hm => hr m (List.mem_cons_of_mem _ hm)

theorem readsBack_array {items : List Json} (hx : ∀ item ∈ items, IsExact item)
    (hr : ∀ item ∈ items, ReadsBack item) : ReadsBack (.array items) := by
  refine readsBack_of_succ (.array hx) fun level fuel rest _ hfuel => ?_
  cases items with
  | nil => simp [prettyValue, readValue, skipSpace_cons, isSpace]
  | cons item more =>
      have hpretty : prettyValue level (.array (item :: more)) ++ rest =
          '[' :: (prettyItems (level + 1) (item :: more) ++ (newLine level ++ ']' :: rest)) := by
        simp [prettyValue]
      have hitems := readItems_prettyItems (by simp) hx hr (level + 1) level fuel
        (by simp [prettyValue] at hfuel; omega) rest
      obtain ⟨c, tail, hhead, hc, hb⟩ := prettyValue_head (hx item List.mem_cons_self) (level + 1)
      have hstart : ∃ tail, skipSpace (prettyItems (level + 1) (item :: more) ++
          (newLine level ++ ']' :: rest)) = c :: tail := by
        cases more <;> simp [prettyItems, List.append_assoc, hhead, skipSpace_cons hc]
      obtain ⟨tail, hstart⟩ := hstart
      rw [← readItems_skipSpace, hstart] at hitems
      rw [hpretty, readValue]
      simp [hstart, hb, hitems]

theorem readsBack_object {members : List (Option String × Json)}
    (hk : ∀ member ∈ members, member.1.isSome) (hx : ∀ member ∈ members, IsExact member.2)
    (hr : ∀ member ∈ members, ReadsBack member.2) : ReadsBack (.object members) := by
  refine readsBack_of_succ (.object hk hx) fun level fuel rest _ hfuel => ?_
  cases members with
  | nil => simp [prettyValue, readValue, skipSpace_cons, isSpace]
  | cons member more =>
      have hpretty : prettyValue level (.object (member :: more)) ++ rest = '\x7b' ::
          (prettyMembers (level + 1) (member :: more) ++ (newLine level ++ '\x7d' :: rest)) := by
        simp [prettyValue]
      have hmembers := readMembers_prettyMembers (by simp) hk hx hr (level + 1) level fuel
        (by simp [prettyValue] at hfuel; omega) rest
      have hstart : ∃ tail, skipSpace (prettyMembers (level + 1) (member :: more) ++
          (newLine level ++ '\x7d' :: rest)) = '"' :: tail := by
        cases more <;>
          simp [prettyMembers, List.append_assoc, keyLiteral, literal, skipSpace_cons, isSpace]
      obtain ⟨tail, hstart⟩ := hstart
      rw [← readMembers_skipSpace, hstart] at hmembers
      rw [hpretty, readValue]
      simp [hstart, hmembers]

/-- Every exact value is read back. -/
theorem IsExact.readsBack {value : Json} (h : IsExact value) : ReadsBack value := by
  induction h with
  | null => exact readsBack_of_succ .null fun _ _ _ _ _ => rfl
  | bool value =>
      refine readsBack_of_succ (.bool value) fun _ _ _ _ _ => ?_
      cases value <;> rfl
  | int hi => exact readsBack_int hi
  | text value => exact readsBack_text value
  | array hx ih => exact readsBack_array hx ih
  | object hk hx ih => exact readsBack_object hk hx ih

theorem isExact_record {members : List (String × Json)}
    (h : ∀ member ∈ members, IsExact member.2) : IsExact (.record members) := by
  refine .object ?_ ?_ <;> intro member hm <;> obtain ⟨written, hw, rfl⟩ := List.mem_map.mp hm
  · rfl
  · exact h written hw

/-- The text of an exact value is read as the value. -/
theorem parse?_pretty {value : Json} (h : IsExact value) : parse? value.pretty = some value := by
  have hread := h.readsBack 0 ((prettyValue 0 value).length + 1) [] isDelimited_nil (by omega)
  have hskip := skipSpace_prettyValue h 0 []
  rw [List.append_nil] at hread hskip
  simp only [parse?, read?, pretty, String.toList_ofList, hskip, hread]
  rfl

end PrintJob.Json
