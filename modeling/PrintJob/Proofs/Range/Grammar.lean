import PrintJob.Proofs.Range.Bounds

/-! # The grammar of decimal literals

Rules for the spelling of a decimal literal beside the reader. The rules do not invoke the reader,
and a text is read as a literal exactly if the rules derive that literal. -/

namespace PrintJob.Range

open Text (digitsValue splitDigits splitDigits_append_of_head)

namespace Literal

/-- A sign, and whether it is the negative one. -/
inductive SignSpells : Bool → List Char → Prop where
  | missing : SignSpells false []
  | plus : SignSpells false ['+']
  | minus : SignSpells true ['-']

/-- An exponent is a letter, an optional sign and digits, or it is missing. -/
inductive ExponentSpells : Int → List Char → Prop where
  | missing : ExponentSpells 0 []
  | written {mark : Char} {negative : Bool} {sign digits : List Char} :
      mark = 'e' ∨ mark = 'E' → SignSpells negative sign → digits ≠ [] →
      (∀ c ∈ digits, c.isDigit = true) →
      ExponentSpells (if negative then -(digitsValue digits : Int) else digitsValue digits)
        (mark :: (sign ++ digits))

/-- A magnitude is digits, digits around a point with at least one of them, or a word in any mixture
of cases. An exponent may follow digits. -/
inductive MagnitudeSpells : Magnitude → List Char → Prop where
  | whole {digits tail : List Char} {exponent : Int} :
      digits ≠ [] → (∀ c ∈ digits, c.isDigit = true) → ExponentSpells exponent tail →
      MagnitudeSpells (.finite digits [] exponent) (digits ++ tail)
  | pointed {whole fraction tail : List Char} {exponent : Int} :
      whole ≠ [] ∨ fraction ≠ [] → (∀ c ∈ whole, c.isDigit = true) →
      (∀ c ∈ fraction, c.isDigit = true) → ExponentSpells exponent tail →
      MagnitudeSpells (.finite whole fraction exponent) (whole ++ '.' :: (fraction ++ tail))
  | infinite {word : List Char} :
      word.map Char.toLower = ['i', 'n', 'f'] ∨
        word.map Char.toLower = ['i', 'n', 'f', 'i', 'n', 'i', 't', 'y'] →
      MagnitudeSpells .infinite word
  | undefined {word : List Char} :
      word.map Char.toLower = ['n', 'a', 'n'] → MagnitudeSpells .undefined word

/-- A literal is a sign and a magnitude. -/
inductive Spells : Literal → List Char → Prop where
  | mk {negative : Bool} {magnitude : Magnitude} {sign rest : List Char} :
      SignSpells negative sign → MagnitudeSpells magnitude rest →
      Spells ⟨negative, magnitude⟩ (sign ++ rest)

/-! ## Signs -/

/-- What starts a magnitude is neither a sign nor a blank. -/
structure Starts (c : Char) : Prop where
  ne_plus : c ≠ '+'
  ne_minus : c ≠ '-'
  not_blank : Text.isAsciiBlank c = false

theorem starts_of_isDigit {c : Char} (h : c.isDigit = true) : Starts c := by
  refine ⟨?_, ?_, isAsciiBlank_of_isDigit h⟩ <;> rintro rfl <;> cases h

theorem starts_point : Starts '.' := ⟨by decide, by decide, by decide⟩

/-- A letter that begins a word is neither a digit nor a point. -/
theorem letter_of_toLower {c letter : Char} (hl : letter = 'i' ∨ letter = 'n')
    (h : c.toLower = letter) : c.isDigit = false ∧ c ≠ '.' ∧ Starts c := by
  have hne : ∀ d : Char, d.toLower ≠ 'i' → d.toLower ≠ 'n' → c ≠ d := by
    rintro d hi hn rfl
    rcases hl with rfl | rfl
    · exact hi h
    · exact hn h
  refine ⟨?_, hne '.' (by decide) (by decide), hne '+' (by decide) (by decide),
    hne '-' (by decide) (by decide), ?_⟩
  · apply Bool.eq_false_iff.mpr
    intro hd
    have hu : ¬ (c.val ≥ 'A'.val ∧ c.val ≤ 'Z'.val) := by
      have hnine : '9'.toNat = 57 := rfl
      have hA : 'A'.val.toNat = 65 := rfl
      have hc : c.val.toNat = c.toNat := rfl
      have hle := (Char.isDigit_iff_toNat.mp hd).2
      simp only [ge_iff_le, UInt32.le_iff_toNat_le]
      omega
    have hsame : c.toLower = c := dif_neg hu
    rw [hsame] at h
    rcases hl with rfl | rfl <;> subst h <;> cases hd
  · apply Bool.eq_false_iff.mpr
    intro hb
    simp only [Text.isAsciiBlank, Bool.or_eq_true, beq_iff_eq] at hb
    rcases hb with (((rfl | rfl) | rfl) | rfl) | rfl <;>
      rcases hl with rfl | rfl <;> exact absurd h (by decide)

/-- A magnitude without digits is a word, and starts with a letter. -/
theorem MagnitudeSpells.exists_letter {magnitude : Magnitude} {s : List Char}
    (h : MagnitudeSpells magnitude s)
    (hn : ∀ whole fraction exponent, magnitude ≠ .finite whole fraction exponent) :
    ∃ c rest, s = c :: rest ∧ c.isDigit = false ∧ c ≠ '.' ∧ Starts c := by
  have hword : ∃ letter letters, (letter = 'i' ∨ letter = 'n') ∧
      s.map Char.toLower = letter :: letters := by
    cases h with
    | whole => exact absurd rfl (hn _ _ _)
    | pointed => exact absurd rfl (hn _ _ _)
    | infinite hw =>
        rcases hw with hw | hw
        · exact ⟨_, _, .inl rfl, hw⟩
        · exact ⟨_, _, .inl rfl, hw⟩
    | undefined hw => exact ⟨_, _, .inr rfl, hw⟩
  obtain ⟨letter, letters, hl, hw⟩ := hword
  cases s with
  | nil => cases hw
  | cons c rest => exact ⟨c, rest, rfl, letter_of_toLower hl (List.cons.inj hw).1⟩

theorem MagnitudeSpells.exists_starts {magnitude : Magnitude} {s : List Char}
    (h : MagnitudeSpells magnitude s) : ∃ c rest, s = c :: rest ∧ Starts c := by
  have hletter := h.exists_letter
  cases h with
  | @whole digits tail _ hn hd =>
      obtain ⟨c, rest, rfl⟩ := List.exists_cons_of_ne_nil hn
      exact ⟨c, rest ++ tail, rfl, starts_of_isDigit (hd c (by simp))⟩
  | @pointed whole fraction tail _ _ hw =>
      cases whole with
      | nil => exact ⟨'.', fraction ++ tail, rfl, starts_point⟩
      | cons c rest => exact ⟨c, _, rfl, starts_of_isDigit (hw c (by simp))⟩
  | infinite =>
      obtain ⟨c, rest, hc, _, _, hstart⟩ := hletter (by simp)
      exact ⟨c, rest, hc, hstart⟩
  | undefined =>
      obtain ⟨c, rest, hc, _, _, hstart⟩ := hletter (by simp)
      exact ⟨c, rest, hc, hstart⟩

/-- A sign is taken off a text that goes on without one. -/
theorem splitSign_append {negative : Bool} {sign rest : List Char} (hs : SignSpells negative sign)
    (hr : ∀ c ∈ rest.head?, c ≠ '+' ∧ c ≠ '-') : splitSign (sign ++ rest) = (negative, rest) := by
  cases hs with
  | plus => rfl
  | minus => rfl
  | missing =>
      cases rest with
      | nil => rfl
      | cons c tail =>
          obtain ⟨hp, hm⟩ := hr c (by simp)
          unfold splitSign
          split <;> simp_all

theorem signSpells_splitSign (s : List Char) :
    ∃ sign, SignSpells (splitSign s).1 sign ∧ s = sign ++ (splitSign s).2 := by
  unfold splitSign
  split
  · exact ⟨_, .minus, rfl⟩
  · exact ⟨_, .plus, rfl⟩
  · exact ⟨_, .missing, rfl⟩

/-! ## Digits -/

theorem isDigit_of_mem_splitDigits (s : List Char) :
    ∀ c ∈ (splitDigits s).1, c.isDigit = true :=
  fun _ hc => List.mem_takeWhile_imp hc

theorem readInteger?_eq_some_iff {s : List Char} {n : Nat} :
    readInteger? s = some n ↔ s ≠ [] ∧ (∀ c ∈ s, c.isDigit = true) ∧ n = digitsValue s := by
  unfold readInteger?
  split
  · rename_i h
    constructor
    · intro hn
      cases hn
    · rintro ⟨hn, hd, _⟩
      simp [hn] at h
      obtain ⟨c, hc, hcd⟩ := h
      simp [hd c hc] at hcd
  · rename_i h
    simp only [Bool.or_eq_true, List.isEmpty_iff, Bool.not_eq_true', List.all_eq_false, not_or,
      not_exists, not_and, Bool.not_eq_true, Bool.not_eq_false] at h
    constructor
    · rintro ⟨⟩
      exact ⟨h.1, h.2, rfl⟩
    · rintro ⟨_, _, rfl⟩
      rfl

/-! ## Exponents -/

theorem readExponent?_eq_some_iff {s : List Char} {exponent : Int} :
    readExponent? s = some exponent ↔ ExponentSpells exponent s := by
  constructor
  · intro h
    cases s with
    | nil =>
        obtain rfl : (0 : Int) = exponent := Option.some.inj h
        exact .missing
    | cons mark rest =>
        rw [readExponent?] at h
        split at h
        · rename_i hm
          obtain ⟨sign, hs, hrest⟩ := signSpells_splitSign rest
          cases hn : readInteger? (splitSign rest).2 with
          | none => simp [hn] at h
          | some n =>
              obtain ⟨hne, hd, rfl⟩ := readInteger?_eq_some_iff.mp hn
              have hwritten := ExponentSpells.written hm hs hne hd
              simp only [hn] at h
              obtain rfl := Option.some.inj h
              rwa [← hrest] at hwritten
        · cases h
  · intro h
    cases h with
    | missing => rfl
    | @written mark negative sign digits hm hs hn hd =>
        have hsplit : splitSign (sign ++ digits) = (negative, digits) := by
          apply splitSign_append hs
          intro c hc
          have hstart := starts_of_isDigit (hd c (List.mem_of_mem_head? hc))
          exact ⟨hstart.ne_plus, hstart.ne_minus⟩
        simp [readExponent?, hm, hsplit, readInteger?_eq_some_iff.mpr ⟨hn, hd, rfl⟩]

/-- An exponent starts with its letter. -/
theorem ExponentSpells.head {exponent : Int} {s : List Char} (h : ExponentSpells exponent s) :
    ∀ c ∈ s.head?, c = 'e' ∨ c = 'E' := by
  cases h with
  | missing => simp
  | written hm => simpa using hm

theorem ExponentSpells.head_not_digit {exponent : Int} {s : List Char}
    (h : ExponentSpells exponent s) : ∀ c ∈ s.head?, c.isDigit = false := by
  intro c hc
  rcases h.head c hc with rfl | rfl <;> decide

/-! ## Magnitudes -/

/-- The digits, the point and the exponent of a magnitude are read back as they were spelled. -/
theorem readFinite?_of_spells {whole fraction s : List Char} {exponent : Int}
    (h : MagnitudeSpells (.finite whole fraction exponent) s) :
    readFinite? s = some (.finite whole fraction exponent) := by
  cases h with
  | @whole _ tail _ hn hd he =>
      have hf : splitFraction tail = ([], tail) := by
        unfold splitFraction
        split
        · rcases he.head '.' (by simp) with hc | hc <;> cases hc
        · rfl
      simp [readFinite?, splitDigits_append_of_head hd he.head_not_digit, hf, hn,
        readExponent?_eq_some_iff.mpr he]
  | @pointed _ _ tail _ hn hw hf he =>
      have hp : splitDigits (whole ++ '.' :: (fraction ++ tail)) =
          (whole, '.' :: (fraction ++ tail)) :=
        splitDigits_append_of_head hw (by simp)
      have hne : (whole.isEmpty && fraction.isEmpty) = false := by
        rcases hn with hn | hn <;> simp [hn]
      simp [readFinite?, hp, splitFraction, splitDigits_append_of_head hf he.head_not_digit, hne,
        readExponent?_eq_some_iff.mpr he]

theorem spells_of_readFinite? {s : List Char} {magnitude : Magnitude}
    (h : readFinite? s = some magnitude) : MagnitudeSpells magnitude s := by
  have hwhole := isDigit_of_mem_splitDigits s
  have happend := Text.splitDigits_append s
  unfold readFinite? at h
  generalize splitDigits s = parts at h hwhole happend
  obtain ⟨whole, rest⟩ := parts
  dsimp only at h hwhole happend
  subst happend
  unfold splitFraction at h
  split at h
  · rename_i after
    have hfraction := isDigit_of_mem_splitDigits after
    have happend := Text.splitDigits_append after
    generalize splitDigits after = parts at h hfraction happend
    obtain ⟨fraction, tail⟩ := parts
    dsimp only at h hfraction happend
    subst happend
    split at h
    · cases h
    · rename_i hne
      obtain ⟨exponent, he, rfl⟩ := Option.map_eq_some_iff.mp h
      refine .pointed ?_ hwhole hfraction (readExponent?_eq_some_iff.mp he)
      simpa [Classical.or_iff_not_imp_left] using hne
  · dsimp only at h
    split at h
    · cases h
    · rename_i hne
      obtain ⟨exponent, he, rfl⟩ := Option.map_eq_some_iff.mp h
      exact .whole (by simpa using hne) hwhole (readExponent?_eq_some_iff.mp he)

/-- A text that starts with neither a digit nor a point has no digits to read. -/
theorem readFinite?_eq_none {c : Char} {rest : List Char} (hd : c.isDigit = false) (hp : c ≠ '.') :
    readFinite? (c :: rest) = none := by
  have hf : splitFraction (c :: rest) = ([], c :: rest) := by
    unfold splitFraction
    split
    · simp_all
    · rfl
  simp [readFinite?, splitDigits, hd, hf]

theorem readWord?_eq_some_iff {s : List Char} {magnitude : Magnitude} :
    readWord? s = some magnitude ↔
      magnitude = .infinite ∧ (s.map Char.toLower = ['i', 'n', 'f'] ∨
        s.map Char.toLower = ['i', 'n', 'f', 'i', 'n', 'i', 't', 'y']) ∨
      magnitude = .undefined ∧ s.map Char.toLower = ['n', 'a', 'n'] := by
  unfold readWord?
  dsimp only
  generalize s.map Char.toLower = word
  split
  · rename_i h
    constructor
    · rintro ⟨⟩
      exact .inl ⟨rfl, h⟩
    · rintro (⟨rfl, _⟩ | ⟨_, rfl⟩)
      · rfl
      · rcases h with h | h <;> cases h
  · rename_i h
    split
    · rename_i hn
      constructor
      · rintro ⟨⟩
        exact .inr ⟨rfl, hn⟩
      · rintro (⟨_, hw⟩ | ⟨rfl, _⟩)
        · exact absurd hw h
        · rfl
    · rename_i hn
      simp only [h, hn, and_false, or_false, reduceCtorEq]

theorem readMagnitude_eq_some_iff {s : List Char} {magnitude : Magnitude} :
    (readFinite? s).or (readWord? s) = some magnitude ↔ MagnitudeSpells magnitude s := by
  constructor
  · intro h
    rcases Option.or_eq_some_iff.mp h with h | ⟨_, h⟩
    · exact spells_of_readFinite? h
    · rcases readWord?_eq_some_iff.mp h with ⟨rfl, hw⟩ | ⟨rfl, hw⟩
      · exact .infinite hw
      · exact .undefined hw
  · intro h
    have hletter := h.exists_letter
    cases magnitude with
    | finite whole fraction exponent => simp [readFinite?_of_spells h]
    | infinite =>
        obtain ⟨c, rest, rfl, hd, hp, _⟩ := hletter (by simp)
        cases h with
        | infinite hw =>
            simp [readFinite?_eq_none hd hp, readWord?_eq_some_iff.mpr (.inl ⟨rfl, hw⟩)]
    | undefined =>
        obtain ⟨c, rest, rfl, hd, hp, _⟩ := hletter (by simp)
        cases h with
        | undefined hw =>
            simp [readFinite?_eq_none hd hp, readWord?_eq_some_iff.mpr (.inr ⟨rfl, hw⟩)]

/-! ## Literals -/

/-- The sign of a literal is taken off. -/
theorem splitSign_of_spells {negative : Bool} {magnitude : Magnitude} {sign rest : List Char}
    (hs : SignSpells negative sign) (hm : MagnitudeSpells magnitude rest) :
    splitSign (sign ++ rest) = (negative, rest) := by
  apply splitSign_append hs
  obtain ⟨c, tail, rfl, hc⟩ := hm.exists_starts
  simpa using ⟨hc.ne_plus, hc.ne_minus⟩

/-- The reader reads what the rules derive, and nothing else. -/
theorem read?_eq_some_iff {s : List Char} {literal : Literal} :
    read? s = some literal ↔ literal.Spells s := by
  have hread : read? s = ((readFinite? (splitSign s).2).or (readWord? (splitSign s).2)).map
      (⟨(splitSign s).1, ·⟩) := rfl
  rw [hread]
  constructor
  · intro h
    obtain ⟨magnitude, hm, hl⟩ := Option.map_eq_some_iff.mp h
    obtain ⟨sign, hs, happend⟩ := signSpells_splitSign s
    have hspells := Spells.mk hs (readMagnitude_eq_some_iff.mp hm)
    rwa [← happend, hl] at hspells
  · intro h
    cases h with
    | @mk negative magnitude sign rest hs hm =>
        simp [splitSign_of_spells hs hm, readMagnitude_eq_some_iff.mpr hm]

/-- A text spells at most one literal. -/
theorem Spells.unique {s : List Char} {a b : Literal} (ha : a.Spells s) (hb : b.Spells s) :
    a = b :=
  Option.some.inj ((read?_eq_some_iff.mpr ha).symm.trans (read?_eq_some_iff.mpr hb))

theorem Spells.spells_iff_eq {s : List Char} {a : Literal} (h : a.Spells s) (b : Literal) :
    b.Spells s ↔ b = a := by
  refine ⟨fun hb => hb.unique h, ?_⟩
  intro he
  rwa [he]

end Literal

/-- A text is a literal as a whole. -/
def SpellsLiteral (s : List Char) : Prop := ∃ literal : Literal, literal.Spells s

/-- Bounds are checked by the grammar of literals; a literal does not start with a blank anyway. -/
theorem isLiteral_iff {s : List Char} : isLiteral s = true ↔ SpellsLiteral s := by
  have hread : (Literal.read? s).isSome = true ↔ SpellsLiteral s := by
    simp only [Option.isSome_iff_exists, Literal.read?_eq_some_iff, SpellsLiteral]
  have hstart : SpellsLiteral s → ∃ c rest, s = c :: rest ∧ Text.isAsciiBlank c = false := by
    rintro ⟨_, @⟨_, _, _, _, hs, hm⟩⟩
    cases hs with
    | plus => exact ⟨'+', _, rfl, by decide⟩
    | minus => exact ⟨'-', _, rfl, by decide⟩
    | missing =>
        obtain ⟨c, rest, hc, hb⟩ := hm.exists_starts
        exact ⟨c, rest, hc, hb.not_blank⟩
  constructor
  · intro h
    cases s with
    | nil => cases h
    | cons c rest =>
        simp only [isLiteral, Bool.and_eq_true] at h
        exact hread.mp h.2
  · intro h
    obtain ⟨c, rest, rfl, hb⟩ := hstart h
    simp [isLiteral, hb, hread.mpr h]

end PrintJob.Range
