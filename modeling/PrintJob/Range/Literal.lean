import PrintJob.Text.Blank
import PrintJob.Text.Numeral

/-! # Decimal literals

A bound is numeric if it is a complete decimal literal: an optional sign and then digits with an
optional point and exponent, or one of the words for infinity and for no number at all. The page it
names is the integer at its start. -/

namespace PrintJob.Range

open Text (splitDigits digitsValue isAsciiBlank)

/-- What a decimal literal spells after its sign. -/
inductive Magnitude where
  /-- Digits before and after the point, and a power of ten. -/
  | finite (whole fraction : List Char) (exponent : Int)
  | infinite
  | undefined
  deriving DecidableEq, Repr

structure Literal where
  negative : Bool
  magnitude : Magnitude
  deriving DecidableEq, Repr

namespace Literal

/-- Takes the sign off a text. -/
def splitSign : List Char → Bool × List Char
  | '-' :: rest => (true, rest)
  | '+' :: rest => (false, rest)
  | s => (false, s)

/-- Reads digits that run to the end of the text. -/
def readInteger? (s : List Char) : Option Nat :=
  if s.isEmpty || !s.all Char.isDigit then none else some (digitsValue s)

/-- Reads an exponent that runs to the end of the text; the empty text is the exponent zero. -/
def readExponent? : List Char → Option Int
  | [] => some 0
  | c :: rest =>
    if c = 'e' ∨ c = 'E' then
      let (below, digits) := splitSign rest
      (readInteger? digits).map fun e => if below then -(e : Int) else e
    else none

/-- Takes the digits after a point off a text. -/
def splitFraction : List Char → List Char × List Char
  | '.' :: rest => splitDigits rest
  | s => ([], s)

/-- Reads digits with an optional point and exponent. There is a digit on one side of the point. -/
def readFinite? (s : List Char) : Option Magnitude :=
  let (whole, rest) := splitDigits s
  let (fraction, rest) := splitFraction rest
  if whole.isEmpty && fraction.isEmpty then none
  else (readExponent? rest).map (.finite whole fraction)

/-- Reads a word, in any mixture of cases. -/
def readWord? (s : List Char) : Option Magnitude :=
  let word := s.map Char.toLower
  if word = ['i', 'n', 'f'] ∨ word = ['i', 'n', 'f', 'i', 'n', 'i', 't', 'y'] then some .infinite
  else if word = ['n', 'a', 'n'] then some .undefined
  else none

/-- Reads a text that is one literal. -/
def read? (s : List Char) : Option Literal :=
  let (negative, rest) := splitSign s
  ((readFinite? rest).or (readWord? rest)).map (⟨negative, ·⟩)

end Literal

/-- A text that is one decimal literal and does not start with a blank. -/
def isLiteral (s : List Char) : Bool :=
  match s with
  | [] => false
  | c :: _ => !isAsciiBlank c && (Literal.read? s).isSome

/-- The integer at the start of a text, and zero if there is none. -/
def initialInteger (s : List Char) : Int :=
  let (negative, rest) := Literal.splitSign s
  let value : Int := digitsValue (splitDigits rest).1
  if negative then -value else value

end PrintJob.Range
